import Blazil.Audit.HashChain
import Blazil.Foundation.Entries
import Blazil.Foundation.Transition

/-! The audit log (`libs/audit/src/store.rs`). A call of `record` takes the lock of the chain to
create its entry and then, apart from that, the lock of the entries to store it. So entries are
numbered and linked when they are created, and stand in the log in that order only if they are also
stored in it. -/

set_option autoImplicit false

namespace Blazil.Audit

open Foundation

variable {events : List AuditEvent}

inductive RecordCall where
  | begun (event : AuditEvent)
  | created (entry : AuditEntry)
  | returned
deriving DecidableEq

def RecordCall.entry : RecordCall → Option AuditEntry
  | .created entry => some entry
  | _ => none

structure AuditLog where
  chain : HashChain
  entries : List AuditEntry
  calls : List RecordCall
deriving DecidableEq

inductive LogLabel where
  | record (event : AuditEvent)
  | create (index : Nat)
  | push (index : Nat)
deriving DecidableEq

namespace AuditLog

variable [AuditCrates]

def new : AuditLog := ⟨HashChain.new, [], []⟩

def step (log : AuditLog) : LogLabel → Option AuditLog
  | .record event => some { log with calls := log.calls ++ [.begun event] }
  | .create index =>
    match log.calls[index]? with
    | some (.begun event) =>
      let created := log.chain.createEntry event
      some { log with chain := created.1, calls := log.calls.set index (.created created.2) }
    | _ => none
  | .push index =>
    match log.calls[index]? with
    | some (.created entry) =>
      some { log with
        entries := log.entries ++ [entry], calls := log.calls.set index .returned }
    | _ => none

def system : System AuditLog LogLabel := ⟨step⟩

def verifyIntegrity (log : AuditLog) : Bool := log.chain.verifyChainFromGenesis log.entries

end AuditLog

section Recording

variable [AuditCrates]

theorem HashChain.record_append (chain : HashChain) (events : List AuditEvent) (event : AuditEvent) :
    chain.record (events ++ [event]) = (((chain.record events).1.createEntry event).1,
        (chain.record events).2 ++ [((chain.record events).1.createEntry event).2]) := by
  induction events generalizing chain with
  | nil => rfl
  | cons _ _ ih => simp [record, ih]

variable {chain : HashChain} {entries : List AuditEntry}

theorem HashChain.record_sequences {next : HashChain}
    (recorded : chain.record events = (next, entries)) (few : chain.sequence.toNat + events.length < UInt64.size) :
    next.sequence.toNat = chain.sequence.toNat + events.length ∧ entries.map (fun entry => entry.sequence.toNat) =
        List.range' chain.sequence.toNat events.length := by
  induction events generalizing chain entries with
  | nil =>
    obtain ⟨rfl, rfl⟩ := Prod.mk.inj recorded
    exact ⟨rfl, rfl⟩
  | cons event _ ih =>
    obtain ⟨rfl, rfl⟩ := Prod.mk.inj recorded
    rw [List.length_cons] at few
    have counted : (chain.createEntry event).1.sequence.toNat = chain.sequence.toNat + 1 := by
      have sum : (chain.createEntry event).1.sequence = chain.sequence + 1 := rfl
      rw [sum, UInt64.toNat_add, UInt64.toNat_one]
      exact Nat.mod_eq_of_lt (Nat.lt_of_le_of_lt (by omega) few)
    obtain ⟨number, numbers⟩ := @ih (chain.createEntry event).1 _ rfl (by omega)
    constructor
    · rw [number, counted, List.length_cons]
      omega
    · rw [List.map_cons, numbers, counted, List.length_cons, List.range'_succ]
      rfl

theorem HashChain.record_increasing {next : HashChain}
    (recorded : chain.record events = (next, entries)) (few : chain.sequence.toNat + events.length < UInt64.size) :
    entries.Pairwise fun first second => first.sequence < second.sequence := by
  have numbers := (record_sequences recorded few).2
  have ordered := List.pairwise_lt_range' (s := chain.sequence.toNat) (n := events.length)
  rw [← numbers, List.pairwise_map] at ordered
  exact ordered.imp UInt64.lt_iff_toNat_lt.mpr

theorem Chained.of_append {previous rest}
    (chained : Chained previous (entries ++ rest)) : Chained previous entries := by
  induction entries generalizing previous with
  | nil => trivial
  | cons _ _ ih => exact ⟨chained.1, chained.2.1, ih chained.2.2⟩

end Recording

namespace AuditLog

section Steps

variable [AuditCrates] {log next : AuditLog} {label : LogLabel}

theorem step_cases (stepped : system.step log label = some next) : (∃ event, label = .record event ∧
      next = { log with calls := log.calls ++ [.begun event] }) ∨
    (∃ index event, label = .create index ∧ log.calls[index]? = some (.begun event) ∧ next = { log with
        chain := (log.chain.createEntry event).1
        calls := log.calls.set index (.created (log.chain.createEntry event).2) }) ∨
    ∃ index entry, label = .push index ∧ log.calls[index]? = some (.created entry) ∧
      next = { log with
        entries := log.entries ++ [entry], calls := log.calls.set index .returned } := by
  cases label with simp only [system, step] at stepped
  | record event => exact .inl ⟨event, rfl, (Option.some.inj stepped).symm⟩
  | create index =>
    split at stepped
    · next event found =>
      exact .inr (.inl ⟨index, event, rfl, found, (Option.some.inj stepped).symm⟩)
    · cases stepped
  | push index =>
    split at stepped
    · next entry found =>
      exact .inr (.inr ⟨index, entry, rfl, found, (Option.some.inj stepped).symm⟩)
    · cases stepped

def outstanding (log : AuditLog) : List AuditEntry := log.calls.filterMap RecordCall.entry

/-- A call stores its entry only once no entry with a smaller number is outstanding, and the
numbers do not run out. -/
def InOrder (log : AuditLog) : LogLabel → Prop
  | .record _ => True
  | .create _ => log.chain.sequence.toNat + 1 < UInt64.size
  | .push index => ∀ entry ∈ (log.calls[index]?).bind RecordCall.entry, ∀ other ∈ log.outstanding, entry.sequence ≤ other.sequence

instance inOrderDecidable (log : AuditLog) (label : LogLabel) : Decidable (log.InOrder label) :=
  match label with
  | .record _ => .isTrue trivial
  | .create _ => inferInstanceAs (Decidable (log.chain.sequence.toNat + 1 < UInt64.size))
  | .push index => inferInstanceAs (Decidable (∀ entry ∈ (log.calls[index]?).bind RecordCall.entry,
      ∀ other ∈ log.outstanding, entry.sequence ≤ other.sequence))

/-- The log holds the first entries of a chain and the calls hold the rest of it. -/
structure Ordered (log : AuditLog) (events : List AuditEvent) (waiting : List AuditEntry) : Prop where
  recorded : HashChain.new.record events = (log.chain, log.entries ++ waiting)
  few : events.length < UInt64.size
  outstanding : log.outstanding.Perm waiting

variable {waiting : List AuditEntry}

section

variable (ordered : Ordered log events waiting)
include ordered

theorem Ordered.increasing :
    (log.entries ++ waiting).Pairwise fun first second => first.sequence < second.sequence := by
  apply HashChain.record_increasing ordered.recorded
  have zero : (HashChain.new).sequence.toNat = 0 := rfl
  rw [zero, Nat.zero_add]
  exact ordered.few

theorem Ordered.sequence : log.chain.sequence.toNat = events.length := by
  have zero : (HashChain.new).sequence.toNat = 0 := rfl
  have counted := (HashChain.record_sequences ordered.recorded (by
    rw [zero, Nat.zero_add]
    exact ordered.few)).1
  rw [counted, zero, Nat.zero_add]

theorem Ordered.head {entry} (held : entry ∈ log.outstanding)
    (least : ∀ other ∈ log.outstanding, entry.sequence ≤ other.sequence) : ∃ rest, waiting = entry :: rest := by
  have member := ordered.outstanding.mem_iff.mp held
  cases waiting with
  | nil => cases member
  | cons first rest =>
    refine ⟨rest, ?_⟩
    rcases List.mem_cons.mp member with rfl | later
    · rfl
    · have before := (List.pairwise_cons.mp (List.pairwise_append.mp ordered.increasing).2.1).1 entry later
      have after := least first (ordered.outstanding.mem_iff.mpr List.mem_cons_self)
      exact absurd before (UInt64.not_lt.mpr after)

theorem Ordered.step (inOrder : log.InOrder label)
    (stepped : system.step log label = some next) : ∃ events waiting, Ordered next events waiting := by
  rcases step_cases stepped with
    ⟨event, rfl, rfl⟩ | ⟨index, event, rfl, found, rfl⟩ | ⟨index, entry, rfl, found, rfl⟩
  · refine ⟨events, waiting, ordered.recorded, ordered.few, ?_⟩
    have none : RecordCall.entry (.begun event) = none := rfl
    simpa [AuditLog.outstanding, none] using ordered.outstanding
  -- the new entry has the largest number, so it waits behind all others
  · refine ⟨events ++ [event], waiting ++ [(log.chain.createEntry event).2], ?_, ?_, ?_⟩
    · rw [HashChain.record_append, ordered.recorded, List.append_assoc]
    · rw [List.length_append, List.length_singleton, ← ordered.sequence]
      exact inOrder
    · have added : (AuditLog.outstanding { log with
          chain := (log.chain.createEntry event).1
          calls := log.calls.set index (.created (log.chain.createEntry event).2) }).Perm
            ((log.chain.createEntry event).2 :: log.outstanding) :=
        filterMap_set_perm found rfl rfl
      exact added.trans ((ordered.outstanding.cons _).trans (List.perm_append_singleton _ _).symm)
  -- the entry that is stored is the first that waits, so the log stays a part of the chain
  · have held : entry ∈ log.outstanding :=
      List.mem_filterMap.mpr ⟨_, List.mem_of_getElem? found, rfl⟩
    obtain ⟨rest, rfl⟩ := ordered.head held (inOrder entry (by simp [found, RecordCall.entry]))
    refine ⟨events, rest, ?_, ordered.few, ?_⟩
    · rw [ordered.recorded, List.append_assoc, List.singleton_append]
    · have removed : log.outstanding.Perm (entry :: AuditLog.outstanding { log with
          entries := log.entries ++ [entry], calls := log.calls.set index .returned }) :=
        perm_filterMap_set found rfl rfl
      exact (removed.symm.trans ordered.outstanding).cons_inv

end

theorem reaches_ordered (reached : system.Reaches InOrder new log) : ∃ events waiting, Ordered log events waiting := by
  apply reached.invariant (fun log => ∃ events waiting, Ordered log events waiting)
  · exact ⟨[], [], rfl, by decide, List.Perm.nil⟩
  · rintro _ _ _ inOrder stepped ⟨_, _, ordered⟩
    exact ordered.step inOrder stepped

/-- If entries are stored in the order of their numbers, the log can be verified and its
entries stand in that order, at any time and so when all calls have returned. -/
theorem in_order_verified (reached : system.Reaches InOrder new log) : log.verifyIntegrity = true ∧
      log.entries.Pairwise fun first second => first.sequence < second.sequence := by
  obtain ⟨_, _, ordered⟩ := reaches_ordered reached
  obtain ⟨chained, -, genesis⟩ := HashChain.record_spec ordered.recorded
  constructor
  · rw [verifyIntegrity, HashChain.verify_iff, genesis]
    exact Chained.of_append chained
  · exact (List.pairwise_append.mp ordered.increasing).1

end Steps

def bothCreated : List LogLabel :=
  [.record (createdEvent "tx-1"), .record (createdEvent "tx-2"), .create 0, .create 1]

theorem two_in_order_verified : ∃ log, (∀ call ∈ log.calls, call = .returned) ∧ log.entries.length = 2 ∧
      @verifyIntegrity referenceAudit log = true := by
  obtain ⟨log, reached, returned⟩ := System.exists_reaches_of_run (@system referenceAudit)
    InOrder (@new referenceAudit) (bothCreated ++ [.push 0, .push 1])
    (fun log => (∀ call ∈ log.calls, call = .returned) ∧ log.entries.length = 2)
    (by decide +kernel) (by decide)
  exact ⟨log, returned.1, returned.2, (@in_order_verified referenceAudit log reached).1⟩

/-- The second call stores its entry before the first one does. -/
theorem swapped_pushes_break_chain : ∃ log, (@system referenceAudit).Reachable (@new referenceAudit) log ∧
      (∀ call ∈ log.calls, call = .returned) ∧ @verifyIntegrity referenceAudit log = false ∧
      ¬ log.entries.Pairwise fun first second => first.sequence < second.sequence :=
  System.exists_reachable_of_run (@system referenceAudit) (@new referenceAudit)
    (bothCreated ++ [.push 1, .push 0]) _ (by decide +kernel)

end AuditLog

end Blazil.Audit
