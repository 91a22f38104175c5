import Blazil.Common.Crates
import Blazil.Foundation.Bytes

/-! Audit events and the chain of hashes over their entries (`libs/audit/src/event.rs` and
`entry.rs`). Times are carried in nanoseconds and the metadata as its JSON text.

A list of entries is accepted whenever it is a chain from the genesis hash, also when it stops early
or was computed anew; together with the current hash of the chain it is the recorded one. -/

set_option autoImplicit false

namespace Blazil.Audit

open Blazil.Common Foundation

inductive AuditAction where
  | transactionCreated
  | transactionValidated
  | complianceScreeningStarted
  | complianceScreeningCompleted
  | ledgerSubmitted
  | ledgerCommitted
  | transactionCompleted
  | transactionRejected
  | transactionHeld
  | transactionReleased
  | sarGenerated
  | accessControlCheck
  | apiAuthentication
  | configurationChanged
deriving DecidableEq

inductive AuditResult where
  | success
  | failure
  | pending
deriving DecidableEq

structure AuditEvent where
  eventId : Uuid
  timestamp : Int
  transactionId : String
  actor : String
  action : AuditAction
  result : AuditResult
  latencyNs : Option UInt64
  metadata : Option String
  error : Option String
deriving DecidableEq

/-- The calls into `sha2` and `serde_json`. -/
class AuditCrates where
  sha256 : List UInt8 → List UInt8
  length_sha256 : ∀ bytes, (sha256 bytes).length = 32
  /-- `serde_json::to_string` of an event; it does not fail. -/
  toJson : AuditEvent → String

@[ext]
structure AuditEntry where
  sequence : UInt64
  event : AuditEvent
  previousHash : String
  entryHash : String
deriving DecidableEq

def genesisText : List UInt8 := textBytes "BLAZIL_AUDIT_LOG_GENESIS"

def lastHash : String → List AuditEntry → String
  | previous, [] => previous
  | _, entry :: rest => lastHash entry.entryHash rest

theorem lastHash_append (previous : String) (entries : List AuditEntry) (entry : AuditEntry) :
    lastHash previous (entries ++ [entry]) = entry.entryHash := by
  induction entries generalizing previous with
  | nil => rfl
  | cons first _ ih => exact ih first.entryHash

theorem length_genesisText : genesisText.length = 24 := by
  decide

section Crates

variable [AuditCrates]

def digest (bytes : List UInt8) : String := hexText (AuditCrates.sha256 bytes)

namespace AuditEntry

def hashed (entry : AuditEntry) : List UInt8 :=
  leBytes 8 entry.sequence.toNat ++ textBytes entry.previousHash ++ textBytes (AuditCrates.toJson entry.event)

def computeHash (entry : AuditEntry) : String := digest entry.hashed

def new (sequence : UInt64) (event : AuditEvent) (previousHash : String) : AuditEntry :=
  let entry : AuditEntry := ⟨sequence, event, previousHash, ""⟩
  { entry with entryHash := entry.computeHash }

def verifyIntegrity (entry : AuditEntry) : Bool := entry.entryHash = entry.computeHash

def verifyChain (entry : AuditEntry) (expectedPreviousHash : String) : Bool :=
  entry.previousHash = expectedPreviousHash

end AuditEntry

structure HashChain where
  genesisHash : String
  currentHash : String
  sequence : UInt64
deriving DecidableEq

/-- The last loop of `verify_chain_from_genesis`. -/
def linked : List AuditEntry → Bool
  | first :: second :: rest => second.verifyChain first.entryHash && linked (second :: rest)
  | _ => true

namespace HashChain

def new : HashChain := ⟨digest genesisText, digest genesisText, 0⟩

/-- The number is counted modulo 2^64. -/
def createEntry (chain : HashChain) (event : AuditEvent) : HashChain × AuditEntry :=
  let entry := AuditEntry.new chain.sequence event chain.currentHash
  ({ chain with currentHash := entry.entryHash, sequence := chain.sequence + 1 }, entry)

def verifyChainFromGenesis (chain : HashChain) (entries : List AuditEntry) : Bool :=
  match entries with
  | [] => true
  | first :: _ =>
    if first.previousHash ≠ chain.genesisHash then false
    else if entries.all AuditEntry.verifyIntegrity then linked entries
    else false

def record : HashChain → List AuditEvent → HashChain × List AuditEntry
  | chain, [] => (chain, [])
  | chain, event :: rest =>
    let created := chain.createEntry event
    let recorded := record created.1 rest
    (recorded.1, created.2 :: recorded.2)

end HashChain

open Foundation

theorem digest_injective {first second} (same : digest first = digest second) :
    AuditCrates.sha256 first = AuditCrates.sha256 second :=
  hexText_injective same

theorem length_digest (bytes : List UInt8) : (textBytes (digest bytes)).length = 64 := by
  rw [digest, length_textBytes_hexText, AuditCrates.length_sha256]

/-- Every entry has its own hash and names the hash before it. -/
def Chained : String → List AuditEntry → Prop
  | _, [] => True
  | previous, entry :: rest =>
    entry.previousHash = previous ∧ entry.entryHash = entry.computeHash ∧ Chained entry.entryHash rest

theorem chained_append (previous : String) (entries : List AuditEntry) (entry : AuditEntry) :
    Chained previous (entries ++ [entry]) ↔ Chained previous entries ∧
      entry.previousHash = lastHash previous entries ∧ entry.entryHash = entry.computeHash := by
  induction entries generalizing previous with
  | nil => simp [Chained, lastHash]
  | cons _ _ ih => simp only [List.cons_append, Chained, lastHash, ih, and_assoc]

theorem chained_cons_iff (previous : String) (entry : AuditEntry) (rest : List AuditEntry) :
    Chained previous (entry :: rest) ↔ entry.previousHash = previous ∧
      (entry :: rest).all AuditEntry.verifyIntegrity = true ∧ linked (entry :: rest) = true := by
  induction rest generalizing previous entry with
  | nil => simp [Chained, linked, AuditEntry.verifyIntegrity]
  | cons _ _ ih =>
    rw [Chained, ih, linked, List.all_cons]
    simp only [AuditEntry.verifyIntegrity, AuditEntry.verifyChain, Bool.and_eq_true, List.all_cons, decide_eq_true_eq]
    tauto

theorem HashChain.verify_iff (chain : HashChain) (entries : List AuditEntry) :
    chain.verifyChainFromGenesis entries = true ↔ Chained chain.genesisHash entries := by
  unfold verifyChainFromGenesis
  cases entries with
  | nil => simp [Chained]
  | cons =>
    rw [chained_cons_iff]
    dsimp only
    split
    · next other => simp [other]
    · next same =>
      split
      · next whole => simp [not_not.mp same, whole]
      · next broken => simp [broken]

variable {entries : List AuditEntry} {entry : AuditEntry}

theorem HashChain.record_spec {chain next : HashChain} {events} (recorded : chain.record events = (next, entries)) :
    Chained chain.currentHash entries ∧ next.currentHash = lastHash chain.currentHash entries ∧
      next.genesisHash = chain.genesisHash := by
  induction events generalizing chain entries with
  | nil =>
    obtain ⟨rfl, rfl⟩ := Prod.mk.inj recorded
    exact ⟨trivial, rfl, rfl⟩
  | cons event _ ih =>
    obtain ⟨rfl, rfl⟩ := Prod.mk.inj recorded
    obtain ⟨chained, current, genesis⟩ := @ih _ (chain.createEntry event).1 rfl
    exact ⟨⟨rfl, rfl, chained⟩, current, genesis⟩

def hashInputs (entries : List AuditEntry) : List (List UInt8) :=
  genesisText :: entries.map AuditEntry.hashed

/-- The hash tells the bytes apart that it is given, and so does the JSON text the events. -/
structure Distinguishes (entries : List AuditEntry) : Prop where
  hashes : ∀ first ∈ hashInputs entries, ∀ second ∈ hashInputs entries,
    AuditCrates.sha256 first = AuditCrates.sha256 second → first = second
  events : ∀ first ∈ entries, ∀ second ∈ entries,
    AuditCrates.toJson first.event = AuditCrates.toJson second.event → first.event = second.event

theorem hashed_mem_hashInputs (member : entry ∈ entries) : entry.hashed ∈ hashInputs entries :=
  List.mem_cons_of_mem _ (List.mem_map_of_mem member)

theorem Distinguishes.mono {fewer} (distinguishes : Distinguishes entries)
    (among : fewer ⊆ entries) : Distinguishes fewer where
  hashes := by
    have wider : hashInputs fewer ⊆ hashInputs entries :=
      List.cons_subset_cons _ (List.map_subset _ among)
    exact fun first ofFirst second ofSecond =>
      distinguishes.hashes first (wider ofFirst) second (wider ofSecond)
  events := fun first ofFirst second ofSecond =>
    distinguishes.events first (among ofFirst) second (among ofSecond)

theorem Chained.lastHash_digest {start}
    (chained : Chained (digest start) entries) : ∃ bytes, lastHash (digest start) entries = digest bytes := by
  induction entries generalizing start with
  | nil => exact ⟨start, rfl⟩
  | cons _ _ ih =>
    obtain ⟨-, own, later⟩ := chained
    rw [own] at later
    rw [lastHash, own]
    exact ih later

theorem AuditEntry.hashed_ne_genesisText {bytes}
    (previous : entry.previousHash = digest bytes) : entry.hashed ≠ genesisText := by
  intro same
  have lengths := congrArg List.length same
  rw [AuditEntry.hashed, previous, List.length_append, List.length_append, length_digest,
    length_leBytes, length_genesisText] at lengths
  omega

theorem AuditEntry.eq_of_hashed_eq {first second : AuditEntry} {firstBytes secondBytes : List UInt8}
    (firstPrevious : first.previousHash = digest firstBytes) (secondPrevious : second.previousHash = digest secondBytes)
    (same : first.hashed = second.hashed) :
    first.sequence = second.sequence ∧ first.previousHash = second.previousHash ∧
      AuditCrates.toJson first.event = AuditCrates.toJson second.event := by
  obtain ⟨front, json⟩ := List.append_inj same (by
    rw [List.length_append, List.length_append, firstPrevious, secondPrevious, length_digest,
      length_digest, length_leBytes, length_leBytes])
  obtain ⟨number, previous⟩ := List.append_inj front (by
    rw [length_leBytes, length_leBytes])
  have numbers := leBytes_inj first.sequence.toNat_lt second.sequence.toNat_lt number
  exact ⟨UInt64.toNat_inj.mp numbers, textBytes_injective previous, textBytes_injective json⟩

theorem Chained.ne_genesis (chained : Chained (digest genesisText) (entries ++ [entry]))
    (distinguishes : Distinguishes (entries ++ [entry])) : entry.entryHash ≠ digest genesisText := by
  intro same
  obtain ⟨before, link, own⟩ := (chained_append _ _ _).mp chained
  obtain ⟨_, last⟩ := before.lastHash_digest
  rw [own] at same
  apply AuditEntry.hashed_ne_genesisText (link.trans last)
  exact distinguishes.hashes _ (hashed_mem_hashInputs (by simp)) _
    List.mem_cons_self (digest_injective same)

/-- From the end, each hash determines its entry and with it the hash before. -/
theorem Chained.unique {first second : List AuditEntry} (firstChained : Chained (digest genesisText) first)
    (secondChained : Chained (digest genesisText) second) (distinguishes : Distinguishes (first ++ second))
    (same : lastHash (digest genesisText) first = lastHash (digest genesisText) second) : first = second := by
  induction first using List.reverseRecOn generalizing second with
  | nil =>
    rcases second.eq_nil_or_concat' with rfl | ⟨_, _, rfl⟩
    · rfl
    · rw [lastHash_append] at same
      exact absurd same.symm (secondChained.ne_genesis distinguishes)
  | append_singleton entries entry ih =>
    rw [lastHash_append] at same
    rcases second.eq_nil_or_concat' with rfl | ⟨others, other, rfl⟩
    · rw [List.append_nil] at distinguishes
      exact absurd same (firstChained.ne_genesis distinguishes)
    · rw [lastHash_append] at same
      obtain ⟨before, link, own⟩ := (chained_append _ _ _).mp firstChained
      obtain ⟨otherBefore, otherLink, otherOwn⟩ := (chained_append _ _ _).mp secondChained
      obtain ⟨_, last⟩ := before.lastHash_digest
      obtain ⟨_, otherLast⟩ := otherBefore.lastHash_digest
      have hashes : digest entry.hashed = digest other.hashed := by
        rw [own, otherOwn] at same
        exact same
      have hashed := distinguishes.hashes _ (hashed_mem_hashInputs (by simp)) _
        (hashed_mem_hashInputs (by simp)) (digest_injective hashes)
      obtain ⟨sequences, previous, json⟩ :=
        AuditEntry.eq_of_hashed_eq (link.trans last) (otherLink.trans otherLast) hashed
      have events := distinguishes.events entry (by simp) other (by simp) json
      have equal : entry = other := AuditEntry.ext sequences events previous same
      have rest : entries = others := by
        apply ih before otherBefore
        · exact distinguishes.mono (by grind)
        · rw [← link, ← otherLink, previous]
      rw [equal, rest]

/-- A list is the recorded one exactly if it is accepted and ends in the current hash of
the chain. -/
theorem HashChain.accepted_to_current_hash_iff {events : List AuditEvent} {chain : HashChain} {recorded offered : List AuditEntry}
    (recording : HashChain.new.record events = (chain, recorded)) (distinguishes : Distinguishes (offered ++ recorded)) :
    (chain.verifyChainFromGenesis offered = true ∧
      lastHash chain.genesisHash offered = chain.currentHash) ↔ offered = recorded := by
  obtain ⟨chained, current, genesis⟩ := record_spec recording
  rw [verify_iff, genesis, current]
  constructor
  · intro accepted
    exact accepted.1.unique chained distinguishes accepted.2
  · rintro rfl
    exact ⟨chained, rfl⟩

end Crates

/-- A hash and a text of events that can be computed. -/
@[reducible]
def referenceAudit : AuditCrates where
  sha256 := fun bytes => leBytes 32 (bytes.foldl (fun sum byte => 257 * sum + byte.toNat + 1) 0)
  length_sha256 := fun _ => length_leBytes 32 _
  toJson := fun event => event.transactionId

def createdEvent (transactionId : String) : AuditEvent where
  eventId := 1
  timestamp := 0
  transactionId := transactionId
  actor := "system"
  action := .transactionCreated
  result := .success
  latencyNs := none
  metadata := none
  error := none

def recordedFor (transactionIds : List String) : HashChain × List AuditEntry :=
  @HashChain.record referenceAudit (@HashChain.new referenceAudit) (transactionIds.map createdEvent)

theorem record_createdEvents (transactionIds : List String) :
    @HashChain.record referenceAudit (@HashChain.new referenceAudit) (transactionIds.map createdEvent) =
        ((recordedFor transactionIds).1, (recordedFor transactionIds).2) :=
  rfl

theorem HashChain.two_recorded_accepted :
    @HashChain.verifyChainFromGenesis referenceAudit (recordedFor ["tx-1", "tx-2"]).1
      (recordedFor ["tx-1", "tx-2"]).2 = true := by
  have distinguishes : @Distinguishes referenceAudit
      ((recordedFor ["tx-1", "tx-2"]).2 ++ (recordedFor ["tx-1", "tx-2"]).2) :=
    @Distinguishes.mk referenceAudit _ (by decide +kernel) (by decide +kernel)
  have accepted := @HashChain.accepted_to_current_hash_iff referenceAudit _ _ _ _
    (record_createdEvents ["tx-1", "tx-2"]) distinguishes
  exact (accepted.mpr rfl).1

/-- The empty list is accepted for a chain with an entry, and so is the chain of another
event. -/
theorem HashChain.other_lists_accepted :
    @Distinguishes referenceAudit ((recordedFor ["tx-2"]).2 ++ (recordedFor ["tx-1"]).2) ∧
      @HashChain.verifyChainFromGenesis referenceAudit (recordedFor ["tx-1"]).1 [] = true ∧
      [] ≠ (recordedFor ["tx-1"]).2 ∧ @HashChain.verifyChainFromGenesis referenceAudit (recordedFor ["tx-1"]).1
        (recordedFor ["tx-2"]).2 = true ∧ (recordedFor ["tx-2"]).2 ≠ (recordedFor ["tx-1"]).2 :=
  ⟨@Distinguishes.mk referenceAudit _ (by decide +kernel) (by decide), by decide +kernel⟩

end Blazil.Audit
