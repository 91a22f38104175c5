import Blazil.Trading.PgStepProperties
import Blazil.Trading.SharedMatchProperties

/-! What a failed call of `PlaceOrder` leaves in memory. The match comes before the statements
that record it, and nothing takes it back when one of them fails. -/

set_option autoImplicit false

namespace Blazil.Trading

open Foundation

/-- The map, the books and all earlier orders are the same. -/
structure Memory.Same (before after : Memory) : Prop where
  orders : after.orders = before.orders
  books : after.books = before.books
  objects : ∀ ref < before.objects.length, after.objects[ref]? = before.objects[ref]?

namespace PgOrderService

def begin (service : PgOrderService) (request : PlaceOrderRequest) : PgOrderService :=
  { service with calls := service.calls ++ [.place request .begun] }

/-- The outcomes of the statements of one call, one after the other. -/
def runCall (service : PgOrderService) (index : Nat) (accesses : List PgAccess) : Option PgOrderService :=
  system.run service (accesses.map (.access index))

def Placeable (request : PlaceOrderRequest) : Prop :=
  0 < request.quantityUnits ∧ 0 < request.limitPriceMinorUnits ∧ (Side.ofCode request.side).isSome

/-- The transaction is begun and the `INSERT` of the order works. -/
structure GetsToMatch (service : PgOrderService) (request : PlaceOrderRequest) (accesses : List PgAccess) : Prop where
  placeable : Placeable request
  fresh : (service.database.orders.get request.id).isSome = false
  works : ∀ access ∈ accesses.take 2, access.fault = none

variable {service changed after : PgOrderService} {others : List Call} {request : PlaceOrderRequest}
  {phase later : PlacePhase} {index : Nat} {access : PgAccess} {accesses : List PgAccess}

theorem placeBegun_cases (service : PgOrderService) (request : PlaceOrderRequest) (access : PgAccess) :
    ((∃ cause, placeBegun service request access = (service, .returned (.error cause))) ∧
        ¬ (Placeable request ∧ access.fault = none)) ∨
      (∃ side, placeBegun service request access = (service, .opened side access.now)) ∧
        Placeable request ∧ access.fault = none := by
  unfold placeBegun
  split
  · next quantity => exact .inl ⟨⟨_, rfl⟩, fun allowed => quantity.not_gt allowed.1.1⟩
  · split
    · next price => exact .inl ⟨⟨_, rfl⟩, fun allowed => price.not_gt allowed.1.2.1⟩
    · split
      · next side =>
        refine .inl ⟨⟨_, rfl⟩, fun allowed => ?_⟩
        have known := allowed.1.2.2
        rw [side] at known
        cases known
      · next quantity price _ _ side =>
        split
        · next fault => exact .inl ⟨⟨_, rfl⟩, fun allowed => nomatch fault.symm.trans allowed.2⟩
        · next fault =>
          refine .inr ⟨⟨_, rfl⟩, ⟨Int.not_le.mp quantity, Int.not_le.mp price, ?_⟩, fault⟩
          rw [side]
          rfl

theorem placeOpened_cases {side : Side} {placedAt : Nat}
    (stepped : placeOpened service others request access side placedAt = some (changed, later)) : changed = service ∧
      (((∃ cause, later = .returned (.error cause)) ∧
          ¬ ((service.database.orders.get request.id).isSome = false ∧ access.fault = none)) ∨
        (∃ transaction, later = .inserted side transaction) ∧
          (service.database.orders.get request.id).isSome = false ∧ access.fault = none) := by
  unfold placeOpened at stepped
  split at stepped
  · next fault =>
    cases stepped
    refine ⟨rfl, .inl ⟨⟨_, rfl⟩, ?_⟩⟩
    rintro ⟨_, works⟩
    cases fault.symm.trans works
  · next fault =>
    split at stepped
    · next taken =>
      cases stepped
      refine ⟨rfl, .inl ⟨⟨_, rfl⟩, ?_⟩⟩
      rintro ⟨free, _⟩
      cases taken.symm.trans free
    · next free =>
      split at stepped
      · cases stepped
      · cases stepped
        exact ⟨rfl, .inr ⟨⟨_, rfl⟩, Bool.eq_false_of_not_eq_true free, fault⟩⟩

theorem PlaceEffect.memory_eq (effect : PlaceEffect service request phase changed later)
    (matched : phase.matched = true) : later.matched = true ∧ changed.memory = service.memory := by
  cases effect with
  | quiet past _ _ | executed past _ _ _ | committed past _ _ _ => exact ⟨past matched, rfl⟩
  | matched inserted =>
    cases phase with
    | inserted => cases matched
    | _ => cases inserted

theorem runCall_cons (present : service.calls[index]? = some (.place request phase))
    (ran : runCall service index (access :: accesses) = some after) :
    ∃ changed later, placeStep service (service.calls.eraseIdx index) request access phase = some (changed, later) ∧
      ∃ next : PgOrderService, next.memory = changed.memory ∧ next.database = changed.database ∧
        next.calls[index]? = some (.place request later) ∧ runCall next index accesses = some after := by
  obtain ⟨_, stepped, rest⟩ := Option.bind_eq_some_iff.mp ran
  obtain ⟨_, found, made⟩ := Option.bind_eq_some_iff.mp stepped
  obtain rfl := entry_unique present found
  obtain ⟨_, called, rfl⟩ := Option.map_eq_some_iff.mp made
  obtain ⟨placed, moved, rfl⟩ := Option.map_eq_some_iff.mp called
  exact ⟨placed.1, placed.2, moved, { placed.1 with calls := service.calls.set index (.place request placed.2) },
    rfl, rfl, List.getElem?_set_self (entry_lt present), rest⟩

theorem runCall_memory (present : service.calls[index]? = some (.place request phase)) (matched : phase.matched = true)
    (ran : runCall service index accesses = some after) : after.memory = service.memory := by
  induction accesses generalizing service phase with
  | nil =>
    cases ran
    rfl
  | cons _ _ ih =>
    obtain ⟨_, _, moved, _, memory, _, now, rest⟩ := runCall_cons present ran
    obtain ⟨stillMatched, same⟩ := (placeStep_effect moved).memory_eq matched
    exact (ih now stillMatched rest).trans (memory.trans same)

section Failed

variable {cause : PgError} (failed : after.calls[index]? = some (.place request (.returned (.error cause))))
include failed

theorem runCall_failed_cons (present : service.calls[index]? = some (.place request phase))
    (running : ∀ result, phase ≠ .returned result) (ran : runCall service index accesses = some after) :
    ∃ access rest, accesses = access :: rest := by
  cases accesses with
  | nil =>
    cases ran
    rw [present] at failed
    exact absurd (Call.place.inj (Option.some.inj failed)).2 (running _)
  | cons access rest => exact ⟨access, rest, rfl⟩

theorem runCall_inserted {side transaction}
    (present : service.calls[index]? = some (.place request (.inserted side transaction)))
    (ran : runCall service index accesses = some after) : ¬ service.memory.Same after.memory := by
  intro same
  obtain ⟨_, _, rfl⟩ := runCall_failed_cons failed present nofun ran
  obtain ⟨_, _, moved, _, memory, _, now, rest⟩ := runCall_cons present ran
  obtain ⟨_, placed, made⟩ := Option.map_eq_some_iff.mp moved
  obtain ⟨rfl, rfl⟩ := Prod.mk.inj made
  have entered : after.memory.orders request.id = some service.memory.objects.length := by
    rw [runCall_memory now rfl rest, memory, Memory.place_orders placed]
    exact if_pos rfl
  rw [same.orders] at entered
  exact Nat.lt_irrefl _ (service.memory.valid _ _ entered)

end Failed

/-- A failed placement leaves the memory as it was exactly if it does not get to its match. -/
theorem failed_placement_keeps_memory_iff {cause : PgError}
    (ran : runCall (service.begin request) service.calls.length accesses = some after)
    (failed : after.calls[service.calls.length]? = some (.place request (.returned (.error cause)))) :
    service.memory.Same after.memory ↔ ¬ GetsToMatch service request accesses := by
  have kept : after.memory = service.memory → service.memory.Same after.memory := by
    intro same
    rw [same]
    exact ⟨rfl, rfl, fun _ _ => rfl⟩
  have begun : (service.begin request).calls[service.calls.length]? = some (.place request .begun) :=
    List.getElem?_concat_length
  obtain ⟨first, rest, rfl⟩ := runCall_failed_cons failed begun nofun ran
  obtain ⟨changed, later, moved, opened, memory, database, now, onward⟩ := runCall_cons begun ran
  have moved : placeBegun (service.begin request) request first = (changed, later) := Option.some.inj moved
  rcases placeBegun_cases (service.begin request) request first with
    ⟨⟨_, refused⟩, stopped⟩ | ⟨⟨_, started⟩, placeable, firstWorks⟩
  · obtain ⟨rfl, rfl⟩ := Prod.mk.inj (refused.symm.trans moved)
    refine iff_of_true (kept ((runCall_memory now rfl onward).trans memory)) ?_
    intro gets
    exact stopped ⟨gets.placeable, gets.works _ (List.mem_cons_self ..)⟩
  · obtain ⟨rfl, rfl⟩ := Prod.mk.inj (started.symm.trans moved)
    obtain ⟨second, rest, rfl⟩ := runCall_failed_cons failed now nofun onward
    obtain ⟨_, _, moved, _, stillMemory, _, now, later⟩ := runCall_cons now onward
    have lookup : opened.database.orders.get request.id = service.database.orders.get request.id := by
      rw [database]
      rfl
    obtain ⟨rfl, ⟨⟨_, rfl⟩, stopped⟩ | ⟨⟨_, rfl⟩, fresh, secondWorks⟩⟩ := placeOpened_cases moved
    · refine iff_of_true (kept ((runCall_memory now rfl later).trans (stillMemory.trans memory))) ?_
      intro gets
      refine stopped ⟨lookup ▸ gets.fresh, gets.works _ ?_⟩
      exact List.mem_cons_of_mem _ (List.mem_cons_self ..)
    · refine iff_of_false ?_ (not_not_intro ⟨placeable, lookup ▸ fresh, ?_⟩)
      · have changes := runCall_inserted failed now later
        rwa [stillMemory, memory] at changes
      · intro access member
        simp only [List.take_succ_cons, List.take_zero, List.mem_cons, List.not_mem_nil, or_false] at member
        rcases member with rfl | rfl
        · exact firstWorks
        · exact secondWorks

def works : PgAccess := ⟨none, false, 0, 3⟩

def breaks : PgAccess := ⟨some "connection reset", false, 0, 3⟩

def emptyDatabase : Database := ⟨KeyedTable.empty, []⟩

def sellTen : PlaceOrderRequest := ⟨"maker", "ACME", "owner-1", 2, 100, 10⟩

def buyFour : PlaceOrderRequest := ⟨"taker", "ACME", "owner-2", 1, 100, 4⟩

def placeSale : List PgLabel := .placeOrder sellTen :: List.replicate 6 (.access 0 works)

theorem exists_purchase (accesses : List PgAccess) (holds : PgOrderService → Prop) [DecidablePred holds]
    (checked : (system.run (started emptyDatabase) placeSale).any (fun before =>
      before.calls.length = 1 ∧ (before.memory.objects[0]?).map Order.filledUnits = some 0 ∧
        (runCall (before.begin buyFour) 1 accesses).any (fun after => holds after) = true) = true) :
    ∃ before, system.Reachable (started emptyDatabase) before ∧ before.calls.length = 1 ∧
      (before.memory.objects[0]?).map Order.filledUnits = some 0 ∧
      ∃ after, runCall (before.begin buyFour) 1 accesses = some after ∧ holds after := by
  obtain ⟨before, reached, calls, unfilled, ends⟩ := System.exists_reachable_of_run system (started emptyDatabase) placeSale
    (fun before => before.calls.length = 1 ∧ (before.memory.objects[0]?).map Order.filledUnits = some 0 ∧
      (runCall (before.begin buyFour) 1 accesses).any (fun after => holds after) = true) checked
  exact ⟨before, reached, calls, unfilled, System.exists_of_run system _ _ holds ends⟩

theorem failed_insert_keeps_memory : ∃ before, system.Reachable (started emptyDatabase) before ∧
      (before.memory.objects[0]?).map Order.filledUnits = some 0 ∧
      ∃ after, runCall (before.begin buyFour) before.calls.length [works, breaks] = some after ∧
        after.calls[before.calls.length]? = some (.place buyFour
          (.returned (.error (.statement "insert order" "connection reset")))) ∧ before.memory.Same after.memory := by
  obtain ⟨before, reached, calls, unfilled, after, ran, failed⟩ := exists_purchase [works, breaks] (fun after =>
    after.calls[1]? = some (.place buyFour (.returned (.error (.statement "insert order" "connection reset")))))
    (by decide +kernel)
  rw [← calls] at ran failed
  refine ⟨before, reached, unfilled, after, ran, failed, ?_⟩
  refine (failed_placement_keeps_memory_iff ran failed).mpr fun gets => ?_
  have worked := gets.works breaks (by decide)
  cases worked

/-- The record of the trade fails, and the maker stays filled in memory. -/
theorem failed_trade_fills_maker : ∃ before, system.Reachable (started emptyDatabase) before ∧
      (before.memory.objects[0]?).map Order.filledUnits = some 0 ∧
      ∃ after, runCall (before.begin buyFour) before.calls.length [works, works, works, breaks] = some after ∧
        after.calls[before.calls.length]? = some (.place buyFour
          (.returned (.error (.statement "insert trade" "connection reset")))) ∧
        (after.memory.objects[0]?).map Order.filledUnits = some 4 := by
  obtain ⟨before, reached, calls, unfilled, after, ran, failed, filled⟩ :=
    exists_purchase [works, works, works, breaks] (fun after =>
      after.calls[1]? = some (.place buyFour (.returned (.error (.statement "insert trade" "connection reset")))) ∧
      (after.memory.objects[0]?).map Order.filledUnits = some 4) (by decide +kernel)
  rw [← calls] at ran failed
  exact ⟨before, reached, unfilled, after, ran, failed, filled⟩

end PgOrderService

end Blazil.Trading
