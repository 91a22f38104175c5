import Blazil.Trading.PlacementProperties

/-! Cancellations beside placements. `CancelOrder` changes the row first and the memory later,
`PlaceOrder` the other way round; a placement that writes a row in between undoes the
cancellation in the database. -/

set_option autoImplicit false

namespace Blazil.Trading

open Foundation

theorem Call.locks_eq_false {call : Call} {id : OrderId} (unlocked : call.locks id = false) :
    ∀ update ∈ call.updates, update.id ≠ id := by
  intro update member same
  unfold Call.updates at member
  unfold Call.locks at unlocked
  cases open_ : call.transaction with
  | none =>
    rw [open_] at member
    cases member
  | some transaction =>
    rw [open_] at member unlocked
    have locked : (transaction.updates.any fun update => update.id = id) = true :=
      List.any_eq_true.mpr ⟨update, member, decide_eq_true same⟩
    rw [Option.any_some, locked] at unlocked
    cases unlocked

namespace Database

def rowStatus (database : Database) (id : OrderId) : Option OrderStatus :=
  (database.orders.get id).map OrderRow.status

theorem rowStatus_setCancelled (database : Database) (id other : OrderId) (row : OrderRow) :
    (database.setCancelled id row).rowStatus other =
      if other = id then some .cancelled else database.rowStatus other := by
  unfold rowStatus setCancelled
  rw [KeyedTable.get_upsert]
  split <;> rfl

variable {id : OrderId} {status : OrderStatus}

theorem update_status {orders change}
    (before : (orders.get id).map OrderRow.status = some status) (keeps : change.id = id → change.status = status) :
    ((update orders change).get id).map OrderRow.status = some status := by
  unfold update
  split
  · exact before
  · next row found =>
    rw [KeyedTable.get_upsert]
    split
    · next same => rw [Option.map_some, ← keeps same.symm]
    · exact before

theorem rowStatus_commit {database : Database} {transaction} (before : database.rowStatus id = some status)
    (keeps : ∀ change ∈ transaction.updates, change.id = id → change.status = status) :
    (database.commit transaction).rowStatus id = some status := by
  have inserted : ((database.orders.upsert transaction.id fun row =>
      row.getD transaction.row).get id).map OrderRow.status = some status := by
    obtain ⟨_, found, own⟩ := Option.map_eq_some_iff.mp before
    rw [KeyedTable.get_upsert]
    split
    · next same => rw [← same, found, Option.getD_some, Option.map_some, own]
    · exact before
  unfold rowStatus commit
  generalize database.orders.upsert transaction.id (fun row => row.getD transaction.row) = orders
    at inserted
  generalize transaction.updates = updates at keeps
  induction updates generalizing orders with
  | nil => exact inserted
  | cons _ _ ih =>
    obtain ⟨own, later⟩ := List.forall_mem_cons.mp keeps
    exact ih _ (update_status inserted own) later

end Database

namespace PgOrderService

section Runs

variable {service next : PgOrderService} {label : PgLabel} {id : OrderId}

/-- An order is matched only under an id that the memory does not have. While a cancellation
is between its statement and its critical section, no placement carries out an update of the
row, nor has one read the order for an update. -/
def CallUndisturbed (service : PgOrderService) : Call → Prop
  | .place request phase =>
    (phase.isInserted = true → service.memory.orders request.id = none) ∧
      ∀ update ∈ phase.prepared, Call.cancel update.id .marked ∉ service.calls
  | .cancel id .marked => ∀ call ∈ service.calls, ∀ update ∈ call.prepared, update.id ≠ id
  | .cancel _ _ => True

def Undisturbed (service : PgOrderService) : PgLabel → Prop
  | .access index _ => ∀ call ∈ service.calls[index]?, service.CallUndisturbed call
  | _ => True

/-- The row of an order is cancelled and nobody is about to write it. -/
structure Marked (service : PgOrderService) (id : OrderId) : Prop where
  row : service.database.rowStatus id = some .cancelled
  unwritten : ∀ call ∈ service.calls, ∀ update ∈ call.updates, update.id ≠ id

/-- Whatever a call may still write to the row of an order says that it is cancelled. -/
def WritesCancelled (id : OrderId) (call : Call) : Prop :=
  ∀ update, update ∈ call.updates ∨ call.prepared = some update → update.id = id → update.status = .cancelled

/-- The order is cancelled in the row and in memory. -/
structure Cancelled (service : PgOrderService) (id : OrderId) (ref : Ref) (order : Order) : Prop where
  row : service.database.rowStatus id = some .cancelled
  written : ∀ call ∈ service.calls, WritesCancelled id call
  mapped : service.memory.orders id = some ref
  object : service.memory.objects[ref]? = some order
  status : order.status = .cancelled

variable {ref : Ref} {order : Order} {index : Nat} {later : CancelPhase}

theorem Cancelled.isOpen (cancelled : Cancelled service id ref order) : order.isOpen = false := by
  unfold Order.isOpen
  rw [cancelled.status]
  rfl

theorem writesCancelled_of_none {call : Call} (unwritten : call.updates = [])
    (unread : call.prepared = none) : WritesCancelled id call := by
  rintro _ (member | prepared) _
  · rw [unwritten] at member
    cases member
  · rw [unread] at prepared
    cases prepared

variable {changed : PgOrderService} {other : OrderId} {row : OrderRow}

theorem PlaceEffect.cancelled {request phase later}
    (effect : PlaceEffect service request phase changed later) (consistent : service.memory.Consistent)
    (undisturbed : service.CallUndisturbed (.place request phase))
    (present : service.calls[index]? = some (.place request phase)) (cancelled : Cancelled service id ref order) :
    Cancelled { changed with calls := service.calls.set index (.place request later) }
      id ref order := by
  have own := cancelled.written _ (List.mem_of_getElem? present)
  cases effect with
  | quiet _ updates read =>
    refine { cancelled with written := holds_after_set cancelled.written ?_ }
    rintro update (member | prepared) same
    · exact own update (.inl (updates member)) same
    -- the fields are read from the shared object, which says cancelled for this id
    · obtain ⟨other, fields⟩ := read update prepared
      obtain ⟨another, object, rfl⟩ := Option.map_eq_some_iff.mp fields
      have mapped := consistent.mapped other another object
      rw [show another.id = id from same, cancelled.mapped] at mapped
      obtain rfl := Option.some.inj mapped
      obtain rfl := entry_unique cancelled.object object
      exact cancelled.status
  | @matched side _ _ _ inserted _ placed updates unread =>
    have fresh := undisturbed.1 inserted
    obtain ⟨_, closed⟩ := Memory.place_keeps consistent fresh rfl placed
    refine ⟨cancelled.row, holds_after_set cancelled.written ?_, ?_, ?_, cancelled.status⟩
    · rintro update (member | prepared) same
      · exact own update (.inl (updates member)) same
      · rw [show (Call.place request later).prepared = none from unread] at prepared
        cases prepared
    · rw [Memory.place_orders placed]
      refine (if_neg ?_).trans cancelled.mapped
      intro same
      have taken := cancelled.mapped
      rw [same, show (request.order side).id = request.id from rfl, fresh] at taken
      cases taken
    · exact closed ref order cancelled.object cancelled.isOpen
  | @executed _ _ _ prepared updates unread =>
    refine { cancelled with written := holds_after_set cancelled.written ?_ }
    rintro other (member | read) same
    · rcases mem_concat.mp (updates member) with earlier | rfl
      · exact own other (.inl earlier) same
      · exact own other (.inr prepared) same
    · rw [show (Call.place request later).prepared = none from unread] at read
      cases read
  | @committed _ _ _ current updates unread =>
    refine ⟨?_, holds_after_set cancelled.written (writesCancelled_of_none updates unread),
      cancelled.mapped, cancelled.object, cancelled.status⟩
    apply Database.rowStatus_commit cancelled.row
    intro update member same
    refine own update (.inl ?_) same
    rw [Call.updates, current]
    exact member

theorem ne_of_isOpen (status : service.database.rowStatus id = some .cancelled)
    (found : service.database.orders.get other = some row) (opened : row.isOpen = true) : id ≠ other := by
  rintro rfl
  unfold Database.rowStatus at status
  rw [found, Option.map_some, Option.some.injEq] at status
  unfold OrderRow.isOpen at opened
  rw [status] at opened
  cases opened

theorem CancelEffect.cancelled {phase others} (effect : CancelEffect service others other phase changed later)
    (consistent : service.memory.Consistent) (cancelled : Cancelled service id ref order) :
    Cancelled { changed with calls := service.calls.set index (.cancel other later) }
      id ref order := by
  have written : ∀ call ∈ service.calls.set index (.cancel other later), WritesCancelled id call :=
    holds_after_set cancelled.written (writesCancelled_of_none rfl rfl)
  cases effect with
  | failed => exact { cancelled with written := written }
  | marked _ found opened =>
    refine { cancelled with row := ?_, written := written }
    rw [Database.rowStatus_setCancelled, if_neg (ne_of_isOpen cancelled.row found opened)]
    exact cancelled.row
  | finished =>
    refine ⟨cancelled.row, written, ?_, ?_, cancelled.status⟩
    · exact (congrFun (Memory.cancelOrder_orders service.memory other) id).trans cancelled.mapped
    · exact (Memory.cancelOrder_keeps consistent other).2 ref order cancelled.object cancelled.isOpen

section

variable (steps : Steps service label next)
include steps

theorem Steps.cancelled_stays (consistent : service.memory.Consistent)
    (undisturbed : service.Undisturbed label) (cancelled : Cancelled service id ref order) : Cancelled next id ref order := by
  cases steps with
  | added unwritten unread =>
    refine { cancelled with written := ?_ }
    exact holds_after_concat cancelled.written (writesCancelled_of_none unwritten unread)
  | placed present effect =>
    exact effect.cancelled consistent (undisturbed _ present) present cancelled
  | cancelled _ effect => exact effect.cancelled consistent cancelled

theorem Steps.consistent (consistent : service.memory.Consistent)
    (undisturbed : service.Undisturbed label) : next.memory.Consistent := by
  cases steps with
  | added => exact consistent
  | placed present effect =>
    cases effect with
    | quiet | executed | committed => exact consistent
    | matched inserted _ placed =>
      exact (Memory.place_keeps consistent ((undisturbed _ present).1 inserted) rfl placed).1
  | @cancelled _ _ id _ _ _ _ effect =>
    cases effect with
    | failed | marked => exact consistent
    | finished => exact (Memory.cancelOrder_keeps consistent id).1

theorem Steps.marked_stays (marked : Marked service id)
    (undisturbed : service.Undisturbed label) (waiting : .cancel id .marked ∈ service.calls) : Marked next id := by
  cases steps with
  | added unwritten =>
    refine { marked with unwritten := holds_after_concat marked.unwritten ?_ }
    rw [unwritten]
    exact List.forall_mem_nil _
  | placed present effect =>
    have own := marked.unwritten _ (List.mem_of_getElem? present)
    cases effect with
    | quiet _ updates _ | matched _ _ _ updates _ =>
      refine { marked with unwritten := holds_after_set marked.unwritten ?_ }
      exact fun update member => own update (updates member)
    | @executed _ _ _ prepared updates _ =>
      refine { marked with unwritten := holds_after_set marked.unwritten ?_ }
      intro other member
      rcases mem_concat.mp (updates member) with earlier | rfl
      · exact own other earlier
      -- fields read before the cancellation may be open: only `undisturbed` excludes them
      · rintro rfl
        exact (undisturbed _ present).2 other prepared waiting
    | @committed _ _ _ current updates _ =>
      refine ⟨?_, holds_after_set marked.unwritten ?_⟩
      · apply Database.rowStatus_commit marked.row
        intro update member same
        refine absurd same (own update ?_)
        rw [Call.updates, current]
        exact member
      · rw [updates]
        exact List.forall_mem_nil _
  | @cancelled index _ other _ later _ _ effect =>
    have unwritten : ∀ call ∈ service.calls.set index (.cancel other later), ∀ update ∈ call.updates, update.id ≠ id :=
      holds_after_set marked.unwritten (List.forall_mem_nil _)
    cases effect with
    | failed | finished => exact { marked with unwritten := unwritten }
    | marked _ found opened =>
      refine ⟨?_, unwritten⟩
      rw [Database.rowStatus_setCancelled, if_neg (ne_of_isOpen marked.row found opened)]
      exact marked.row

end

structure Protected (service : PgOrderService) : Prop where
  consistent : service.memory.Consistent
  marked : ∀ id, .cancel id .marked ∈ service.calls → Marked service id
  returned : ∀ id, .cancel id (.returned (.ok ())) ∈ service.calls → ∃ ref order, Cancelled service id ref order

theorem marked_now (present : service.calls[index]? = some (.cancel id .begun))
    (unlocked : ∀ call ∈ service.calls.eraseIdx index, call.locks id = false) : Marked { service with
      database := service.database.setCancelled id row
      calls := service.calls.set index (.cancel id later) } id where
  row := by rw [Database.rowStatus_setCancelled, if_pos rfl]
  unwritten := by
    refine holds_after_set ?_ nofun
    intro call member
    obtain ⟨other, found⟩ := List.mem_iff_getElem?.mp member
    by_cases same : other = index
    · rw [same, present] at found
      rw [← Option.some.inj found]
      exact nofun
    · exact Call.locks_eq_false (unlocked call (List.mem_eraseIdx_iff_getElem?.mpr ⟨other, same, found⟩))

theorem cancelled_now (marked : Marked service id) (unread : ∀ call ∈ service.calls, ∀ update ∈ call.prepared, update.id ≠ id)
    (succeeded : (service.memory.cancelOrder id).2 = .ok ()) : ∃ ref order, Cancelled { service with
      memory := (service.memory.cancelOrder id).1
      calls := service.calls.set index (.cancel id later) } id ref order := by
  obtain ⟨ref, order, mapped, object, status⟩ := Memory.cancelOrder_ok succeeded
  refine ⟨ref, order, marked.row, holds_after_set ?_ ?_, ?_, object, status⟩
  · rintro call member update (written | prepared) same
    · exact absurd same (marked.unwritten call member update written)
    · exact absurd same (unread call member update prepared)
  · exact writesCancelled_of_none rfl rfl
  · exact (congrFun (Memory.cancelOrder_orders service.memory id) id).trans mapped

theorem Steps.protected (steps : Steps service label next) (safe : Protected service)
    (undisturbed : service.Undisturbed label) : Protected next := by
  have marked : ∀ id, .cancel id .marked ∈ service.calls → Marked next id :=
    fun id waiting => steps.marked_stays (safe.marked id waiting) undisturbed waiting
  have returned : ∀ id, .cancel id (.returned (.ok ())) ∈ service.calls → ∃ ref order, Cancelled next id ref order := by
    intro id done
    obtain ⟨ref, order, cancelled⟩ := safe.returned id done
    exact ⟨ref, order, steps.cancelled_stays safe.consistent undisturbed cancelled⟩
  refine ⟨steps.consistent safe.consistent undisturbed, ?_, ?_⟩
  · intro id waiting
    cases steps with
    | added _ _ unmarked =>
      rcases mem_concat.mp waiting with earlier | new
      · exact marked id earlier
      · exact absurd new.symm (unmarked id)
    | placed =>
      rcases List.mem_or_eq_of_mem_set waiting with earlier | new
      · exact marked id earlier
      · cases new
    | cancelled present effect =>
      rcases List.mem_or_eq_of_mem_set waiting with earlier | new
      · exact marked id earlier
      · obtain ⟨rfl, rfl⟩ := Call.cancel.inj new
        cases effect with
        | marked _ _ _ unlocked => exact marked_now present unlocked
  · intro id done
    cases steps with
    | added _ _ _ running =>
      rcases mem_concat.mp done with earlier | new
      · exact returned id earlier
      · exact absurd new.symm (running id)
    | placed =>
      rcases List.mem_or_eq_of_mem_set done with earlier | new
      · exact returned id earlier
      · cases new
    | cancelled present effect =>
      rcases List.mem_or_eq_of_mem_set done with earlier | new
      · exact returned id earlier
      · obtain ⟨rfl, same⟩ := Call.cancel.inj new
        cases effect with
        | failed => cases same
        | marked unfinished => exact absurd same.symm unfinished
        | finished =>
          refine cancelled_now (safe.marked id (List.mem_of_getElem? present)) (undisturbed _ present) ?_
          cases outcome : (service.memory.cancelOrder id).2 with
          | ok => rfl
          | error =>
            rw [outcome] at same
            cases same

end Runs

theorem restoreRows_spec {memory rows} (consistent : memory.Consistent)
    (distinct : (rows.map Prod.fst).Nodup) (fresh : ∀ entry ∈ rows, memory.orders entry.1 = none)
    (opened : ∀ entry ∈ rows, entry.2.isOpen = true) :
    (restoreRows memory rows).Consistent ∧ ∀ id, memory.orders id = none →
      id ∉ rows.map Prod.fst → (restoreRows memory rows).orders id = none := by
  induction rows generalizing memory with
  | nil => exact ⟨consistent, fun _ absent _ => absent⟩
  | cons entry _ ih =>
    obtain ⟨first, restDistinct⟩ := List.nodup_cons.mp distinct
    obtain ⟨unknown, restFresh⟩ := List.forall_mem_cons.mp fresh
    obtain ⟨opens, restOpened⟩ := List.forall_mem_cons.mp opened
    obtain ⟨allocated, outside⟩ :=
      @Memory.Consistent.allocate (entry.2.order entry.1) _ consistent unknown
    have rested := allocated.rest List.getElem?_concat_length opens outside
    have unchanged : ∀ id, id ≠ entry.1 → memory.orders id = none →
        ((memory.allocate (entry.2.order entry.1)).rest memory.objects.length (entry.2.order entry.1)).orders id = none :=
      fun id different absent => (if_neg different).trans absent
    obtain ⟨kept, others⟩ := ih rested restDistinct (fun later member => unchanged later.1
        (fun same => first (List.mem_map.mpr ⟨later, member, same⟩)) (restFresh later member))
      restOpened
    refine ⟨kept, ?_⟩
    intro id absent outsideRows
    rw [List.map_cons, List.mem_cons, not_or] at outsideRows
    exact others id (unchanged id outsideRows.1 absent) outsideRows.2

theorem new_consistent : Memory.new.Consistent where
  named := nofun
  mapped := by
    intro ref order found
    cases found
  books := nofun

theorem rebuildFromDB_spec (database : Database) :
    (rebuildFromDB database).Consistent ∧ ∀ id, (∀ row, database.orders.get id = some row →
      row.isOpen = false) → (rebuildFromDB database).orders id = none := by
  have sorted : database.openRows.Perm (database.orders.entries.filter fun entry => entry.2.isOpen) :=
    List.perm_insertionSort _ _
  have distinct : (database.openRows.map Prod.fst).Nodup := by
    rw [(sorted.map Prod.fst).nodup_iff]
    exact database.orders.distinct.sublist (List.Sublist.map _ List.filter_sublist)
  obtain ⟨consistent, absent⟩ := restoreRows_spec new_consistent distinct (fun _ _ => rfl)
    (fun entry member => (List.mem_filter.mp (sorted.mem_iff.mp member)).2)
  refine ⟨consistent, ?_⟩
  intro id closed
  apply absent id rfl
  intro member
  obtain ⟨entry, listed, rfl⟩ := List.mem_map.mp member
  obtain ⟨stored, opened⟩ := List.mem_filter.mp (sorted.mem_iff.mp listed)
  rw [closed entry.2 (findValue_of_mem database.orders.distinct stored)] at opened
  cases opened

theorem started_protected (database : Database) : Protected (started database) where
  consistent := (rebuildFromDB_spec database).1
  marked := nofun
  returned := nofun

/-- Once a cancellation has returned without an error, the order stays as it is, its row is
cancelled and a restart does not bring it back. -/
theorem undisturbed_cancellation_stays {database : Database} {service next : PgOrderService} {id : OrderId}
    (reached : system.Reaches Undisturbed (started database) service)
    (done : .cancel id (.returned (.ok ())) ∈ service.calls) (later : system.Reaches Undisturbed service next) :
    (∃ ref order, service.memory.orders id = some ref ∧
      service.memory.objects[ref]? = some order ∧ next.memory.orders id = some ref ∧
      next.memory.objects[ref]? = some order) ∧ next.database.rowStatus id = some .cancelled ∧
    (rebuildFromDB next.database).orders id = none ∧
    ∀ order ∈ (rebuildFromDB next.database).objects, order.id ≠ id := by
  have safe : Protected service := by
    apply reached.invariant Protected (started_protected database)
    exact fun _ _ _ undisturbed stepped safe => (step_steps stepped).protected safe undisturbed
  obtain ⟨ref, order, cancelled⟩ := safe.returned id done
  obtain ⟨-, stays⟩ : Protected next ∧ Cancelled next id ref order := by
    apply later.invariant (fun state => Protected state ∧ Cancelled state id ref order) ⟨safe, cancelled⟩
    intro before label after undisturbed stepped held
    have steps := step_steps stepped
    exact ⟨steps.protected held.1 undisturbed, steps.cancelled_stays held.1.consistent undisturbed held.2⟩
  obtain ⟨consistent, absent⟩ := rebuildFromDB_spec next.database
  have unknown : (rebuildFromDB next.database).orders id = none := by
    apply absent
    intro row found
    rw [← Bool.not_eq_true]
    exact fun opened => ne_of_isOpen stays.row found opened rfl
  refine ⟨⟨ref, order, cancelled.mapped, cancelled.object, stays.mapped, stays.object⟩, stays.row, unknown, ?_⟩
  rintro order member rfl
  obtain ⟨place, found⟩ := List.mem_iff_getElem?.mp member
  rw [consistent.mapped place order found] at unknown
  cases unknown

instance callUndisturbedDecidable (service : PgOrderService) (call : Call) : Decidable (service.CallUndisturbed call) :=
  match call with
  | .place request phase => inferInstanceAs (Decidable ((phase.isInserted = true → service.memory.orders request.id = none) ∧
        ∀ update ∈ phase.prepared, Call.cancel update.id .marked ∉ service.calls))
  | .cancel id .marked => inferInstanceAs (Decidable (∀ call ∈ service.calls, ∀ update ∈ call.prepared, update.id ≠ id))
  | .cancel _ .begun | .cancel _ (.returned _) => .isTrue trivial

instance undisturbedDecidable (service : PgOrderService) (label : PgLabel) : Decidable (service.Undisturbed label) :=
  match label with
  | .access index _ => inferInstanceAs (Decidable (∀ call ∈ service.calls[index]?, service.CallUndisturbed call))
  | .placeOrder _ | .cancelOrder _ => .isTrue trivial

theorem sale_cancelled_for_good :
    ∃ service : PgOrderService, Call.cancel "maker" (.returned (.ok ())) ∈ service.calls ∧
      service.database.rowStatus "maker" = some .cancelled ∧
      (rebuildFromDB service.database).orders "maker" = none := by
  obtain ⟨service, reached, done⟩ := System.exists_reaches_of_run system Undisturbed
    (started emptyDatabase) (placeSale ++ [.cancelOrder "maker", .access 1 works, .access 1 works])
    (fun service => Call.cancel "maker" (.returned (.ok ())) ∈ service.calls)
    (by decide) (by decide)
  have stays := undisturbed_cancellation_stays reached done .refl
  exact ⟨service, done, stays.2.1, stays.2.2.1⟩

/-- A purchase has read the sale that it filled in part; the sale's row is cancelled, then
overwritten, and the cancellation returns without an error. -/
theorem cancelled_row_overwritten : ∃ service : PgOrderService, system.Reachable (started emptyDatabase) service ∧
      Call.cancel "maker" (.returned (.ok ())) ∈ service.calls ∧
      service.database.rowStatus "maker" = some .partlyFilled ∧
      ((rebuildFromDB service.database).bookForInstrument "ACME").entries .sell = [(100, 0)] ∧
      ((rebuildFromDB service.database).objects[0]?).map Order.id = some "maker" :=
  System.exists_reachable_of_run system (started emptyDatabase)
    (placeSale ++ .placeOrder buyFour :: List.replicate 6 (.access 1 works) ++
      [.cancelOrder "maker", .access 2 works] ++ List.replicate 4 (.access 1 works) ++
      [.access 2 works]) _ (by decide +kernel)

end PgOrderService

end Blazil.Trading
