import Blazil.Trading.PgOrderService

/-! Everything that one step of a call of the database-backed service can do. -/

set_option autoImplicit false

namespace Blazil.Trading

def Call.updates (call : Call) : List RowUpdate :=
  (call.transaction.map Transaction.updates).getD []

/-- The arguments that have been read for the next statement. -/
def PlacePhase.prepared : PlacePhase → Option RowUpdate
  | .updatingMakers _ _ _ prepared _ => prepared
  | .updatingTaker _ _ prepared _ => some prepared
  | _ => none

def Call.prepared : Call → Option RowUpdate
  | .place _ phase => phase.prepared
  | .cancel _ _ => none

def PlacePhase.isInserted : PlacePhase → Bool
  | .inserted _ _ => true
  | _ => false

/-- The match has been made, or the call is over. -/
def PlacePhase.matched : PlacePhase → Bool
  | .begun => false
  | .opened _ _ => false
  | .inserted _ _ => false
  | _ => true

namespace PgOrderService

/-- Everything that one step of `PlaceOrder` can do. -/
inductive PlaceEffect (service : PgOrderService) (request : PlaceOrderRequest)
    (phase : PlacePhase) : PgOrderService → PlacePhase → Prop where
  | quiet {later} (past : phase.matched = true → later.matched = true)
      (updates : (Call.place request later).updates ⊆ (Call.place request phase).updates)
      (read : ∀ update, later.prepared = some update → ∃ ref, service.fieldsOf ref = some update) :
      PlaceEffect service request phase service later
  | matched {side turns result later} (inserted : phase.isInserted = true) (now : later.matched = true)
      (placed : service.memory.place turns service.tradeId (request.order side) = some result)
      (updates : (Call.place request later).updates ⊆ (Call.place request phase).updates)
      (unread : later.prepared = none) :
      PlaceEffect service request phase
        { service with memory := result.memory, tradeId := result.tradeId } later
  | executed {update later} (past : phase.matched = true → later.matched = true)
      (prepared : phase.prepared = some update)
      (updates : (Call.place request later).updates ⊆ (Call.place request phase).updates ++ [update])
      (unread : later.prepared = none) :
      PlaceEffect service request phase service later
  | committed {transaction later} (past : phase.matched = true → later.matched = true)
      (current : (Call.place request phase).transaction = some transaction)
      (updates : (Call.place request later).updates = []) (unread : later.prepared = none) :
      PlaceEffect service request phase
        { service with database := service.database.commit transaction } later

inductive CancelEffect (service : PgOrderService) (others : List Call) (id : OrderId) :
    CancelPhase → PgOrderService → CancelPhase → Prop where
  | failed {cause} : CancelEffect service others id .begun service (.returned (.error cause))
  | marked {row later} (later_ok : later ≠ .returned (.ok ()))
      (found : service.database.orders.get id = some row) (opened : row.isOpen = true)
      (unlocked : ∀ call ∈ others, call.locks id = false) :
      CancelEffect service others id .begun
        { service with database := service.database.setCancelled id row } later
  | finished : CancelEffect service others id .marked
        { service with memory := (service.memory.cancelOrder id).1 }
        (.returned ((service.memory.cancelOrder id).2.mapError .domain))

section Effects

variable {service next : PgOrderService} {others : List Call} {request : PlaceOrderRequest} {access : PgAccess}
  {phase later : PlacePhase}

theorem quiet_unread (past : phase.matched = true → later.matched = true)
    (updates : (Call.place request later).updates ⊆ (Call.place request phase).updates)
    (unread : later.prepared = none) : PlaceEffect service request phase service later := by
  refine .quiet past updates ?_
  intro update prepared
  rw [unread] at prepared
  cases prepared

theorem quiet_failed {cause : PgError} : PlaceEffect service request phase service (.returned (.error cause)) :=
  quiet_unread (fun _ => rfl) (List.nil_subset _) rfl

theorem placeBegun_effect (service : PgOrderService) (request : PlaceOrderRequest)
    (access : PgAccess) : PlaceEffect service request .begun
      (placeBegun service request access).1 (placeBegun service request access).2 := by
  unfold placeBegun
  split
  · exact quiet_failed
  · split
    · exact quiet_failed
    · split
      · exact quiet_failed
      · split
        · exact quiet_failed
        · exact quiet_unread id (List.nil_subset _) rfl

variable {side : Side} {update : RowUpdate} {ref : Ref} {trades : List Trade}

theorem placeOpened_effect {placedAt : Nat}
    (stepped : placeOpened service others request access side placedAt = some (next, later)) :
    PlaceEffect service request (.opened side placedAt) next later := by
  unfold placeOpened at stepped
  split at stepped
  · cases stepped
    exact quiet_failed
  · split at stepped
    · cases stepped
      exact quiet_failed
    · split at stepped
      · cases stepped
      · cases stepped
        exact quiet_unread id (List.nil_subset _) rfl

variable {transaction : Transaction}

theorem placeInserted_effect (stepped : placeInserted service request access side transaction = some (next, later)) :
    PlaceEffect service request (.inserted side transaction) next later := by
  obtain ⟨_, placed, made⟩ := Option.map_eq_some_iff.mp stepped
  obtain ⟨rfl, rfl⟩ := Prod.mk.inj made
  exact .matched rfl rfl placed (List.Subset.refl _) rfl

theorem placeTrade_effect (service : PgOrderService) (access : PgAccess) (ref : Ref) (trades : List Trade)
    (trade : Trade) (rest : List Trade) (makers : List Ref) (transaction : Transaction) : PlaceEffect service request
      (.insertingTrades ref trades (trade :: rest) makers transaction)
      (placeTrade service access ref trades trade rest makers transaction).1
      (placeTrade service access ref trades trade rest makers transaction).2 := by
  unfold placeTrade
  split
  · exact quiet_failed
  · exact quiet_unread (fun _ => rfl) (List.Subset.refl _) rfl

theorem executeUpdate_updates {written} (executed : executeUpdate service others transaction update = some written) :
    written.updates ⊆ transaction.updates ++ [update] := by
  unfold executeUpdate at executed
  split at executed
  · split at executed
    · cases executed
    · rw [← Option.some.inj executed]
      exact List.Subset.refl _
  · rw [← Option.some.inj executed]
    exact List.subset_append_left _ _

theorem updates_eq (current : phase.transaction = some transaction) :
    (Call.place request phase).updates = transaction.updates := by
  rw [Call.updates, Call.transaction, current, Option.map_some, Option.getD_some]

theorem placeUpdate_effect {context following}
    (current : phase.transaction = some transaction) (prepared : phase.prepared = some update)
    (follows : ∀ written, (following written).matched = true ∧
      (following written).transaction = some written ∧ (following written).prepared = none)
    (stepped : placeUpdate service others access context transaction update following =
      some (next, later)) : PlaceEffect service request phase next later := by
  unfold placeUpdate at stepped
  split at stepped
  · cases stepped
    exact quiet_failed
  · obtain ⟨written, executed, made⟩ := Option.map_eq_some_iff.mp stepped
    obtain ⟨rfl, rfl⟩ := Prod.mk.inj made
    obtain ⟨stillPast, now, unread⟩ := follows written
    refine .executed (fun _ => stillPast) prepared ?_ unread
    rw [updates_eq now, updates_eq current]
    exact executeUpdate_updates executed

theorem placeMakersDone_effect (stepped : placeMakersDone service ref trades transaction = some (next, later)) :
    PlaceEffect service request (.updatingMakers ref trades [] none transaction) next later := by
  obtain ⟨_, read, made⟩ := Option.map_eq_some_iff.mp stepped
  obtain ⟨rfl, rfl⟩ := Prod.mk.inj made
  split
  · refine .quiet (fun _ => rfl) (List.Subset.refl _) ?_
    intro update prepared
    exact ⟨ref, read.trans prepared⟩
  · exact quiet_unread (fun _ => rfl) (List.Subset.refl _) rfl

theorem placeCommit_effect (stepped : placeCommit service access ref trades transaction = some (next, later)) :
    PlaceEffect service request (.committing ref trades transaction) next later := by
  unfold placeCommit at stepped
  split at stepped
  · cases stepped
    split
    · exact .committed (fun _ => rfl) rfl rfl rfl
    · exact quiet_failed
  · obtain ⟨_, _, made⟩ := Option.map_eq_some_iff.mp stepped
    obtain ⟨rfl, rfl⟩ := Prod.mk.inj made
    exact .committed (fun _ => rfl) rfl rfl rfl

theorem placeStep_effect (stepped : placeStep service others request access phase = some (next, later)) :
    PlaceEffect service request phase next later := by
  unfold placeStep at stepped
  split at stepped
  · have effect := placeBegun_effect service request access
    rw [Option.some.inj stepped] at effect
    exact effect
  · exact placeOpened_effect stepped
  · exact placeInserted_effect stepped
  · next ref trades trade rest makers transaction =>
    have effect := @placeTrade_effect request service access ref trades trade rest makers transaction
    rw [Option.some.inj stepped] at effect
    exact effect
  · cases stepped
    exact quiet_unread (fun _ => rfl) (List.Subset.refl _) rfl
  · next ref trades maker rest transaction =>
    obtain ⟨_, read, made⟩ := Option.map_eq_some_iff.mp stepped
    obtain ⟨rfl, rfl⟩ := Prod.mk.inj made
    refine .quiet (fun _ => rfl) (List.Subset.refl _) ?_
    intro update prepared
    exact ⟨maker, read.trans prepared⟩
  · exact placeUpdate_effect rfl rfl (fun _ => ⟨rfl, rfl, rfl⟩) stepped
  · exact placeMakersDone_effect stepped
  · exact placeUpdate_effect rfl rfl (fun _ => ⟨rfl, rfl, rfl⟩) stepped
  · exact placeCommit_effect stepped
  · cases stepped

theorem cancelStep_effect {id phase later}
    (stepped : cancelStep service others access id phase = some (next, later)) :
    CancelEffect service others id phase next later := by
  have free : ¬ others.any (Call.locks id) = true → ∀ call ∈ others, call.locks id = false := by
    intro unlocked call member
    rw [← Bool.not_eq_true]
    exact fun locked => unlocked (List.any_eq_true.mpr ⟨call, member, locked⟩)
  unfold cancelStep at stepped
  split at stepped
  · unfold cancelBegun at stepped
    split at stepped
    · next row found =>
      obtain ⟨present, opened⟩ := Option.filter_eq_some_iff.mp found
      unfold cancelRow at stepped
      split at stepped
      · split at stepped
        · split at stepped
          · cases stepped
          · next unlocked =>
            cases stepped
            exact .marked nofun present opened (free unlocked)
        · cases stepped
          exact .failed
      · split at stepped
        · cases stepped
        · next unlocked =>
          cases stepped
          exact .marked nofun present opened (free unlocked)
    · split at stepped <;> cases stepped <;> exact .failed
  · cases stepped
    exact .finished
  · cases stepped

end Effects

inductive Steps (service : PgOrderService) : PgLabel → PgOrderService → Prop where
  | added {label call} (unwritten : call.updates = [])
      (unread : call.prepared = none) (unmarked : ∀ id, call ≠ .cancel id .marked)
      (running : ∀ id, call ≠ .cancel id (.returned (.ok ()))) :
      Steps service label { service with calls := service.calls ++ [call] }
  | placed {index access request phase later changed} (present : service.calls[index]? = some (.place request phase))
      (effect : PlaceEffect service request phase changed later) :
      Steps service (.access index access)
        { changed with calls := service.calls.set index (.place request later) }
  | cancelled {index access id phase later changed} (present : service.calls[index]? = some (.cancel id phase))
      (effect : CancelEffect service (service.calls.eraseIdx index) id phase changed later) :
      Steps service (.access index access)
        { changed with calls := service.calls.set index (.cancel id later) }

theorem step_steps {service next label}
    (stepped : system.step service label = some next) : Steps service label next := by
  cases label with
  | placeOrder | cancelOrder =>
    cases stepped
    exact .added rfl rfl nofun nofun
  | access =>
    obtain ⟨call, present, rest⟩ := Option.bind_eq_some_iff.mp stepped
    obtain ⟨_, called, rfl⟩ := Option.map_eq_some_iff.mp rest
    cases call with
    | place =>
      obtain ⟨_, moved, rfl⟩ := Option.map_eq_some_iff.mp called
      exact .placed present (placeStep_effect moved)
    | cancel =>
      obtain ⟨_, moved, rfl⟩ := Option.map_eq_some_iff.mp called
      exact .cancelled present (cancelStep_effect moved)

end PgOrderService

end Blazil.Trading
