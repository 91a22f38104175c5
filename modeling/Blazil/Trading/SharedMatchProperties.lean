import Blazil.Trading.MemoryProperties

/-! Matching, placing and cancelling keep the memory consistent, and none of them changes an
order that is filled or cancelled. -/

set_option autoImplicit false

namespace Blazil.Trading

open Foundation

/-- Orders that are no longer open stay as they are, other than a given one. -/
def Memory.KeepsClosed (taker : Ref) (before after : Memory) : Prop :=
  ∀ (ref : Ref) order, ref ≠ taker → before.objects[ref]? = some order → order.isOpen = false → after.objects[ref]? = some order

namespace Memory.KeepsClosed

variable {taker : Ref} {first second third : Memory}

theorem refl (taker : Ref) (memory : Memory) : KeepsClosed taker memory memory :=
  fun _ _ _ object _ => object

theorem trans (earlier : KeepsClosed taker first second) (later : KeepsClosed taker second third) :
    KeepsClosed taker first third :=
  fun ref order other object closed =>
    later ref order other (earlier ref order other object closed) closed

theorem modify_open {ref : Ref} {order : Order} (object : first.objects[ref]? = some order)
    (opened : order.isOpen = true) (change : Order → Order) : KeepsClosed taker first (first.modify ref change) := by
  intro other another _ anotherObject closed
  rw [Memory.Consistent.objects_modify change anotherObject, if_neg]
  rintro rfl
  rw [← entry_unique object anotherObject, opened] at closed
  cases closed

theorem modify_taker (change : Order → Order) : KeepsClosed taker first (first.modify taker change) := by
  intro other another different anotherObject _
  rw [Memory.Consistent.objects_modify change anotherObject, if_neg (Ne.symm different)]

end Memory.KeepsClosed

namespace SharedMatch

variable {takerRef : Ref} {state next : SharedMatch}

theorem turn_some (turned : turn takerRef state = some next) :
    ∃ taker makerRef maker, state.memory.objects[takerRef]? = some taker ∧ state.memory.objects[makerRef]? = some maker ∧
      (state.memory.bookForInstrument taker.instrumentId).bestMatchingLevel taker = some makerRef ∧
      next = state.trade takerRef makerRef taker maker := by
  unfold turn at turned
  split at turned
  · cases turned
  · next taker takerObject =>
    split at turned
    · split at turned
      · cases turned
      · next makerRef found =>
        obtain ⟨maker, makerObject, made⟩ := Option.map_eq_some_iff.mp turned
        exact ⟨taker, makerRef, maker, takerObject, makerObject, found, made.symm⟩
    · cases turned

theorem orders_dropMaker (memory : Memory) (instrument : InstrumentId) (id : OrderId) :
    (dropMaker memory instrument id).orders = memory.orders ∧ (dropMaker memory instrument id).objects = memory.objects := by
  unfold dropMaker
  split <;> exact ⟨rfl, rfl⟩

theorem orders_trade (makerRef : Ref) (taker maker : Order) :
    (state.trade takerRef makerRef taker maker).memory.orders = state.memory.orders := by
  change (serveMaker _ _ _ _ _).orders = _
  unfold serveMaker
  split
  · exact (orders_dropMaker _ _ _).1
  · rfl

theorem orders_turn (turned : turn takerRef state = some next) : next.memory.orders = state.memory.orders := by
  obtain ⟨taker, makerRef, maker, _, _, _, rfl⟩ := turn_some turned
  exact orders_trade makerRef taker maker

/-- The state of a match whose taker is not in the book. -/
structure Sound (start : Memory) (takerRef : Ref) (state : SharedMatch) : Prop where
  consistent : state.memory.Consistent
  outside : ¬ state.memory.Rests takerRef
  taker : ∃ taker, state.memory.objects[takerRef]? = some taker ∧ taker.status ≠ .cancelled
  closed : start.KeepsClosed takerRef state.memory

variable {memory : Memory} {makerRef : Ref} {maker : Order}
variable {instrument : InstrumentId} {side : Side} {price : Int} {start : Memory}

theorem dropMaker_keeps (consistent : memory.Consistent) (object : memory.objects[makerRef]? = some maker)
    (placed : maker.instrumentId = instrument) (member : (price, makerRef) ∈ (memory.bookForInstrument instrument).entries side) :
    (dropMaker memory instrument maker.id).Consistent ∧ ¬ (dropMaker memory instrument maker.id).Rests makerRef ∧
      ∀ other, (dropMaker memory instrument maker.id).Rests other → memory.Rests other := by
  obtain ⟨_, cancelled⟩ :=
    (consistent.bookForInstrument instrument).cancel_succeeds member object
  unfold dropMaker
  rw [cancelled]
  exact consistent.cancel object rfl placed cancelled

/-- What the assignments to the maker leave. -/
structure Served (memory : Memory) (makerRef : Ref) (served : Memory) : Prop where
  consistent : served.Consistent
  fewer : ∀ ref, served.Rests ref → memory.Rests ref
  closed : ∀ takerRef, memory.KeepsClosed takerRef served
  others : ∀ (ref : Ref) order, ref ≠ makerRef → memory.objects[ref]? = some order → served.objects[ref]? = some order

theorem Served.setStatus {counted : Memory} (served : Served memory makerRef counted)
    (object : counted.objects[makerRef]? = some maker) (opened : maker.isOpen = true)
    (status : OrderStatus) (stays : counted.Rests makerRef → (maker.setStatus status).isOpen) :
    Served memory makerRef (counted.modify makerRef (Order.setStatus status)) where
  consistent := by
    apply served.consistent.modify (Order.samePlace_setStatus status)
    intro order sameObject rests
    exact stays rests
  fewer := served.fewer
  closed := fun takerRef =>
    (served.closed takerRef).trans (Memory.KeepsClosed.modify_open object opened _)
  others := by
    intro ref order different found
    rw [Memory.Consistent.objects_modify _ (served.others ref order different found), if_neg (Ne.symm different)]

theorem serveMaker_served (units : Int) (consistent : memory.Consistent) (object : memory.objects[makerRef]? = some maker)
    (member : (price, makerRef) ∈ (memory.bookForInstrument instrument).entries side) :
    Served memory makerRef (serveMaker memory instrument makerRef maker units) := by
  obtain ⟨_, restingObject, placed, _, _, opened, _⟩ :=
    (consistent.bookForInstrument instrument).resting side price makerRef member
  obtain rfl := entry_unique object restingObject
  have countedObject : (memory.modify makerRef (Order.addFilled units)).objects[makerRef]? = some (maker.addFilled units) := by
    rw [Memory.Consistent.objects_modify _ object, if_pos rfl]
  have counted : Served memory makerRef (memory.modify makerRef (Order.addFilled units)) := by
    refine ⟨?_, fun _ rests => rests, fun _ => Memory.KeepsClosed.modify_open object opened _, ?_⟩
    · apply consistent.modify (Order.samePlace_addFilled units)
      intro order sameObject _
      rw [← entry_unique object sameObject]
      exact opened
    · intro ref order different found
      rw [Memory.Consistent.objects_modify _ found, if_neg (Ne.symm different)]
  unfold serveMaker
  split
  · obtain ⟨_, sameObjects⟩ :=
      orders_dropMaker (memory.modify makerRef (Order.addFilled units)) instrument maker.id
    obtain ⟨dropped, gone, fewer⟩ :=
      dropMaker_keeps counted.consistent countedObject placed member
    have without : Served memory makerRef (dropMaker (memory.modify makerRef (Order.addFilled units)) instrument maker.id) := by
      refine ⟨dropped, fewer, ?_, ?_⟩
      · intro takerRef ref order other found closed
        rw [sameObjects]
        exact counted.closed takerRef ref order other found closed
      · intro ref order different found
        rw [sameObjects]
        exact counted.others ref order different found
    rw [← sameObjects] at countedObject
    exact without.setStatus countedObject opened .filled fun rests => absurd rests gone
  · exact counted.setStatus countedObject opened .partlyFilled fun _ => rfl

theorem Sound.turn (sound : Sound start takerRef state)
    (turned : turn takerRef state = some next) : Sound start takerRef next := by
  obtain ⟨taker, makerRef, maker, takerObject, makerObject, found, rfl⟩ := turn_some turned
  obtain ⟨_, _, member⟩ := SharedBook.bestMatchingLevel_mem found
  -- the taker is not in the book while it is matched, so it never trades with itself
  have different : takerRef ≠ makerRef := by
    rintro rfl
    exact sound.outside (Memory.Consistent.rests_bookForInstrument member)
  have served := serveMaker_served (min64 taker.remainingUnits maker.remainingUnits) sound.consistent makerObject member
  refine ⟨?_, ?_, ?_, ?_⟩
  · apply served.consistent.modify (Order.samePlace_fill _)
    intro _ _ rests
    exact absurd (served.fewer takerRef rests) sound.outside
  · exact fun rests => sound.outside (served.fewer takerRef rests)
  · have kept := served.others takerRef taker different takerObject
    refine ⟨taker.fill (min64 taker.remainingUnits maker.remainingUnits), ?_, ?_⟩
    · rw [trade, Memory.Consistent.objects_modify _ kept, if_pos rfl]
    · unfold Order.fill Order.statusAfterFill
      rw [Order.setStatus_status]
      split <;> decide
  · exact (sound.closed.trans (served.closed takerRef)).trans (Memory.KeepsClosed.modify_taker _)

theorem Sound.restTaker (sound : Sound start takerRef state) : (restTaker takerRef state).memory.Consistent ∧
      start.KeepsClosed takerRef (SharedMatch.restTaker takerRef state).memory := by
  obtain ⟨taker, object, notCancelled⟩ := sound.taker
  unfold SharedMatch.restTaker
  rw [object]
  dsimp only
  split
  · next notFilled =>
    have opened : taker.isOpen = true := by
      unfold Order.isOpen
      cases status : taker.status with
      | opened | partlyFilled => rfl
      | filled => exact absurd status notFilled
      | cancelled => exact absurd status notCancelled
    exact ⟨sound.consistent.rest object opened sound.outside, sound.closed⟩
  · exact ⟨sound.consistent, sound.closed⟩

theorem orders_restTaker : (restTaker takerRef state).memory.orders = state.memory.orders := by
  unfold restTaker
  split
  · rfl
  · split <;> rfl

end SharedMatch

namespace Memory

variable {memory : Memory} {turns tradeId : Nat} {order : Order} {result : SharedMatch}

theorem place_orders (placed : memory.place turns tradeId order = some result) :
    result.memory.orders = (memory.allocate order).orders := by
  obtain ⟨_, left, rfl⟩ := Option.map_eq_some_iff.mp placed
  rw [SharedMatch.orders_restTaker]
  refine runLoop_invariant (fun state => state.memory.orders = (memory.allocate order).orders) ?_ rfl left
  intro state next same turned
  rw [SharedMatch.orders_turn turned, same]

def entered (memory : Memory) (tradeId : Nat) (order : Order) : SharedMatch :=
  ⟨(memory.allocate order).setBook order.instrumentId (memory.bookForInstrument order.instrumentId), tradeId, [], []⟩

theorem sound_entered (consistent : memory.Consistent) (fresh : memory.orders order.id = none) (opened : order.status = .opened)
    (tradeId : Nat) : SharedMatch.Sound (memory.allocate order) memory.objects.length (memory.entered tradeId order) := by
  obtain ⟨allocated, outside⟩ := consistent.allocate fresh
  refine ⟨allocated.setBook (allocated.bookForInstrument order.instrumentId), ?_, ?_, ?_⟩
  · intro rests
    rcases Consistent.rests_setBook rests with ⟨_, _, member⟩ | earlier
    · exact outside (Consistent.rests_bookForInstrument member)
    · exact outside earlier
  · refine ⟨order, List.getElem?_concat_length, ?_⟩
    rw [opened]
    decide
  · exact KeepsClosed.refl _ _

theorem place_keeps (consistent : memory.Consistent) (fresh : memory.orders order.id = none)
    (opened : order.status = .opened) (placed : memory.place turns tradeId order = some result) :
    result.memory.Consistent ∧ ∀ (ref : Ref) earlier, memory.objects[ref]? = some earlier →
      earlier.isOpen = false → result.memory.objects[ref]? = some earlier := by
  obtain ⟨_, left, rfl⟩ := Option.map_eq_some_iff.mp placed
  have sound := runLoop_invariant (SharedMatch.Sound _ memory.objects.length)
    (fun _ _ sound turned => sound.turn turned) (sound_entered consistent fresh opened tradeId) left
  obtain ⟨kept, closed⟩ := sound.restTaker
  refine ⟨kept, ?_⟩
  intro ref earlier object notOpen
  have inside := entry_lt object
  apply closed ref earlier (Nat.ne_of_lt inside) _ notOpen
  change (memory.objects ++ [order])[ref]? = some earlier
  rw [List.getElem?_append_left inside, object]

theorem cancelOrder_cases (memory : Memory) (id : OrderId) : ((∃ cause, (memory.cancelOrder id).2 = .error cause) ∧
      ((memory.cancelOrder id).1 = memory ∨ ∃ instrument, (memory.cancelOrder id).1 =
        memory.setBook instrument (memory.bookForInstrument instrument))) ∨
    ∃ ref order removed, memory.orders id = some ref ∧ memory.objects[ref]? = some order ∧ order.isOpen = true ∧
      (memory.bookForInstrument order.instrumentId).cancel memory.objects id = .ok removed ∧
      memory.cancelOrder id = ((memory.setBook order.instrumentId removed).modify ref (Order.setStatus .cancelled), .ok ()) := by
  unfold cancelOrder
  split
  · exact .inl ⟨⟨_, rfl⟩, .inl rfl⟩
  · next ref found =>
    split
    · exact .inl ⟨⟨_, rfl⟩, .inl rfl⟩
    · next order object =>
      split
      · next opened =>
        dsimp only
        split
        · exact .inl ⟨⟨_, rfl⟩, .inr ⟨_, rfl⟩⟩
        · next removed cancelled =>
          exact .inr ⟨ref, order, removed, found, object, opened, cancelled, rfl⟩
      · exact .inl ⟨⟨_, rfl⟩, .inl rfl⟩

theorem cancelOrder_orders (memory : Memory) (id : OrderId) : (memory.cancelOrder id).1.orders = memory.orders := by
  rcases memory.cancelOrder_cases id with
    ⟨_, same | ⟨_, opened⟩⟩ | ⟨_, _, _, _, _, _, _, made⟩
  · rw [same]
  · rw [opened]
    rfl
  · rw [made]
    rfl

theorem cancelOrder_keeps (consistent : memory.Consistent) (id : OrderId) : (memory.cancelOrder id).1.Consistent ∧
      ∀ (ref : Ref) earlier, memory.objects[ref]? = some earlier → earlier.isOpen = false →
        (memory.cancelOrder id).1.objects[ref]? = some earlier := by
  rcases memory.cancelOrder_cases id with
    ⟨_, same | ⟨instrument, opened⟩⟩ | ⟨ref, order, removed, found, object, opened, cancelled, made⟩
  · rw [same]
    exact ⟨consistent, fun _ _ object _ => object⟩
  · rw [opened]
    exact ⟨consistent.setBook (consistent.bookForInstrument instrument), fun _ _ object _ => object⟩
  · obtain ⟨_, namedObject, own⟩ := consistent.named id ref found
    obtain rfl := entry_unique object namedObject
    obtain ⟨kept, gone, _⟩ := consistent.cancel object own rfl cancelled
    rw [made]
    constructor
    · exact kept.modify (Order.samePlace_setStatus .cancelled) fun _ _ rests => absurd rests gone
    · intro other earlier earlierObject closed
      rw [Consistent.objects_modify _ (show (memory.setBook order.instrumentId
        removed).objects[other]? = some earlier from earlierObject), if_neg]
      rintro rfl
      rw [← entry_unique object earlierObject, opened] at closed
      cases closed

theorem cancelOrder_ok {id : OrderId} (succeeded : (memory.cancelOrder id).2 = .ok ()) :
    ∃ ref order, memory.orders id = some ref ∧
      (memory.cancelOrder id).1.objects[ref]? = some order ∧ order.status = .cancelled := by
  rcases memory.cancelOrder_cases id with
    ⟨⟨cause, failed⟩, _⟩ | ⟨ref, order, removed, found, object, _, _, made⟩
  · rw [failed] at succeeded
    cases succeeded
  · refine ⟨ref, order.setStatus .cancelled, found, ?_, rfl⟩
    rw [made, Consistent.objects_modify _ (show (memory.setBook order.instrumentId
      removed).objects[ref]? = some order from object), if_pos rfl]

end Memory

end Blazil.Trading
