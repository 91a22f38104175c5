import Blazil.Trading.Book

/-! Order books and matching on shared order objects (`services/trading/internal/orderbook`
and `matching`). Two objects may have one id once orders are placed through a database, so
here an order is reached by the reference to its object. -/

set_option autoImplicit false

namespace Blazil.Trading

open Foundation

/-- A pointer to an order, as its place among the objects. -/
abbrev Ref := Nat

structure SharedBook where
  bids : List (Level Int Ref)
  asks : List (Level Int Ref)
  orderIndex : OrderId → Option Ref

namespace SharedBook

def new : SharedBook := ⟨[], [], fun _ => none⟩

def levels (book : SharedBook) : Side → List (Level Int Ref)
  | .buy => book.bids
  | .sell => book.asks

def setLevels (book : SharedBook) (side : Side) (levels : List (Level Int Ref)) : SharedBook :=
  match side with
  | .buy => { book with bids := levels }
  | .sell => { book with asks := levels }

def setIndex (book : SharedBook) (id : OrderId) (ref : Option Ref) : SharedBook :=
  { book with orderIndex := fun other => if other = id then ref else book.orderIndex other }

def addToLevels (levels : List (Level Int Ref)) (ref : Ref) (price : Int) (descending : Bool) : List (Level Int Ref) :=
  Level.insertItem (fun other => if descending then other ≤ price else price ≤ other) price ref
    levels

/-- The orders of a level are compared by id. -/
def removeFromLevels (objects : List Order) (levels : List (Level Int Ref)) (order : Order) : List (Level Int Ref) :=
  Level.removeWhere order.limitPriceMinorUnits (fun ref => objects[ref]?.map Order.id = some order.id) levels

def add (book : SharedBook) (ref : Ref) (order : Order) : Except TradingError SharedBook :=
  if (book.orderIndex order.id).isSome then .error .orderAlreadyExists
  else
    let indexed := book.setIndex order.id (some ref)
    .ok (indexed.setLevels order.side (addToLevels (indexed.levels order.side) ref
      order.limitPriceMinorUnits (order.side = .buy)))

def cancel (book : SharedBook) (objects : List Order) (id : OrderId) : Except TradingError SharedBook :=
  match (book.orderIndex id).bind fun ref => objects[ref]? with
  | none => .error .orderNotFound
  | some order =>
    if order.isOpen then
      let removed := book.setLevels order.side (removeFromLevels objects (book.levels order.side) order)
      .ok (removed.setIndex id none)
    else .error .orderNotOpen

def best (book : SharedBook) (side : Side) : Option Int :=
  (book.levels side).head?.map fun level => level.key

def ordersAtPrice (book : SharedBook) (side : Side) (priceMinorUnits : Int) : List Ref :=
  (((book.levels side).find? fun level => level.key = priceMinorUnits).map fun level => level.items).getD []

/-- The oldest order at a price that one of the levels has. -/
def firstOrderAtLevel (book : SharedBook) (side : Side) (price : Int) : Option Ref :=
  (book.levels side).findSome? fun level =>
    if level.key = price then (book.ordersAtPrice side price).head? else none

def bestMatchingLevel (book : SharedBook) (taker : Order) : Option Ref :=
  match taker.side with
  | .buy =>
    match book.best .sell with
    | none => none
    | some bestAsk =>
      if bestAsk > taker.limitPriceMinorUnits then none
      else book.firstOrderAtLevel .sell bestAsk
  | .sell =>
    match book.best .buy with
    | none => none
    | some bestBid =>
      if bestBid < taker.limitPriceMinorUnits then none
      else book.firstOrderAtLevel .buy bestBid

end SharedBook

/-- The part of `InMemoryOrderService` that the database-backed service uses. A pointer in
the map is that of an existing object. -/
structure Memory where
  objects : List Order
  orders : OrderId → Option Ref
  books : InstrumentId → Option SharedBook
  valid : ∀ id ref, orders id = some ref → ref < objects.length

namespace Memory

theorem new_valid (_ : OrderId) (ref : Ref) (found : (none : Option Ref) = some ref) : ref < ([] : List Order).length := by
  cases found

def new : Memory := ⟨[], fun _ => none, fun _ => none, new_valid⟩

def bookForInstrument (memory : Memory) (id : InstrumentId) : SharedBook :=
  (memory.books id).getD .new

def setBook (memory : Memory) (id : InstrumentId) (book : SharedBook) : Memory :=
  { memory with books := fun other => if other = id then some book else memory.books other }

theorem modify_valid (memory : Memory) (ref : Ref) (change : Order → Order) (id : OrderId) (other : Ref)
    (found : memory.orders id = some other) : other < (memory.objects.modify ref change).length := by
  rw [List.length_modify]
  exact memory.valid id other found

def modify (memory : Memory) (ref : Ref) (change : Order → Order) : Memory :=
  { memory with
    objects := memory.objects.modify ref change, valid := memory.modify_valid ref change }

theorem allocate_valid (memory : Memory) (order : Order) (id : OrderId) (ref : Ref)
    (found : (if id = order.id then some memory.objects.length else memory.orders id) = some ref) :
    ref < (memory.objects ++ [order]).length := by
  rw [List.length_append, List.length_singleton]
  split at found
  · obtain rfl := Option.some.inj found
    exact Nat.lt_succ_self _
  · exact Nat.lt_succ_of_lt (memory.valid id ref found)

def allocate (memory : Memory) (order : Order) : Memory where
  objects := memory.objects ++ [order]
  orders := fun id => if id = order.id then some memory.objects.length else memory.orders id
  books := memory.books
  valid := memory.allocate_valid order

/-- `Add` of an object to the book of its instrument; an error is ignored. -/
def rest (memory : Memory) (ref : Ref) (order : Order) : Memory :=
  let book := memory.bookForInstrument order.instrumentId
  memory.setBook order.instrumentId (match book.add ref order with
    | .ok added => added
    | .error _ => book)

def cancelOrder (memory : Memory) (id : OrderId) : Memory × Except TradingError Unit :=
  match memory.orders id with
  | none => (memory, .error .orderNotFound)
  | some ref =>
    match memory.objects[ref]? with
    | none => (memory, .error .orderNotFound)
    | some order =>
      if order.isOpen then
        let book := memory.bookForInstrument order.instrumentId
        match book.cancel memory.objects id with
        | .error cause =>
          (memory.setBook order.instrumentId book,
            .error (.wrapped "cancel from book" cause))
        | .ok removed =>
          ((memory.setBook order.instrumentId removed).modify ref (Order.setStatus .cancelled), .ok ())
      else (memory, .error .orderNotOpen)

end Memory

structure SharedMatch where
  memory : Memory
  tradeId : Nat
  trades : List Trade
  filledMakers : List Ref

namespace SharedMatch

/-- A maker that is filled leaves the book, if `Cancel` does not fail. -/
def dropMaker (memory : Memory) (instrument : InstrumentId) (id : OrderId) : Memory :=
  match (memory.bookForInstrument instrument).cancel memory.objects id with
  | .ok book => memory.setBook instrument book
  | .error _ => memory

def serveMaker (memory : Memory) (instrument : InstrumentId) (makerRef : Ref) (maker : Order) (fillQty : Int) : Memory :=
  let counted := memory.modify makerRef (Order.addFilled fillQty)
  if maker.quantityUnits ≤ maker.filledUnits + fillQty then
    (dropMaker counted instrument maker.id).modify makerRef (Order.setStatus .filled)
  else counted.modify makerRef (Order.setStatus .partlyFilled)

def trade (state : SharedMatch) (takerRef makerRef : Ref) (taker maker : Order) : SharedMatch :=
  let fillQty := min64 taker.remainingUnits maker.remainingUnits
  { memory :=
      (serveMaker state.memory taker.instrumentId makerRef maker fillQty).modify takerRef (Order.fill fillQty)
    tradeId := state.tradeId + 1
    trades := state.trades ++
      [⟨"trade-" ++ toString (state.tradeId + 1), taker.instrumentId, maker.id, taker.id, maker.limitPriceMinorUnits, fillQty⟩]
    filledMakers := state.filledMakers ++ [makerRef] }

def turn (takerRef : Ref) (state : SharedMatch) : Option SharedMatch :=
  match state.memory.objects[takerRef]? with
  | none => none
  | some taker =>
    if taker.remainingUnits > 0 then
      match (state.memory.bookForInstrument taker.instrumentId).bestMatchingLevel taker with
      | none => none
      | some makerRef =>
        (state.memory.objects[makerRef]?).map fun maker =>
          state.trade takerRef makerRef taker maker
    else none

/-- What follows the match: an order that is not filled rests in the book. -/
def restTaker (takerRef : Ref) (state : SharedMatch) : SharedMatch :=
  match state.memory.objects[takerRef]? with
  | none => state
  | some taker =>
    if taker.status ≠ .filled then { state with memory := state.memory.rest takerRef taker }
    else state

end SharedMatch

/-- The critical section of `PlaceOrder`, if the loop of `Match` ends within a number of
turns. The map is read by nobody meanwhile, so the order is entered into it at once. -/
def Memory.place (turns : Nat) (memory : Memory) (tradeId : Nat) (order : Order) : Option SharedMatch :=
  let ref := memory.objects.length
  let entered := (memory.allocate order).setBook order.instrumentId (memory.bookForInstrument order.instrumentId)
  (runLoop (SharedMatch.turn ref) turns ⟨entered, tradeId, [], []⟩).map (SharedMatch.restTaker ref)

end Blazil.Trading
