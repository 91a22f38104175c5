import Blazil.Foundation.PriorityLevels
import Blazil.Trading.PriceTime

/-! The order book of one instrument (`services/trading/internal/orderbook/book.go`) and the
matching engine (`matching/fifo.go`). A match changes the orders it fills, the book from which it
removes them and the counter that numbers the trades.

A book represents the open orders of its instrument: each side is a queue with price priority of
the orders that rest there, in the order in which they were placed. -/

set_option autoImplicit false

namespace Blazil.Trading

open Foundation

variable {orders : List Order} {instrument : InstrumentId} {change : Order → Order} {id : OrderId}

abbrev PriceLevel := Level Int OrderId

structure LevelSnapshot where
  priceMinorUnits : Int
  totalUnits : Int64
  orderCount : Nat
deriving DecidableEq

structure Book where
  instrumentId : InstrumentId
  bids : List PriceLevel
  asks : List PriceLevel
  orderIndex : OrderId → Bool

def addToLevels (levels : List PriceLevel) (order : Order) (descending : Bool) : List PriceLevel :=
  let price := order.limitPriceMinorUnits
  Level.insertItem (fun other => if descending then other ≤ price else price ≤ other) price order.id
    levels

def removeFromLevels (levels : List PriceLevel) (order : Order) : List PriceLevel :=
  Level.removeItem order.limitPriceMinorUnits order.id levels

/-- The sum is of machine integers and may wrap; nothing but a display reads it. -/
def totalRemaining (orders : List Order) (level : PriceLevel) : Int64 :=
  (level.items.filterMap (lookup orders)).foldl (fun total order => total + Int64.ofInt order.remainingUnits) 0

def snapshotLevels (orders : List Order) (levels : List PriceLevel) : List LevelSnapshot :=
  levels.map fun level => ⟨level.key, totalRemaining orders level, level.items.length⟩

def ordersAtPrice (levels : List PriceLevel) (priceMinorUnits : Int) : List OrderId :=
  ((levels.find? fun level => level.key = priceMinorUnits).map fun level => level.items).getD []

namespace Book

def new (id : InstrumentId) : Book := ⟨id, [], [], fun _ => false⟩

def levels (book : Book) : Side → List PriceLevel
  | .buy => book.bids
  | .sell => book.asks

def setLevels (book : Book) (side : Side) (levels : List PriceLevel) : Book :=
  match side with
  | .buy => { book with bids := levels }
  | .sell => { book with asks := levels }

def setIndex (book : Book) (id : OrderId) (present : Bool) : Book :=
  { book with
    orderIndex := fun other => if other = id then present else book.orderIndex other }

def add (book : Book) (order : Order) : Except TradingError Book :=
  if book.orderIndex order.id then .error .orderAlreadyExists
  else
    let indexed := book.setIndex order.id true
    match order.side with
    | .buy => .ok (indexed.setLevels .buy (addToLevels indexed.bids order true))
    | .sell => .ok (indexed.setLevels .sell (addToLevels indexed.asks order false))

/-- The index holds pointers, so what is removed is the order as it is now. -/
def cancel (book : Book) (orders : List Order) (id : OrderId) : Except TradingError Book :=
  if book.orderIndex id then
    match lookup orders id with
    | none => .error .orderNotFound
    | some order =>
      if order.isOpen then
        let removed := book.setLevels order.side (removeFromLevels (book.levels order.side) order)
        .ok (removed.setIndex id false)
      else .error .orderNotOpen
  else .error .orderNotFound

def best (book : Book) (side : Side) : Option Int :=
  (book.levels side).head?.map fun level => level.key

def bestBid (book : Book) : Option Int := book.best .buy

def bestAsk (book : Book) : Option Int := book.best .sell

def bidLevels (book : Book) (orders : List Order) : List LevelSnapshot :=
  snapshotLevels orders book.bids

def askLevels (book : Book) (orders : List Order) : List LevelSnapshot :=
  snapshotLevels orders book.asks

def ordersAtBidPrice (book : Book) (priceMinorUnits : Int) : List OrderId :=
  ordersAtPrice book.bids priceMinorUnits

def ordersAtAskPrice (book : Book) (priceMinorUnits : Int) : List OrderId :=
  ordersAtPrice book.asks priceMinorUnits

def Holds (book : Book) (id : OrderId) : Prop :=
  ∃ side, ∃ level ∈ book.levels side, id ∈ level.items

end Book

structure MatchState where
  orders : List Order
  book : Book
  tradeId : Nat
  trades : List Trade
  filledMakers : List OrderId

def min64 (first second : Int) : Int := if first < second then first else second

/-- The oldest order at a price that is among the snapshots of the levels. -/
def firstOrderAtLevel (snapshots : List LevelSnapshot) (ordersAt : Int → List OrderId) (price : Int) : Option OrderId :=
  snapshots.findSome? fun snapshot =>
    if snapshot.priceMinorUnits = price then (ordersAt price).head? else none

def firstOrderAtAskLevel (orders : List Order) (book : Book) (price : Int) : Option OrderId :=
  firstOrderAtLevel (book.askLevels orders) book.ordersAtAskPrice price

def firstOrderAtBidLevel (orders : List Order) (book : Book) (price : Int) : Option OrderId :=
  firstOrderAtLevel (book.bidLevels orders) book.ordersAtBidPrice price

def bestMatchingLevel (orders : List Order) (book : Book) (taker : Order) : Option OrderId :=
  match taker.side with
  | .buy =>
    match book.bestAsk with
    | none => none
    | some bestAsk =>
      if bestAsk > taker.limitPriceMinorUnits then none
      else firstOrderAtAskLevel orders book bestAsk
  | .sell =>
    match book.bestBid with
    | none => none
    | some bestBid =>
      if bestBid < taker.limitPriceMinorUnits then none
      else firstOrderAtBidLevel orders book bestBid

namespace MatchState

/-- One trade. A maker that is filled leaves the book while its status still says that it
is open; the error of `Cancel` is ignored. -/
def trade (state : MatchState) (taker maker : Order) : MatchState :=
  let fillQty := min64 taker.remainingUnits maker.remainingUnits
  let counted := update maker.id (Order.addFilled fillQty) state.orders
  let isFilled := maker.quantityUnits ≤ maker.filledUnits + fillQty
  { orders :=
      update taker.id (Order.fill fillQty)
        (update maker.id (Order.setStatus (if isFilled then .filled else .partlyFilled)) counted)
    book :=
      if isFilled then
        match state.book.cancel counted maker.id with
        | .ok book => book
        | .error _ => state.book
      else state.book
    tradeId := state.tradeId + 1
    trades := state.trades ++
      [⟨"trade-" ++ toString (state.tradeId + 1), taker.instrumentId, maker.id, taker.id, maker.limitPriceMinorUnits, fillQty⟩]
    filledMakers := state.filledMakers ++ [maker.id] }

def turn (takerId : OrderId) (state : MatchState) : Option MatchState :=
  match lookup state.orders takerId with
  | none => none
  | some taker =>
    if taker.remainingUnits > 0 then
      match (bestMatchingLevel state.orders state.book taker).bind (lookup state.orders) with
      | none => none
      | some maker => some (state.trade taker maker)
    else none

end MatchState

/-- `FIFOEngine.Match`, if its loop ends within a number of turns. -/
def fifoMatch (turns : Nat) (orders : List Order) (book : Book) (tradeId : Nat) (takerId : OrderId) : Option MatchState :=
  runLoop (MatchState.turn takerId) turns ⟨orders, book, tradeId, [], []⟩

instance (side : Side) : IsStrictTotalOrder Int side.before :=
  match side with
  | .buy => inferInstanceAs (IsStrictTotalOrder Int (· > ·))
  | .sell => inferInstanceAs (IsStrictTotalOrder Int (· < ·))

def Order.restsAt (order : Order) (instrument : InstrumentId) (side : Side) : Bool :=
  order.isOpen && order.instrumentId = instrument && order.side = side

def restingEntries (orders : List Order) (instrument : InstrumentId) (side : Side) : List (Int × OrderId) :=
  (orders.filter fun order => order.restsAt instrument side).map fun order =>
    (order.limitPriceMinorUnits, order.id)

structure Book.Represents (book : Book) (orders : List Order) (instrument : InstrumentId) : Prop where
  levels : ∀ side, Level.Denotes side.before (restingEntries orders instrument side) (book.levels side)
  index : ∀ id, book.orderIndex id = true ↔
    ∃ order ∈ orders, order.id = id ∧ order.isOpen = true ∧ order.instrumentId = instrument

section Entries

variable {side : Side} {order : Order}

theorem mem_restingEntries {entry} : entry ∈ restingEntries orders instrument side ↔
      ∃ order ∈ orders, order.restsAt instrument side = true ∧ (order.limitPriceMinorUnits, order.id) = entry := by
  simp only [restingEntries, List.mem_map, List.mem_filter, and_assoc]

theorem restingEntries_nodup (distinct : (orders.map Order.id).Nodup) :
    ((restingEntries orders instrument side).map fun entry => entry.2).Nodup := by
  unfold restingEntries
  rw [List.map_map]
  exact distinct.sublist (List.Sublist.map _ List.filter_sublist)

theorem restingEntries_append : restingEntries (orders ++ [order]) instrument side = restingEntries orders instrument side ++
      if order.restsAt instrument side then [(order.limitPriceMinorUnits, order.id)] else [] := by
  unfold restingEntries
  by_cases rests : order.restsAt instrument side = true <;> simp [rests]

theorem restingEntries_update_same (terms : ∀ order, (change order).terms = order.terms)
    (stays : ∀ order ∈ orders, order.id = id → (change order).isOpen = order.isOpen) :
    restingEntries (update id change orders) instrument side = restingEntries orders instrument side := by
  induction orders with
  | nil => rfl
  | cons order _ ih =>
    have rest := ih fun other member => stays other (List.mem_cons_of_mem _ member)
    have same : ∀ own : order.id = id, (change order).restsAt instrument side = order.restsAt instrument side ∧
          (change order).limitPriceMinorUnits = order.limitPriceMinorUnits ∧ (change order).id = order.id := by
      intro own
      have changed := terms order
      simp only [Order.terms, Order.mk.injEq] at changed
      simp only [Order.restsAt, stays order List.mem_cons_self own, changed, and_self]
    unfold restingEntries update at rest ⊢
    by_cases own : order.id = id
    · simp only [List.map_cons, if_pos own, List.filter_cons, (same own).1]
      split
      · rw [List.map_cons, List.map_cons, rest, (same own).2.1, (same own).2.2]
      · exact rest
    · simp only [List.map_cons, if_neg own, List.filter_cons]
      split
      · rw [List.map_cons, List.map_cons, rest]
      · exact rest

theorem restingEntries_update_closed (closed : ∀ order ∈ orders, order.id = id → (change order).isOpen = false) :
    restingEntries (update id change orders) instrument side =
      (restingEntries orders instrument side).filter fun entry => entry.2 ≠ id := by
  induction orders with
  | nil => rfl
  | cons order _ ih =>
    have rest := ih fun other member => closed other (List.mem_cons_of_mem _ member)
    unfold restingEntries update at rest ⊢
    by_cases own : order.id = id
    · have gone : (change order).restsAt instrument side = false := by
        simp [Order.restsAt, closed order List.mem_cons_self own]
      simp only [List.map_cons, if_pos own, List.filter_cons, gone]
      rw [if_neg Bool.false_ne_true, rest]
      split
      · simp [own]
      · rfl
    · simp only [List.map_cons, if_neg own, List.filter_cons]
      split
      · simp [own, rest]
      · exact rest

end Entries

namespace Book

@[simp] theorem levels_setIndex (book : Book) (id : OrderId) (present : Bool) (side : Side) :
    (book.setIndex id present).levels side = book.levels side := by
  cases side <;> rfl

@[simp] theorem orderIndex_setLevels (book : Book) (side : Side) (levels : List PriceLevel) :
    (book.setLevels side levels).orderIndex = book.orderIndex := by
  cases side <;> rfl

theorem levels_setLevels (book : Book) (changed side : Side) (levels : List PriceLevel) :
    (book.setLevels changed levels).levels side = if side = changed then levels else book.levels side := by
  cases changed <;> cases side <;> rfl

theorem reached_iff (side : Side) (price other : Int) :
    (if decide (side = .buy) then decide (other ≤ price) else decide (price ≤ other)) = true ↔
      ¬side.before other price := by
  cases side <;> simp [Side.before]

variable {book : Book} {order : Order} {entries : Side → List (Int × OrderId)}

theorem add_eq (unknown : book.orderIndex order.id = false) : book.add order =
    .ok ((book.setIndex order.id true).setLevels order.side
      (addToLevels (book.levels order.side) order (order.side = .buy))) := by
  unfold Book.add
  cases side : order.side <;> simp [unknown, Book.levels, Book.setIndex]

section

variable (denotes : ∀ side, Level.Denotes side.before (entries side) (book.levels side)) (side : Side)
include denotes

theorem denotes_add : Level.Denotes side.before
    (entries side ++ if order.side = side then [(order.limitPriceMinorUnits, order.id)] else [])
    (((book.setIndex order.id true).setLevels order.side
      (addToLevels (book.levels order.side) order (order.side = .buy))).levels side) := by
  rw [levels_setLevels]
  by_cases same : order.side = side
  · subst same
    rw [if_pos rfl, if_pos rfl]
    exact (denotes _).insertItem (reached_iff _ _) _
  · rw [if_neg same, if_neg (Ne.symm same), List.append_nil, levels_setIndex]
    exact denotes side

theorem denotes_cancel (entered : (order.limitPriceMinorUnits, order.id) ∈ entries order.side)
    (once : ((entries side).map fun entry => entry.2).Nodup)
    (elsewhere : order.side ≠ side → ∀ entry ∈ entries side, entry.2 ≠ order.id) :
    Level.Denotes side.before ((entries side).filter fun entry => entry.2 ≠ order.id)
      (((book.setLevels order.side (removeFromLevels (book.levels order.side) order)).setIndex order.id false).levels side) := by
  rw [levels_setIndex, levels_setLevels]
  by_cases same : order.side = side
  · subst same
    rw [if_pos rfl]
    exact (denotes _).removeItem entered once
  · rw [if_neg (Ne.symm same), List.filter_eq_self.mpr]
    · exact denotes side
    · intro entry member
      exact decide_eq_true (elsewhere same entry member)

end

theorem represents_new (instrument : InstrumentId) : (Book.new instrument).Represents [] instrument where
  levels side := by cases side <;> exact Level.denotes_nil
  index id := by simp [Book.new]

namespace Represents

variable {book : Book} {order : Order}

theorem holds_iff (represents : book.Represents orders instrument) : book.Holds id ↔
      ∃ order ∈ orders, order.id = id ∧ order.isOpen = true ∧ order.instrumentId = instrument := by
  have queued : ∀ side, (∃ level ∈ book.levels side, id ∈ level.items) ↔
      ∃ order ∈ orders, order.restsAt instrument side = true ∧ order.id = id := by
    intro side
    rw [(represents.levels side).mem_iff]
    simp only [mem_restingEntries, Prod.mk.injEq]
    constructor
    · intro entered
      obtain ⟨_, order, member, rests, _, same⟩ := entered
      exact ⟨order, member, rests, same⟩
    · intro entered
      obtain ⟨order, member, rests, same⟩ := entered
      exact ⟨_, order, member, rests, rfl, same⟩
  unfold Book.Holds
  simp only [queued, Order.restsAt, Bool.and_eq_true, decide_eq_true_eq]
  constructor
  · intro held
    obtain ⟨_, order, member, rests, same⟩ := held
    exact ⟨order, member, same, rests.1⟩
  · intro held
    obtain ⟨order, member, same, rests⟩ := held
    exact ⟨order.side, order, member, ⟨rests, rfl⟩, same⟩

section

variable (represents : book.Represents orders instrument)
include represents

theorem add (resting : order.isOpen = true) (own : order.instrumentId = instrument)
    (fresh : ∀ other ∈ orders, other.id ≠ order.id) :
    ∃ added, book.add order = .ok added ∧ added.Represents (orders ++ [order]) instrument := by
  have unknown : book.orderIndex order.id = false := by
    cases known : book.orderIndex order.id with
    | false => rfl
    | true =>
      obtain ⟨other, member, same, _⟩ := (represents.index _).mp known
      exact absurd same (fresh other member)
  refine ⟨_, add_eq unknown, ?_, ?_⟩
  · intro side
    have added := @denotes_add book order _ represents.levels side
    rw [restingEntries_append]
    simpa [Order.restsAt, resting, own] using added
  · intro id
    simp only [orderIndex_setLevels, setIndex, List.mem_append, List.mem_singleton]
    split
    · next same =>
      simp only [true_iff]
      exact ⟨order, .inr rfl, same.symm, resting, own⟩
    · next other =>
      rw [represents.index]
      constructor
      · intro earlier
        obtain ⟨found, member, spec⟩ := earlier
        exact ⟨found, .inl member, spec⟩
      · intro earlier
        obtain ⟨found, member | rfl, spec⟩ := earlier
        · exact ⟨found, member, spec⟩
        · exact absurd spec.1.symm other

theorem update_same (terms : ∀ order, (change order).terms = order.terms)
    (stays : ∀ order ∈ orders, order.id = id → (change order).isOpen = order.isOpen) :
    book.Represents (update id change orders) instrument where
  levels side := by
    rw [restingEntries_update_same terms stays]
    exact represents.levels side
  index other := by
    have shown : ∀ order ∈ orders, (if order.id = id then change order else order).id = order.id ∧
          (if order.id = id then change order else order).isOpen = order.isOpen ∧
            (if order.id = id then change order else order).instrumentId = order.instrumentId := by
      intro order member
      have changed := terms order
      simp only [Order.terms, Order.mk.injEq] at changed
      split
      · next own => exact ⟨changed.1, stays order member own, changed.2.1⟩
      · exact ⟨rfl, rfl, rfl⟩
    rw [represents.index]
    constructor
    · intro held
      obtain ⟨order, member, spec⟩ := held
      refine ⟨_, mem_update.mpr ⟨order, member, rfl⟩, ?_⟩
      rw [(shown order member).1, (shown order member).2.1, (shown order member).2.2]
      exact spec
    · intro held
      obtain ⟨_, member, spec⟩ := held
      obtain ⟨order, orderMember, rfl⟩ := mem_update.mp member
      rw [(shown order orderMember).1, (shown order orderMember).2.1, (shown order orderMember).2.2] at spec
      exact ⟨order, orderMember, spec⟩

theorem update_closed {later : Book} (closed : ∀ order ∈ orders, order.id = id → (change order).isOpen = false)
    (levels : ∀ side, Level.Denotes side.before ((restingEntries orders instrument side).filter fun entry => entry.2 ≠ id)
      (later.levels side))
    (index : ∀ other, later.orderIndex other = true ↔ other ≠ id ∧ book.orderIndex other = true) :
    later.Represents (update id change orders) instrument where
  levels side := by
    rw [restingEntries_update_closed closed]
    exact levels side
  index other := by
    rw [index, represents.index]
    constructor
    · intro held
      obtain ⟨different, order, member, same, spec⟩ := held
      refine ⟨order, mem_update.mpr ⟨order, member, ?_⟩, same, spec⟩
      rw [if_neg (same ▸ different)]
    · intro held
      obtain ⟨_, member, same, resting, own⟩ := held
      obtain ⟨order, orderMember, rfl⟩ := mem_update.mp member
      split at resting
      · next removed =>
        rw [closed order orderMember removed] at resting
        cases resting
      · next kept =>
        rw [if_neg kept] at same own
        exact ⟨same ▸ kept, order, orderMember, same, resting, own⟩

/-- `Cancel` of an order that rests in the book. The order is found as it is by then, with
its terms and its place in the book unchanged. -/
theorem cancel (distinct : (orders.map Order.id).Nodup) (member : order ∈ orders) (resting : order.isOpen = true)
    (own : order.instrumentId = instrument) {current seen} (found : lookup current order.id = some seen)
    (terms : seen.terms = order.terms) (seenOpen : seen.isOpen = true) (closes : (change order).isOpen = false) :
    ∃ removed, book.cancel current order.id = .ok removed ∧ removed.Represents (update order.id change orders) instrument := by
  have known : book.orderIndex order.id = true :=
    (represents.index _).mpr ⟨order, member, rfl, resting, own⟩
  simp only [Order.terms, Order.mk.injEq] at terms
  obtain ⟨sameId, _, _, sameSide, samePrice, _⟩ := terms
  have cancelled : book.cancel current order.id =
      .ok ((book.setLevels order.side (removeFromLevels (book.levels order.side) order)).setIndex order.id false) := by
    unfold Book.cancel
    simp [known, found, seenOpen, sameSide, removeFromLevels, samePrice, sameId]
  have unique : ∀ other ∈ orders, other.id = order.id → other = order :=
    fun other otherMember same => List.inj_on_of_nodup_map distinct otherMember member same
  refine ⟨_, cancelled, represents.update_closed ?_ ?_ ?_⟩
  · intro other otherMember same
    rw [unique other otherMember same]
    exact closes
  · intro side
    refine denotes_cancel represents.levels side ?_ (restingEntries_nodup distinct) ?_
    · refine mem_restingEntries.mpr ⟨order, member, ?_, rfl⟩
      simp [Order.restsAt, resting, own]
    · rintro other _ entered same
      obtain ⟨found, foundMember, rests, rfl⟩ := mem_restingEntries.mp entered
      rw [unique found foundMember same] at rests
      simp [Order.restsAt, other] at rests
  · intro other
    simp only [setIndex, orderIndex_setLevels]
    split
    · next same => simp [same]
    · next different => simp [different]

theorem of_filter_eq {later} (same : later.filter (fun order => order.instrumentId = instrument) =
      orders.filter fun order => order.instrumentId = instrument) : book.Represents later instrument := by
  have entries : ∀ list : List Order, ∀ side, restingEntries list instrument side =
      restingEntries (list.filter fun order => order.instrumentId = instrument) instrument
        side := by
    intro list side
    unfold restingEntries
    rw [List.filter_filter]
    congr 2
    funext order
    by_cases own : order.instrumentId = instrument <;> simp [Order.restsAt, own]
  have members : ∀ list : List Order, ∀ id,
      (∃ order ∈ list, order.id = id ∧ order.isOpen = true ∧ order.instrumentId = instrument) ↔
        ∃ order ∈ list.filter fun order => order.instrumentId = instrument, order.id = id ∧ order.isOpen = true := by
    intro list id
    simp only [List.mem_filter, decide_eq_true_eq, and_assoc]
    constructor
    · intro held
      obtain ⟨order, member, same, resting, own⟩ := held
      exact ⟨order, member, own, same, resting⟩
    · intro held
      obtain ⟨order, member, own, same, resting⟩ := held
      exact ⟨order, member, same, resting, own⟩
  refine ⟨?_, ?_⟩
  · intro side
    rw [entries, same, ← entries]
    exact represents.levels side
  · intro id
    rw [represents.index, members, members, same]

theorem append_closed (closed : order.isOpen = false) : book.Represents (orders ++ [order]) instrument where
  levels side := by
    have absent : ¬order.restsAt instrument side = true := by simp [Order.restsAt, closed]
    rw [restingEntries_append, if_neg absent, List.append_nil]
    exact represents.levels side
  index id := by
    rw [represents.index]
    constructor
    · intro held
      obtain ⟨found, member, spec⟩ := held
      exact ⟨found, List.mem_append_left _ member, spec⟩
    · intro held
      obtain ⟨found, member, same, resting, own⟩ := held
      rcases mem_concat.mp member with earlier | rfl
      · exact ⟨found, earlier, same, resting, own⟩
      · rw [closed] at resting
        cases resting

theorem best {side : Side} {price : Int} (best : book.best side = some price) :
    ∃ order ∈ orders, order.isOpen = true ∧ order.instrumentId = instrument ∧
      order.side = side ∧ order.limitPriceMinorUnits = price := by
  have denotes := represents.levels side
  unfold Book.best at best
  cases levels : book.levels side with
  | nil =>
    rw [levels] at best
    cases best
  | cons level =>
    rw [levels] at best denotes
    simp only [List.head?_cons, Option.map_some, Option.some.injEq] at best
    obtain ⟨id, _, queue⟩ :=
      List.exists_cons_of_ne_nil (denotes.nonempty level List.mem_cons_self)
    have queued : id ∈ level.items := by
      rw [queue]
      exact List.mem_cons_self
    rw [denotes.items level List.mem_cons_self, Level.mem_ofKey] at queued
    obtain ⟨order, member, rests, entry⟩ := mem_restingEntries.mp queued
    simp only [Order.restsAt, Bool.and_eq_true, decide_eq_true_eq] at rests
    simp only [Prod.mk.injEq] at entry
    exact ⟨order, member, rests.1.1, rests.1.2, rests.2, entry.1.trans best⟩

end

end Represents

end Book

def sideEntries (orders : List Order) (side : Side) : List (Int × OrderId) :=
  (orders.filter fun order => order.side = side).map fun order => (order.limitPriceMinorUnits, order.id)

namespace Book

/-- What calls lead to, with the orders in the book as they came. Cancelling one finds its object as it is by then:
fills have changed what they change, a filled maker is cancelled last, and a call that fails leaves the book. -/
inductive Built (instrument : InstrumentId) : Book → List Order → Prop where
  | new : Built instrument (Book.new instrument) []
  | add {book later orders order} :
      Built instrument book orders → book.add order = .ok later → Built instrument later (orders ++ [order])
  | cancel {book later orders current id} : Built instrument book orders →
      (∀ order ∈ orders, (lookup current order.id).map Order.terms = some order.terms) →
      book.cancel current id = .ok later → Built instrument later (orders.filter fun order => order.id ≠ id)

/-- Each level holds the orders of its side and price, oldest first, and the index the ids in the levels. -/
structure WellFormed (book : Book) (orders : List Order) : Prop where
  levels : ∀ side, Level.Denotes side.before (sideEntries orders side) (book.levels side)
  index : ∀ id, book.orderIndex id = true ↔ ∃ order ∈ orders, order.id = id
  distinct : (orders.map Order.id).Nodup

namespace WellFormed

variable {book later : Book} (formed : book.WellFormed orders)
include formed

theorem add {order : Order} (added : book.add order = .ok later) : later.WellFormed (orders ++ [order]) := by
  cases known : book.orderIndex order.id with
  | true => simp [Book.add, known] at added
  | false =>
    rw [Book.add_eq known] at added
    obtain rfl := Except.ok.inj added
    refine ⟨?_, ?_, ?_⟩
    · intro side
      have queued := @denotes_add _ order _ formed.levels side
      simpa [sideEntries, List.filter_cons, apply_ite (List.map _)] using queued
    · intro id
      simp only [orderIndex_setLevels, setIndex, List.mem_append, List.mem_singleton]
      grind [formed.index id]
    · have fresh := mt (formed.index order.id).mpr (Bool.eq_false_iff.mp known)
      rw [List.map_append, List.map_singleton, List.nodup_append_comm]
      exact List.nodup_cons.mpr ⟨fun member => fresh (List.mem_map.mp member), formed.distinct⟩

theorem cancel {current id}
    (terms : ∀ order ∈ orders, (lookup current order.id).map Order.terms = some order.terms)
    (cancelled : book.cancel current id = .ok later) : later.WellFormed (orders.filter fun order => order.id ≠ id) := by
  unfold Book.cancel at cancelled
  split at cancelled
  · next known =>
    obtain ⟨order, member, rfl⟩ := (formed.index id).mp known
    obtain ⟨seen, found, same⟩ := Option.map_eq_some_iff.mp (terms order member)
    simp only [Order.terms, Order.mk.injEq] at same
    rw [found] at cancelled
    simp only at cancelled
    split at cancelled
    · obtain rfl := Except.ok.inj cancelled
      refine ⟨?_, ?_, formed.distinct.sublist (List.Sublist.map _ List.filter_sublist)⟩
      · intro side
        have removed := @denotes_cancel _ seen _ formed.levels side ?_ ?_ ?_
        · simpa [sideEntries, List.filter_map, List.filter_filter, Bool.and_comm, Function.comp_def, same] using removed
        · rw [same.1, same.2.2.2.1, same.2.2.2.2.1]
          exact List.mem_map.mpr ⟨order, List.mem_filter.mpr ⟨member, decide_eq_true rfl⟩, rfl⟩
        · rw [sideEntries, List.map_map]
          exact formed.distinct.sublist (List.Sublist.map _ List.filter_sublist)
        · intro other entry entered own
          obtain ⟨_, found, rfl⟩ := List.mem_map.mp entered
          obtain ⟨restingMember, side⟩ := List.mem_filter.mp found
          rw [List.inj_on_of_nodup_map formed.distinct restingMember member (own.trans same.1)] at side
          exact other (same.2.2.2.1.trans (of_decide_eq_true side))
      · intro id
        simp only [orderIndex_setLevels, setIndex, List.mem_filter, decide_eq_true_eq]
        grind [formed.index id]
    · cases cancelled
  · cases cancelled

end WellFormed

/-- However the calls come, each side of the book is sorted, and the index and the levels name the same orders. -/
theorem built_wellFormed {instrument : InstrumentId} {book : Book} {orders : List Order}
    (built : Built instrument book orders) :
    book.WellFormed orders ∧ ∀ id, book.orderIndex id = true ↔ book.Holds id := by
  have formed : book.WellFormed orders := by
    induction built with
    | new => exact ⟨fun side => by cases side <;> exact Level.denotes_nil, by simp [Book.new], List.nodup_nil⟩
    | add _ added formed => exact formed.add added
    | cancel _ terms cancelled formed => exact formed.cancel terms cancelled
  refine ⟨formed, fun id => ?_⟩
  rw [formed.index]
  simp only [Holds, (formed.levels _).mem_iff, sideEntries]
  simp

def openAsk (id : OrderId) (price : Int) : Order := ⟨id, "ACME", "seller", .sell, price, 10, 0, .opened⟩

theorem twoLevels_wellFormed : ∃ book : Book, book.asks = [⟨90, ["b"]⟩, ⟨100, ["c"]⟩] ∧
    book.WellFormed [openAsk "b" 90, openAsk "c" 100] ∧ book.Holds "c" ∧ ¬ book.Holds "a" := by
  have added := @Built.add "ACME" _ _ _ (openAsk "c" 100)
    (@Built.add "ACME" _ _ _ (openAsk "b" 90) (@Built.add "ACME" _ _ _ (openAsk "a" 100) .new rfl) rfl) rfl
  have built := @Built.cancel "ACME" _ _ _ [openAsk "a" 100, openAsk "b" 90, openAsk "c" 100] "a" added (by decide) rfl
  obtain ⟨formed, index⟩ := built_wellFormed built
  exact ⟨_, rfl, formed, (index "c").mp rfl, mt (index "a").mpr nofun⟩

end Book

end Blazil.Trading
