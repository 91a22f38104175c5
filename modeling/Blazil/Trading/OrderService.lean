import Blazil.Foundation.Transition
import Blazil.Trading.MatchingProperties

/-! Placing and cancelling of orders (`services/trading/internal/orders/service.go`). Both run
under one lock, so a call is one step. What holds of the order service after any calls: its books
represent the open orders, no book is crossed, and the filled units of every order are those of the
trades that were returned. -/

set_option autoImplicit false

namespace Blazil.Trading

open Foundation

structure PlaceOrderRequest where
  id : OrderId
  instrumentId : InstrumentId
  ownerId : String
  side : Int
  limitPriceMinorUnits : Int
  quantityUnits : Int
deriving DecidableEq

def PlaceOrderRequest.order (request : PlaceOrderRequest) (side : Side) : Order where
  id := request.id
  instrumentId := request.instrumentId
  ownerId := request.ownerId
  side := side
  limitPriceMinorUnits := request.limitPriceMinorUnits
  quantityUnits := request.quantityUnits
  filledUnits := 0
  status := .opened

structure OrderService where
  orders : List Order
  books : InstrumentId → Option Book
  tradeId : Nat

namespace OrderService

def new : OrderService := ⟨[], fun _ => none, 0⟩

def bookForInstrument (service : OrderService) (id : InstrumentId) : Book :=
  (service.books id).getD (.new id)

@[simps]
def setBook (service : OrderService) (id : InstrumentId) (book : Book) : OrderService :=
  { service with
    books := fun other => if other = id then some book else service.books other }

def matched (service : OrderService) (id : InstrumentId) (result : MatchState) : OrderService :=
  { orders := result.orders
    books := fun other => if other = id then some result.book else service.books other
    tradeId := result.tradeId }

def rest (service : OrderService) (order : Order) (result : MatchState) :
    OrderService × Except TradingError (Order × List Trade) :=
  let after := service.matched order.instrumentId result
  match lookup result.orders order.id with
  | none => (after, .error .orderNotFound)
  | some order =>
    if order.status ≠ .filled then
      match result.book.add order with
      | .error cause => (after, .error (.wrapped "add to book" cause))
      | .ok book => (after.setBook order.instrumentId book, .ok (order, result.trades))
    else (after, .ok (order, result.trades))

def placeOrder (turns : Nat) (service : OrderService) (request : PlaceOrderRequest) :
    Option (OrderService × Except TradingError (Order × List Trade)) :=
  if request.quantityUnits ≤ 0 then some (service, .error .invalidQuantity)
  else if request.limitPriceMinorUnits ≤ 0 then some (service, .error .invalidPrice)
  else
    match Side.ofCode request.side with
    | none => some (service, .error .unknownSide)
    | some side =>
      if (lookup service.orders request.id).isSome then
        some (service, .error .orderAlreadyExists)
      else
        let order := request.order side
        (fifoMatch turns (service.orders ++ [order])
          (service.bookForInstrument request.instrumentId) service.tradeId order.id).map (service.rest order)

def cancelOrder (service : OrderService) (id : OrderId) : OrderService × Except TradingError Unit :=
  match lookup service.orders id with
  | none => (service, .error .orderNotFound)
  | some order =>
    if order.isOpen then
      let book := service.bookForInstrument order.instrumentId
      match book.cancel service.orders id with
      | .error cause =>
        (service.setBook order.instrumentId book,
          .error (.wrapped "cancel from book" cause))
      | .ok removed =>
        ({ service.setBook order.instrumentId removed with
            orders := update id (Order.setStatus .cancelled) service.orders }, .ok ())
    else (service, .error .orderNotOpen)

end OrderService

/-- The service together with every trade that its calls have returned. -/
structure Exchange where
  service : OrderService
  returned : List Trade

inductive ExchangeLabel where
  | placeOrder (request : PlaceOrderRequest) (turns : Nat)
  | cancelOrder (id : OrderId)
deriving DecidableEq

namespace Exchange

def started : Exchange := ⟨.new, []⟩

def returnedTrades : Except TradingError (Order × List Trade) → List Trade
  | .error _ => []
  | .ok (_, trades) => trades

def step (exchange : Exchange) : ExchangeLabel → Option Exchange
  | .placeOrder request turns =>
    (exchange.service.placeOrder turns request).map fun outcome =>
      ⟨outcome.1, exchange.returned ++ returnedTrades outcome.2⟩
  | .cancelOrder id => some ⟨(exchange.service.cancelOrder id).1, exchange.returned⟩

def system : System Exchange ExchangeLabel := ⟨step⟩

end Exchange

structure OrderService.WellFormed (service : OrderService) : Prop where
  distinct : (service.orders.map Order.id).Nodup
  sound : ∀ order ∈ service.orders, order.Sound
  books : ∀ instrument, (service.bookForInstrument instrument).Represents service.orders instrument
  uncrossed : Uncrossed service.orders

structure Exchange.Consistent (exchange : Exchange) : Prop where
  service : exchange.service.WellFormed
  traded : ∀ order ∈ exchange.service.orders, order.filledUnits = tradedUnits exchange.returned order.id
  named : ∀ trade ∈ exchange.returned, trade.makerOrderId ∈ exchange.service.orders.map Order.id ∧
      trade.takerOrderId ∈ exchange.service.orders.map Order.id

theorem tradedUnits_eq_zero {trades id}
    (unnamed : ∀ trade ∈ trades, trade.makerOrderId ≠ id ∧ trade.takerOrderId ≠ id) : tradedUnits trades id = 0 := by
  induction trades with
  | nil => rfl
  | cons _ _ ih =>
    obtain ⟨⟨maker, taker⟩, later⟩ := List.forall_mem_cons.mp unnamed
    have rest := ih later
    unfold tradedUnits at rest ⊢
    simp [maker, taker, rest]

variable {outcome : OrderService × Except TradingError (Order × List Trade)}

namespace OrderService

variable {service : OrderService}

theorem wellFormed_new : OrderService.new.WellFormed where
  distinct := List.nodup_nil
  sound := by simp [OrderService.new]
  books instrument := Book.represents_new instrument
  uncrossed := by simp [Uncrossed, OrderService.new]

theorem bookForInstrument_setBook (changed instrument : InstrumentId) (book : Book) :
    (service.setBook changed book).bookForInstrument instrument =
      if instrument = changed then book else service.bookForInstrument instrument := by
  unfold bookForInstrument
  rw [setBook_books]
  split <;> rfl

theorem bookForInstrument_matched (changed instrument : InstrumentId) (result : MatchState) :
    (service.matched changed result).bookForInstrument instrument =
      if instrument = changed then result.book else service.bookForInstrument instrument := by
  unfold bookForInstrument matched
  dsimp only
  split <;> rfl

section Place

variable {request : PlaceOrderRequest} {side : Side} {turns : Nat}

theorem placeOrder_cases (placed : service.placeOrder turns request = some outcome) :
    (∃ cause, outcome = (service, .error cause)) ∨
      ∃ side result, 0 < request.quantityUnits ∧ lookup service.orders request.id = none ∧
        fifoMatch turns (service.orders ++ [request.order side])
          (service.bookForInstrument request.instrumentId) service.tradeId request.id = some result ∧
        outcome = service.rest (request.order side) result := by
  unfold placeOrder at placed
  split at placed
  · exact .inl ⟨_, (Option.some.inj placed).symm⟩
  · next positive =>
    split at placed
    · exact .inl ⟨_, (Option.some.inj placed).symm⟩
    · cases code : Side.ofCode request.side with rw [code] at placed
      | none =>
        exact .inl ⟨_, (Option.some.inj placed).symm⟩
      | some side =>
        dsimp only at placed
        split at placed
        · exact .inl ⟨_, (Option.some.inj placed).symm⟩
        · next unknown =>
          obtain ⟨result, matched, rested⟩ := Option.map_eq_some_iff.mp placed
          refine .inr ⟨side, result, Int.not_le.mp positive, ?_, matched, rested.symm⟩
          simpa using unknown

section

variable (wellFormed : service.WellFormed) (fresh : lookup service.orders request.id = none)
include wellFormed fresh

theorem WellFormed.matching : Matching service.orders (request.order side)
      ⟨service.orders ++ [request.order side], service.bookForInstrument request.instrumentId, service.tradeId, [], []⟩ where
  orders := rfl
  book := wellFormed.books request.instrumentId
  distinct := wellFormed.distinct
  fresh := lookup_eq_none_iff.mp fresh
  sound := wellFormed.sound

theorem WellFormed.fifoMatch_ends (enough : request.quantityUnits.toNat < turns) : ∃ result final finalTaker,
      fifoMatch turns (service.orders ++ [request.order side])
        (service.bookForInstrument request.instrumentId) service.tradeId request.id = some result ∧
      PriceTime service.orders (request.order side) result.trades final finalTaker ∧ Matching final finalTaker result := by
  have remaining : (request.order side).remainingUnits = request.quantityUnits := by
    simp [Order.remainingUnits, PlaceOrderRequest.order]
  have matching : Matching service.orders (request.order side) _ := wellFormed.matching fresh
  obtain ⟨result, left, _, final, finalTaker, traded, rule, matching⟩ :=
    matching.runLoop_ends (by rw [remaining]; exact enough)
  exact ⟨result, final, finalTaker, left, traded ▸ rule, matching⟩

theorem WellFormed.priceTime_of_fifoMatch {result} (matched : fifoMatch turns (service.orders ++ [request.order side])
      (service.bookForInstrument request.instrumentId) service.tradeId request.id = some result) :
    ∃ final finalTaker, PriceTime service.orders (request.order side) result.trades final finalTaker ∧
        Matching final finalTaker result := by
  have enough : request.quantityUnits.toNat < turns + request.quantityUnits.toNat + 1 := by omega
  obtain ⟨other, final, finalTaker, ended, spec⟩ := wellFormed.fifoMatch_ends fresh enough
  have same : other = result := by
    have later := runLoop_mono matched (show turns ≤ turns + request.quantityUnits.toNat + 1 by omega)
    exact Option.some.inj (ended.symm.trans later)
  subst same
  exact ⟨final, finalTaker, spec⟩

end

variable {result : MatchState} {final : List Order} {finalTaker : Order}

theorem WellFormed.after_match (wellFormed : service.WellFormed) {order : Order} (orderSound : order.Sound)
    (rule : PriceTime service.orders order result.trades final finalTaker)
    (matching : Matching final finalTaker result) {after : OrderService} {book : Book} (orders : after.orders = result.orders)
    (books : ∀ instrument, after.bookForInstrument instrument =
      if instrument = order.instrumentId then book else service.bookForInstrument instrument)
    (represents : book.Represents (final ++ [finalTaker]) order.instrumentId) : after.WellFormed := by
  obtain ⟨sound, takerSound⟩ := rule.sound wellFormed.distinct wellFormed.sound orderSound
  rw [matching.orders] at orders
  refine ⟨?_, ?_, ?_, ?_⟩
  · rw [orders, List.map_append, List.map_singleton, List.nodup_append_comm, List.singleton_append, List.nodup_cons]
    refine ⟨?_, matching.distinct⟩
    intro member
    obtain ⟨order, orderMember, same⟩ := List.mem_map.mp member
    exact matching.fresh order orderMember same
  · rw [orders]
    exact holds_after_concat sound takerSound
  · intro instrument
    rw [books, orders]
    split
    · next own =>
      subst own
      exact represents
    · next other =>
      apply (wellFormed.books instrument).of_filter_eq
      rw [List.filter_append, rule.elsewhere wellFormed.distinct (Ne.symm other)]
      simp [rule.taker_instrumentId, Ne.symm other]
  · rw [orders]
    exact rule.uncrossed wellFormed.distinct takerSound wellFormed.uncrossed

theorem WellFormed.rest (wellFormed : service.WellFormed) (positive : 0 < request.quantityUnits)
    (rule : PriceTime service.orders (request.order side) result.trades final finalTaker)
    (matching : Matching final finalTaker result) :
    ∃ after, service.rest (request.order side) result = (after, .ok (finalTaker, result.trades)) ∧
      after.WellFormed ∧ after.orders = final ++ [finalTaker] := by
  have orderSound : (request.order side).Sound :=
    ⟨positive, Int.le_refl _, Int.le_of_lt positive, by simp [PlaceOrderRequest.order, Int.ne_of_lt positive]⟩
  have found : lookup result.orders (request.order side).id = some finalTaker := by
    rw [← rule.ids.2]
    exact matching.lookup_taker
  have instrument := rule.taker_instrumentId
  unfold OrderService.rest
  simp only [found]
  split
  · next unfilled =>
    have resting : finalTaker.isOpen = true := by
      have alive := rule.taker_not_cancelled (by simp [PlaceOrderRequest.order])
      unfold Order.isOpen
      cases status : finalTaker.status with
      | opened | partlyFilled => rfl
      | filled => exact absurd status unfilled
      | cancelled => exact absurd status alive
    obtain ⟨_, added, represents⟩ := matching.book.add resting rfl matching.fresh
    rw [instrument] at represents
    rw [added]
    refine ⟨_, rfl, wellFormed.after_match orderSound rule matching rfl ?_ represents, matching.orders⟩
    intro other
    rw [bookForInstrument_setBook, bookForInstrument_matched, instrument]
    split <;> rfl
  · next filled =>
    have closed : finalTaker.isOpen = false := by
      rw [not_not] at filled
      simp [Order.isOpen, filled]
    have represents := matching.book.append_closed closed
    rw [instrument] at represents
    exact ⟨_, rfl, wellFormed.after_match orderSound rule matching rfl
      (fun other => bookForInstrument_matched _ other _) represents, matching.orders⟩

end Place

section Cancel

variable {id : OrderId}

theorem WellFormed.cancelOrder_cases (wellFormed : service.WellFormed) (id : OrderId) :
    (service.cancelOrder id).1 = service ∨ ∃ order ∈ service.orders, order.id = id ∧ order.isOpen = true ∧
        ∃ removed : Book, removed.Represents (update id (Order.setStatus .cancelled) service.orders) order.instrumentId ∧
          (service.cancelOrder id).1 = { service.setBook order.instrumentId removed with
              orders := update id (Order.setStatus .cancelled) service.orders } := by
  cases found : lookup service.orders id with
  | none =>
    left
    simp [cancelOrder, found]
  | some order =>
    obtain ⟨member, rfl⟩ := mem_of_lookup found
    cases resting : order.isOpen with
    | false =>
      left
      simp [cancelOrder, found, resting]
    | true =>
      right
      have closes : (order.setStatus .cancelled).isOpen = false := by
        simp [Order.isOpen]
      obtain ⟨removed, cancelled, represents⟩ := (wellFormed.books order.instrumentId).cancel
        wellFormed.distinct member resting rfl found rfl resting closes
      refine ⟨order, member, rfl, resting, removed, represents, ?_⟩
      simp [cancelOrder, found, resting, cancelled]

theorem WellFormed.cancelled (wellFormed : service.WellFormed) {order : Order}
    (member : order ∈ service.orders) (resting : order.isOpen = true) {removed : Book}
    (represents : removed.Represents (update order.id (Order.setStatus .cancelled) service.orders) order.instrumentId) :
    ({ service.setBook order.instrumentId removed with
      orders := update order.id (Order.setStatus .cancelled) service.orders } : OrderService).WellFormed := by
  have unique : ∀ other ∈ service.orders, other.id = order.id → other = order :=
    fun other otherMember same =>
      List.inj_on_of_nodup_map wellFormed.distinct otherMember member same
  refine ⟨?_, ?_, ?_, ?_⟩
  · rw [map_id_update (Order.setStatus_id _)]
    exact wellFormed.distinct
  · intro changed changedMember
    obtain ⟨before, beforeMember, rfl⟩ := mem_update.mp changedMember
    have sound := wellFormed.sound before beforeMember
    split
    · next own =>
      have left := sound.remaining_pos (by rw [unique before beforeMember own]; exact resting)
      refine ⟨sound.positive, sound.nonneg, sound.bounded, ?_⟩
      simp only [Order.setStatus_status, Order.setStatus_filledUnits, Order.setStatus_quantityUnits, reduceCtorEq, false_iff]
      unfold Order.remainingUnits at left
      omega
    · exact sound
  · intro instrument
    have book : (service.setBook order.instrumentId removed).bookForInstrument instrument = _ :=
      bookForInstrument_setBook order.instrumentId instrument removed
    unfold bookForInstrument at book ⊢
    rw [book]
    split
    · next own =>
      subst own
      exact represents
    · next other =>
      apply (wellFormed.books instrument).of_filter_eq
      apply filter_update
      intro found foundMember same
      rw [unique found foundMember same]
      simp [Ne.symm other]
  · intro bid bidMember ask askMember bidOpen askOpen
    have kept : ∀ changed ∈ update order.id (Order.setStatus .cancelled) service.orders,
        changed.isOpen = true → changed ∈ service.orders := by
      intro changed changedMember open'
      obtain ⟨_, beforeMember, rfl⟩ := mem_update.mp changedMember
      split at open'
      · simp [Order.isOpen] at open'
      · next other =>
        rw [if_neg other]
        exact beforeMember
    exact wellFormed.uncrossed bid (kept bid bidMember bidOpen) ask (kept ask askMember askOpen) bidOpen askOpen

end Cancel

end OrderService

namespace Exchange

theorem consistent_started : started.Consistent where
  service := OrderService.wellFormed_new
  traded := by simp [started, OrderService.new]
  named := by simp [started]

variable {exchange : Exchange} {turns : Nat} {instrument : InstrumentId}

theorem Consistent.placeOrder (consistent : exchange.Consistent) {request}
    (placed : exchange.service.placeOrder turns request = some outcome) :
    (⟨outcome.1, exchange.returned ++ returnedTrades outcome.2⟩ : Exchange).Consistent := by
  rcases OrderService.placeOrder_cases placed with
    ⟨cause, rfl⟩ | ⟨side, result, positive, fresh, matched, rfl⟩
  · simp only [returnedTrades, List.append_nil]
    exact consistent
  · have wellFormed := consistent.service
    obtain ⟨_, _, rule, matching⟩ := wellFormed.priceTime_of_fifoMatch fresh matched
    obtain ⟨after, rested, afterWellFormed, orders⟩ := wellFormed.rest positive rule matching
    have unknown : (request.order side).id ∉ exchange.service.orders.map Order.id := by
      intro known
      obtain ⟨order, member, same⟩ := List.mem_map.mp known
      exact lookup_eq_none_iff.mp fresh order member same
    have untraded : (request.order side).filledUnits = tradedUnits exchange.returned (request.order side).id := by
      rw [tradedUnits_eq_zero]
      · rfl
      · intro trade member
        obtain ⟨maker, taker⟩ := consistent.named trade member
        exact ⟨fun same => unknown (same ▸ maker), fun same => unknown (same ▸ taker)⟩
    obtain ⟨makersTraded, takerTraded⟩ :=
      rule.tradedUnits_eq wellFormed.distinct unknown consistent.traded untraded
    have ids : after.orders.map Order.id = exchange.service.orders.map Order.id ++ [(request.order side).id] := by
      rw [orders, List.map_append, List.map_singleton, rule.ids.1, rule.ids.2]
    rw [rested]
    refine ⟨afterWellFormed, ?_, ?_⟩
    · rw [orders]
      exact holds_after_concat makersTraded takerTraded
    · simp only [ids, mem_concat]
      refine List.forall_mem_append.mpr ⟨fun trade earlier => ?_, fun trade new => ?_⟩
      · obtain ⟨maker, taker⟩ := consistent.named trade earlier
        exact ⟨.inl maker, .inl taker⟩
      · obtain ⟨maker, taker⟩ := rule.names new
        exact ⟨.inl maker, .inr taker⟩

theorem Consistent.cancelOrder (consistent : exchange.Consistent) (id : OrderId) :
    (⟨(exchange.service.cancelOrder id).1, exchange.returned⟩ : Exchange).Consistent := by
  rcases consistent.service.cancelOrder_cases id with
    same | ⟨order, member, rfl, resting, removed, represents, after⟩
  · rw [same]
    exact consistent
  · rw [after]
    refine ⟨consistent.service.cancelled member resting represents, ?_, ?_⟩
    · intro changed changedMember
      obtain ⟨before, beforeMember, rfl⟩ := mem_update.mp changedMember
      have traded := consistent.traded before beforeMember
      split
      · exact traded
      · exact traded
    · rw [map_id_update (Order.setStatus_id _)]
      exact consistent.named

theorem consistent_of_reachable (reached : system.Reachable started exchange) : exchange.Consistent := by
  apply reached.invariant Exchange.Consistent consistent_started
  intro before label after _ stepped consistent
  cases label with
  | placeOrder =>
    obtain ⟨_, placed, rfl⟩ := Option.map_eq_some_iff.mp stepped
    exact consistent.placeOrder placed
  | cancelOrder id =>
    obtain rfl := Option.some.inj stepped
    exact consistent.cancelOrder id

/-- In every reachable state a match of a new order ends, and its trades are those of
price-time priority. -/
theorem fifoMatch_follows_priceTime (reached : system.Reachable started exchange) (request : PlaceOrderRequest) (side : Side)
    (fresh : lookup exchange.service.orders request.id = none) {turns : Nat} (enough : request.quantityUnits.toNat < turns) :
    ∃ result final taker, fifoMatch turns (exchange.service.orders ++ [request.order side])
        (exchange.service.bookForInstrument request.instrumentId) exchange.service.tradeId request.id = some result ∧
      PriceTime exchange.service.orders (request.order side) result.trades final taker ∧
      result.orders = final ++ [taker] ∧
      total Trade.quantityUnits result.trades = taker.filledUnits - (request.order side).filledUnits ∧
      total Trade.quantityUnits result.trades =
        total Order.filledUnits final - total Order.filledUnits exchange.service.orders := by
  have wellFormed := (consistent_of_reachable reached).service
  obtain ⟨result, final, taker, ended, rule, matching⟩ := wellFormed.fifoMatch_ends fresh enough
  obtain ⟨byTaker, byMakers⟩ := rule.total_trades wellFormed.distinct
  exact ⟨result, final, taker, ended, rule, matching.orders, byTaker, byMakers⟩

def threeAsks : List ExchangeLabel :=
  [.placeOrder ⟨"ask-1", "AAPL", "owner-1", 2, 100, 3⟩ 10,
    .placeOrder ⟨"ask-2", "AAPL", "owner-2", 2, 105, 5⟩ 10,
    .placeOrder ⟨"ask-3", "AAPL", "owner-3", 2, 100, 4⟩ 10]

def sweep : PlaceOrderRequest := ⟨"bid-1", "AAPL", "owner-4", 1, 105, 9⟩

def sweepMatch (exchange : Exchange) : Option MatchState :=
  fifoMatch 10 (exchange.service.orders ++ [sweep.order .buy])
    (exchange.service.bookForInstrument sweep.instrumentId) exchange.service.tradeId sweep.id

theorem sweepMatch_trades : ∃ exchange, system.Reachable started exchange ∧ lookup exchange.service.orders sweep.id = none ∧
    (sweepMatch exchange).map MatchState.trades = some [⟨"trade-1", "AAPL", "ask-1", "bid-1", 100, 3⟩,
        ⟨"trade-2", "AAPL", "ask-3", "bid-1", 100, 4⟩, ⟨"trade-3", "AAPL", "ask-2", "bid-1", 105, 2⟩] :=
  System.exists_reachable_of_run _ _ threeAsks _ (by decide)

theorem sweep_follows_priceTime : ∃ exchange, system.Reachable started exchange ∧ lookup exchange.service.orders sweep.id = none ∧
    ∃ result final taker, sweepMatch exchange = some result ∧
      PriceTime exchange.service.orders (sweep.order .buy) result.trades final taker := by
  obtain ⟨exchange, reached, fresh, _⟩ := sweepMatch_trades
  obtain ⟨result, final, taker, ended, rule, _⟩ :=
    fifoMatch_follows_priceTime reached sweep .buy fresh (show 9 < 10 by decide)
  exact ⟨exchange, reached, fresh, result, final, taker, ended, rule⟩

section

variable (consistent : exchange.Consistent)
include consistent

theorem Consistent.bestBid_lt_bestAsk
    {bid ask : Int} (bestBid : (exchange.service.bookForInstrument instrument).bestBid = some bid)
    (bestAsk : (exchange.service.bookForInstrument instrument).bestAsk = some ask) : bid < ask := by
  have represents := consistent.service.books instrument
  obtain ⟨buyer, buyerMember, buyerOpen, buyerOwn, buyerSide, rfl⟩ := represents.best bestBid
  obtain ⟨seller, sellerMember, sellerOpen, sellerOwn, sellerSide, rfl⟩ := represents.best bestAsk
  exact consistent.service.uncrossed buyer buyerMember seller sellerMember buyerOpen sellerOpen
    buyerSide sellerSide (buyerOwn.trans sellerOwn.symm)

theorem Consistent.holds_iff {id : OrderId} :
    (exchange.service.bookForInstrument instrument).Holds id ↔ ∃ order, lookup exchange.service.orders id = some order ∧
        order.instrumentId = instrument ∧ (order.status = .opened ∨ order.status = .partlyFilled) := by
  rw [(consistent.service.books instrument).holds_iff]
  constructor
  · intro held
    obtain ⟨order, member, rfl, resting, own⟩ := held
    refine ⟨order, lookup_of_mem consistent.service.distinct member, own, ?_⟩
    simpa [Order.isOpen] using resting
  · intro held
    obtain ⟨order, found, own, status⟩ := held
    obtain ⟨member, same⟩ := mem_of_lookup found
    refine ⟨order, member, same, ?_, own⟩
    simpa [Order.isOpen] using status

theorem Consistent.placeOrder_returns (request : PlaceOrderRequest)
    (enough : request.quantityUnits.toNat < turns) : (exchange.service.placeOrder turns request).isSome = true := by
  unfold OrderService.placeOrder
  split
  · rfl
  · split
    · rfl
    · cases Side.ofCode request.side with
      | none => rfl
      | some side =>
        dsimp only
        split
        · rfl
        · next unknown =>
          have fresh : lookup exchange.service.orders request.id = none := by
            simpa using unknown
          obtain ⟨_, _, _, ended, _⟩ :=
            consistent.service.fifoMatch_ends fresh enough
          rw [show (request.order side).id = request.id from rfl, ended]
          rfl

end

/-- After any calls: the books are not crossed and hold just the open orders, the filled
units of an order fit its quantity, its status and the returned trades, and a further
call returns. -/
theorem calls_keep_books_and_fills (reached : system.Reachable started exchange) : (∀ instrument bid ask,
      (exchange.service.bookForInstrument instrument).bestBid = some bid →
      (exchange.service.bookForInstrument instrument).bestAsk = some ask → bid < ask) ∧
    (∀ instrument id, (exchange.service.bookForInstrument instrument).Holds id ↔
      ∃ order, lookup exchange.service.orders id = some order ∧ order.instrumentId = instrument ∧
          (order.status = .opened ∨ order.status = .partlyFilled)) ∧
    (∀ id order, lookup exchange.service.orders id = some order →
      0 ≤ order.filledUnits ∧ order.filledUnits ≤ order.quantityUnits ∧
        (order.status = .filled ↔ order.filledUnits = order.quantityUnits) ∧
          order.filledUnits = tradedUnits exchange.returned id) ∧
    ∀ (request : PlaceOrderRequest) (turns : Nat), request.quantityUnits.toNat < turns →
      (exchange.service.placeOrder turns request).isSome = true := by
  have consistent := consistent_of_reachable reached
  refine ⟨fun _ _ _ bestBid bestAsk => consistent.bestBid_lt_bestAsk bestBid bestAsk, fun _ _ => consistent.holds_iff, ?_,
    fun request _ enough => consistent.placeOrder_returns request enough⟩
  intro id order found
  obtain ⟨member, rfl⟩ := mem_of_lookup found
  have sound := consistent.service.sound order member
  exact ⟨sound.nonneg, sound.bounded, sound.full, consistent.traded order member⟩

/-- Three asks, a bid that takes two of them and part of the third, a bid that rests and
one that is cancelled. -/
def busyDay : List ExchangeLabel :=
  threeAsks ++ [.placeOrder sweep 10, .placeOrder ⟨"bid-2", "AAPL", "owner-4", 1, 90, 6⟩ 10,
    .placeOrder ⟨"bid-3", "AAPL", "owner-1", 1, 95, 2⟩ 10, .cancelOrder "bid-3"]

theorem busyDay_quotes : ∃ exchange, system.Reachable started exchange ∧
    (exchange.service.bookForInstrument "AAPL").bestBid = some 90 ∧
    (exchange.service.bookForInstrument "AAPL").bestAsk = some 105 ∧
    (lookup exchange.service.orders "ask-2").map Order.filledUnits = some 2 :=
  System.exists_reachable_of_run _ _ busyDay _ (by decide +kernel)

theorem busyDay_keeps_books_and_fills : ∃ exchange, system.Reachable started exchange ∧
    (90 : Int) < 105 ∧ 2 = tradedUnits exchange.returned "ask-2" := by
  obtain ⟨exchange, reached, bestBid, bestAsk, filled⟩ := busyDay_quotes
  obtain ⟨uncrossed, _, fills, _⟩ := calls_keep_books_and_fills reached
  obtain ⟨order, found, two⟩ := Option.map_eq_some_iff.mp filled
  refine ⟨exchange, reached, uncrossed _ _ _ bestBid bestAsk, ?_⟩
  rw [← two]
  exact (fills "ask-2" order found).2.2.2

end Exchange

end Blazil.Trading
