import Blazil.Foundation.KeyedTable
import Blazil.Foundation.Transition
import Blazil.Trading.Domain

/-! Positions of owners in instruments (`services/trading/internal/positions/service.go`) and the
settlement of trades (`settlement/settler.go`). Quantities and prices are here the 64-bit numbers
of the source, whose sums and products wrap around. Each trade adds to one owner what it takes from
another, so that the sum stays what it was, up to a wrap around. -/

set_option autoImplicit false

namespace Blazil.Trading

open Foundation

structure Position where
  id : String
  ownerId : String
  instrumentId : InstrumentId
  quantityUnits : Int64 := 0
  averageCostMinorUnits : Int64 := 0
deriving DecidableEq

def weightedAvg (oldAvg oldQty newPrice newQty : Int64) : Int64 :=
  if oldQty + newQty = 0 then 0 else (oldAvg * oldQty + newPrice * newQty) / (oldQty + newQty)

namespace Position

def buy (trade : Trade) (position : Position) : Position :=
  { position with
    averageCostMinorUnits :=
      weightedAvg position.averageCostMinorUnits position.quantityUnits trade.priceMinorUnits.toInt64 trade.quantityUnits.toInt64
    quantityUnits := position.quantityUnits + trade.quantityUnits.toInt64 }

def sell (trade : Trade) (position : Position) : Position :=
  { position with quantityUnits := position.quantityUnits - trade.quantityUnits.toInt64 }

end Position

structure PositionService where
  positions : KeyedTable (String × InstrumentId) Position
  posId : Nat

namespace PositionService

def new : PositionService := ⟨.empty, 0⟩

def getPosition (service : PositionService) (ownerId : String) (instrumentId : InstrumentId) : Option Position :=
  service.positions.get (ownerId, instrumentId)

def getOrCreate (service : PositionService) (ownerId : String) (instrumentId : InstrumentId) : Position :=
  (service.getPosition ownerId instrumentId).getD
    { id := "pos-" ++ toString (service.posId + 1), ownerId, instrumentId }

/-- An assignment to fields of the position that `getOrCreate` returns. -/
def assign (service : PositionService) (ownerId : String) (instrumentId : InstrumentId)
    (changed : Position → Position) : PositionService where
  positions := service.positions.upsert (ownerId, instrumentId) fun _ =>
    changed (service.getOrCreate ownerId instrumentId)
  posId :=
    if (service.getPosition ownerId instrumentId).isNone then service.posId + 1 else service.posId

def applyTrade (service : PositionService) (trade : Trade) (buyerOwnerId sellerOwnerId : String) : PositionService :=
  (service.assign buyerOwnerId trade.instrumentId (Position.buy trade)).assign sellerOwnerId
    trade.instrumentId (Position.sell trade)

end PositionService

/-- A trade with the owners that were found for its orders. -/
structure SettledTrade where
  trade : Trade
  buyerOwnerId : String
  sellerOwnerId : String
deriving DecidableEq

abbrev SettledTrade.price (settled : SettledTrade) : Int64 := settled.trade.priceMinorUnits.toInt64

abbrev SettledTrade.quantity (settled : SettledTrade) : Int64 := settled.trade.quantityUnits.toInt64

namespace PositionService

def step (service : PositionService) (settled : SettledTrade) : Option PositionService :=
  some (service.applyTrade settled.trade settled.buyerOwnerId settled.sellerOwnerId)

def system : System PositionService SettledTrade := ⟨step⟩

end PositionService

/-- The owners of a trade, from its two orders. -/
def resolveOwners (getOrder : OrderId → Except TradingError Order) (trade : Trade) : Except TradingError SettledTrade :=
  match getOrder trade.makerOrderId with
  | .error cause => .error (.wrapped ("settle: get maker order " ++ trade.makerOrderId) cause)
  | .ok makerOrder =>
    match getOrder trade.takerOrderId with
    | .error cause => .error (.wrapped ("settle: get taker order " ++ trade.takerOrderId) cause)
    | .ok takerOrder =>
      if takerOrder.side = .buy then .ok ⟨trade, takerOrder.ownerId, makerOrder.ownerId⟩
      else .ok ⟨trade, makerOrder.ownerId, takerOrder.ownerId⟩

/-- Trades are applied one by one until the owners of one cannot be found. -/
def settle (getOrder : OrderId → Except TradingError Order) (service : PositionService) :
    List Trade → PositionService × Except TradingError Unit
  | [] => (service, .ok ())
  | trade :: rest =>
    match resolveOwners getOrder trade with
    | .error error => (service, .error error)
    | .ok settled =>
      settle getOrder (service.applyTrade trade settled.buyerOwnerId settled.sellerOwnerId) rest

theorem dvd_toInt_add_sub (left right : Int64) : (2 : ℤ) ^ 64 ∣ (left + right).toInt - (left.toInt + right.toInt) := by
  rw [Int64.toInt_add]
  exact Int.dvd_bmod_sub_self

theorem dvd_toInt_sub_sub (left right : Int64) : (2 : ℤ) ^ 64 ∣ (left - right).toInt - (left.toInt - right.toInt) := by
  rw [Int64.toInt_sub]
  exact Int.dvd_bmod_sub_self

namespace PositionService

variable {service : PositionService} {ownerId other : String} {instrumentId another : InstrumentId}
  {changed : Position → Position}

def quantityOf (service : PositionService) (ownerId : String) (instrumentId : InstrumentId) : Int64 :=
  (service.getOrCreate ownerId instrumentId).quantityUnits

theorem getPosition_assign : (service.assign ownerId instrumentId changed).getPosition other another =
    if (other, another) = (ownerId, instrumentId) then some (changed (service.getOrCreate ownerId instrumentId))
    else service.getPosition other another :=
  KeyedTable.get_upsert _ _ _ _

theorem quantityOf_eq (service : PositionService) (ownerId : String) (instrumentId : InstrumentId) :
    service.quantityOf ownerId instrumentId = ((service.getPosition ownerId instrumentId).map Position.quantityUnits).getD 0 := by
  unfold quantityOf getOrCreate
  cases service.getPosition ownerId instrumentId <;> rfl

theorem quantityOf_assign : (service.assign ownerId instrumentId changed).quantityOf other another =
    if (other, another) = (ownerId, instrumentId) then
      (changed (service.getOrCreate ownerId instrumentId)).quantityUnits else service.quantityOf other another := by
  rw [quantityOf_eq, getPosition_assign]
  split
  · rfl
  · rw [quantityOf_eq]

def totalQuantity (service : PositionService) (instrumentId : InstrumentId) : ℤ :=
  service.positions.sum fun key position =>
    if key.2 = instrumentId then position.quantityUnits.toInt else 0

theorem totalQuantity_assign : (service.assign ownerId instrumentId changed).totalQuantity another =
      service.totalQuantity another + if instrumentId = another then
        (changed (service.getOrCreate ownerId instrumentId)).quantityUnits.toInt - (service.quantityOf ownerId instrumentId).toInt
      else 0 := by
  unfold totalQuantity assign
  rw [KeyedTable.sum_upsert, quantityOf_eq]
  unfold getPosition
  split
  · cases service.positions.get (ownerId, instrumentId) <;> simp
  · cases service.positions.get (ownerId, instrumentId) <;> simp

/-- The position service when the buyer has been served, but not yet the seller. -/
def bought (service : PositionService) (settled : SettledTrade) : PositionService :=
  service.assign settled.buyerOwnerId settled.trade.instrumentId (Position.buy settled.trade)

variable {settled : SettledTrade} {next : PositionService}

theorem step_eq (stepped : service.step settled = some next) :
    next = (service.bought settled).assign settled.sellerOwnerId settled.trade.instrumentId (Position.sell settled.trade) :=
  (Option.some.inj stepped).symm

theorem quantityOf_bought : (service.bought settled).quantityOf other another = service.quantityOf other another +
      if (other, another) = (settled.buyerOwnerId, settled.trade.instrumentId) then settled.quantity else 0 := by
  unfold bought
  rw [quantityOf_assign]
  split
  · next same =>
    cases same
    rfl
  · rw [Int64.add_zero]

theorem quantityOf_step (stepped : service.step settled = some next) :
    next.quantityOf other another = (service.bought settled).quantityOf other another -
      if (other, another) = (settled.sellerOwnerId, settled.trade.instrumentId) then settled.quantity else 0 := by
  rw [step_eq stepped, quantityOf_assign]
  split
  · next same =>
    cases same
    rfl
  · rw [Int64.sub_zero]

theorem totalQuantity_step (stepped : service.step settled = some next) :
    next.totalQuantity another = service.totalQuantity another + if settled.trade.instrumentId = another then
        ((service.bought settled).quantityOf settled.buyerOwnerId another).toInt -
            (service.quantityOf settled.buyerOwnerId another).toInt +
          ((next.quantityOf settled.sellerOwnerId another).toInt -
            ((service.bought settled).quantityOf settled.sellerOwnerId another).toInt) else 0 := by
  have gained : (service.bought settled).totalQuantity another = _ := totalQuantity_assign
  have buyer : (service.bought settled).quantityOf settled.buyerOwnerId another = _ :=
    quantityOf_assign
  rw [step_eq stepped, totalQuantity_assign, gained]
  split
  · next same =>
    subst same
    rw [if_pos rfl] at buyer
    rw [buyer, quantityOf_assign, if_pos rfl, add_assoc]
  · rw [add_zero, add_zero]

/-- Neither of the two quantities wraps around. -/
structure Exact (service : PositionService) (settled : SettledTrade) : Prop where
  buyer : ((service.bought settled).quantityOf settled.buyerOwnerId settled.trade.instrumentId).toInt =
    (service.quantityOf settled.buyerOwnerId settled.trade.instrumentId).toInt + settled.quantity.toInt
  seller : ((service.bought settled).quantityOf settled.sellerOwnerId settled.trade.instrumentId - settled.quantity).toInt =
    ((service.bought settled).quantityOf settled.sellerOwnerId settled.trade.instrumentId).toInt - settled.quantity.toInt

theorem dvd_totalQuantity (reached : system.Reachable new service) (instrumentId : InstrumentId) :
    (2 : ℤ) ^ 64 ∣ service.totalQuantity instrumentId := by
  apply reached.invariant fun service => (2 : ℤ) ^ 64 ∣ service.totalQuantity instrumentId
  · exact Int.dvd_zero _
  · intro before settled after _ stepped divides
    rw [totalQuantity_step stepped]
    refine Int.dvd_add divides ?_
    split
    · next same =>
      subst same
      have gained := dvd_toInt_add_sub (before.quantityOf settled.buyerOwnerId settled.trade.instrumentId) settled.quantity
      have lost := dvd_toInt_sub_sub ((before.bought settled).quantityOf settled.sellerOwnerId settled.trade.instrumentId)
        settled.quantity
      rw [quantityOf_step stepped, if_pos rfl, quantityOf_bought, if_pos rfl]
      have both := Int.dvd_add gained lost
      convert both using 1
      ring
    · exact Int.dvd_zero _

theorem totalQuantity_of_exact (reached : system.Reaches Exact new service)
    (instrumentId : InstrumentId) : service.totalQuantity instrumentId = 0 := by
  apply reached.invariant fun service => service.totalQuantity instrumentId = 0
  · rfl
  · intro before settled after exact stepped zero
    rw [totalQuantity_step stepped, zero]
    split
    · next same =>
      subst same
      rw [quantityOf_step stepped, if_pos rfl, exact.buyer, exact.seller]
      ring
    · rfl

/-- The quantities of each instrument add up to zero, and nobody is short. -/
structure Balanced (service : PositionService) : Prop where
  zero : ∀ instrumentId, service.totalQuantity instrumentId = 0
  nonneg : ∀ ownerId instrumentId, 0 ≤ service.quantityOf ownerId instrumentId

structure Flat (service : PositionService) : Prop where
  total : ∀ instrumentId, service.totalQuantity instrumentId = 0
  zero : ∀ ownerId instrumentId, service.quantityOf ownerId instrumentId = 0

theorem flat_new : new.Flat := ⟨fun _ => rfl, fun _ _ => rfl⟩

theorem Flat.balanced (flat : service.Flat) : service.Balanced :=
  ⟨flat.total, fun ownerId instrumentId => by rw [flat.zero]; exact Int64.le_refl 0⟩

/-- The trade moves nothing from one owner to another. -/
def Idle (settled : SettledTrade) : Prop :=
  settled.buyerOwnerId = settled.sellerOwnerId ∨ settled.quantity = 0

theorem Flat.step (flat : service.Flat) (idle : Idle settled) (stepped : service.step settled = some next) : next.Flat := by
  have zero : ∀ other another, next.quantityOf other another = 0 := by
    intro other another
    rw [quantityOf_step stepped, quantityOf_bought, flat.zero]
    rcases idle with same | none
    · rw [same]
      split <;> simp
    · simp [none]
  refine ⟨fun another => ?_, zero⟩
  rw [totalQuantity_step stepped, flat.total, zero, flat.zero]
  rcases idle with same | none
  · simp [same]
  · simp [quantityOf_bought, flat.zero, none]

theorem eq_zero_of_nonneg {quantity : Int64} (own : 0 ≤ quantity) (opposite : 0 ≤ 0 - quantity) : quantity = 0 := by
  rw [Int64.le_iff_toInt_le, Int64.toInt_zero] at own opposite
  have range := quantity.toInt_lt
  rw [Int64.toInt_sub, Int64.toInt_zero, Int.bmod_eq_of_le (by omega) (by omega)] at opposite
  exact Int64.toInt_inj.mp (by rw [Int64.toInt_zero]; omega)

theorem Flat.idle (flat : service.Flat) (stepped : service.step settled = some next)
    (balanced : next.Balanced) : Idle settled := by
  by_cases same : settled.buyerOwnerId = settled.sellerOwnerId
  · exact .inl same
  · have buyer := balanced.nonneg settled.buyerOwnerId settled.trade.instrumentId
    have seller := balanced.nonneg settled.sellerOwnerId settled.trade.instrumentId
    rw [quantityOf_step stepped, quantityOf_bought, flat.zero] at buyer seller
    refine .inr (eq_zero_of_nonneg ?_ ?_)
    · simpa [same] using buyer
    · simpa [Ne.symm same] using seller

theorem along_balanced_iff {trades} (flat : service.Flat) :
    system.Along (fun _ _ after => after.Balanced) service trades ↔ ∀ settled ∈ trades, Idle settled := by
  induction trades generalizing service with
  | nil => simp [System.Along]
  | cons settled _ ih =>
    have stepped : system.step service settled = some _ := rfl
    rw [System.along_cons_of_step stepped, List.forall_mem_cons]
    constructor
    · rintro ⟨balanced, later⟩
      have idle := flat.idle stepped balanced
      exact ⟨idle, (ih (flat.step idle stepped)).mp later⟩
    · rintro ⟨idle, later⟩
      have next := flat.step idle stepped
      exact ⟨next.balanced, (ih next).mpr later⟩

/-- For every sequence of trades the quantities of each instrument add up to a multiple of
2^64, and to zero as long as none wraps around. They add up to zero with nobody short, after
every trade, exactly if no trade moves anything from one owner to another. -/
theorem balanced_iff_idle (trades : List SettledTrade) : (∀ service instrumentId, system.Reachable new service →
      (2 : ℤ) ^ 64 ∣ service.totalQuantity instrumentId) ∧
    (∀ service instrumentId, system.Reaches Exact new service → service.totalQuantity instrumentId = 0) ∧
    (system.Along (fun _ _ after => after.Balanced) new trades ↔ ∀ settled ∈ trades, Idle settled) :=
  ⟨fun _ instrumentId reached => dvd_totalQuantity reached instrumentId,
    fun _ instrumentId reached => totalQuantity_of_exact reached instrumentId,
    along_balanced_iff flat_new⟩

theorem reachable_settle (getOrder : OrderId → Except TradingError Order) (trades : List Trade)
    (service : PositionService) : system.Reachable service (settle getOrder service trades).1 := by
  induction trades generalizing service with
  | nil => exact .refl
  | cons trade _ ih =>
    unfold settle
    cases resolved : resolveOwners getOrder trade with
    | error => exact .refl
    | ok settled =>
      have stepped : system.step service { settled with trade := trade } = some _ := rfl
      exact (System.Reaches.step .refl trivial stepped).trans (ih _)

/-- Over any number of settlements, each with its own trades and the orders found by then, also
where one stops at a trade whose orders are missing, the positions in an instrument add up to a
multiple of 2^64. -/
theorem settlements_balanced (settlements : List ((OrderId → Except TradingError Order) × List Trade))
    (instrumentId : InstrumentId) : (2 : ℤ) ^ 64 ∣
      (settlements.foldl (fun service batch => (settle batch.1 service batch.2).1) new).totalQuantity instrumentId := by
  refine dvd_totalQuantity (List.foldlRecOn settlements _ .refl ?_) instrumentId
  intro service reached batch _
  exact System.Reaches.trans reached (reachable_settle batch.1 batch.2 service)

def twoOrders : OrderId → Except TradingError Order
  | "o1" => .ok ⟨"o1", "XYZ", "ann", .sell, 100, 5, 5, .filled⟩
  | "o2" => .ok ⟨"o2", "XYZ", "bob", .buy, 100, 5, 5, .filled⟩
  | _ => .error .orderNotFound

def firstTrade : Trade := ⟨"t1", "XYZ", "o1", "o2", 100, 5⟩

/-- Settlement of the first trade there is succeeds, and the seller is then short. -/
theorem firstTrade_short : (settle twoOrders new [firstTrade]).2.isOk = true ∧
      (settle twoOrders new [firstTrade]).1.quantityOf "bob" "XYZ" = 5 ∧
      (settle twoOrders new [firstTrade]).1.quantityOf "ann" "XYZ" = -5 := by
  decide

end PositionService

end Blazil.Trading
