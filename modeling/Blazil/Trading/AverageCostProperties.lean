import Blazil.Foundation.Averages
import Blazil.Trading.Positions
import Blazil.Foundation.Entries

/-! The average cost of a position against the prices at which its owner has bought. -/

set_option autoImplicit false

namespace Blazil.Trading

open Foundation

theorem toInt_weightedAvg {oldAvg oldQty newPrice newQty : Int64} (held : 0 ≤ oldQty.toInt)
    (cost : 0 < oldQty.toInt → 0 < oldAvg.toInt) (price : 0 < newPrice.toInt) (quantity : 0 < newQty.toInt)
    (fits : oldAvg.toInt * oldQty.toInt + newPrice.toInt * newQty.toInt < 2 ^ 63) :
    (oldQty + newQty).toInt = oldQty.toInt + newQty.toInt ∧ (weightedAvg oldAvg oldQty newPrice newQty).toInt =
        (oldAvg.toInt * oldQty.toInt + newPrice.toInt * newQty.toInt) / (oldQty.toInt + newQty.toInt) := by
  have oldValue : oldQty.toInt ≤ oldAvg.toInt * oldQty.toInt := by
    rcases held.eq_or_lt with none | some
    · rw [← none, mul_zero]
    · exact le_mul_of_one_le_left held (cost some)
  have newValue : newQty.toInt ≤ newPrice.toInt * newQty.toInt :=
    le_mul_of_one_le_left quantity.le price
  have exact : ∀ {number : ℤ}, 0 ≤ number → number < 2 ^ 63 → number.bmod (2 ^ 64) = number :=
    fun nonneg small => Int.bmod_eq_of_le (by omega) (by omega)
  have total : (oldQty + newQty).toInt = oldQty.toInt + newQty.toInt := by
    rw [Int64.toInt_add, exact (by omega) (by omega)]
  have moved : oldQty + newQty ≠ 0 := by
    intro none
    rw [none, Int64.toInt_zero] at total
    omega
  have value : (oldAvg * oldQty + newPrice * newQty).toInt = oldAvg.toInt * oldQty.toInt + newPrice.toInt * newQty.toInt := by
    rw [Int64.toInt_add, Int64.toInt_mul, Int64.toInt_mul, Int.bmod_add_bmod, Int.add_bmod_bmod, exact (by omega) fits]
  refine ⟨total, ?_⟩
  rw [weightedAvg, if_neg moved, Int64.toInt_div, value, total, Int.tdiv_eq_ediv_of_nonneg (by omega)]
  exact exact (Int.ediv_nonneg (by omega) (by omega))
    ((Int.ediv_le_self _ (by omega)).trans_lt fits)

namespace PositionService

variable {ownerId : String} {instrumentId : InstrumentId} {service next : PositionService} {settled : SettledTrade}
  {trades : List SettledTrade}

def averageOf (service : PositionService) (ownerId : String) (instrumentId : InstrumentId) : Int64 :=
  (service.getOrCreate ownerId instrumentId).averageCostMinorUnits

theorem averageOf_assign {other another changed} :
    (service.assign ownerId instrumentId changed).averageOf other another =
      if (other, another) = (ownerId, instrumentId) then
        (changed (service.getOrCreate ownerId instrumentId)).averageCostMinorUnits
      else service.averageOf other another := by
  unfold averageOf getOrCreate
  rw [getPosition_assign]
  split
  · rfl
  · cases service.getPosition other another <;> rfl

def boughtPrices (ownerId : String) (instrumentId : InstrumentId) (trades : List SettledTrade) : List ℤ :=
  (trades.filter fun settled =>
    (settled.buyerOwnerId, settled.trade.instrumentId) = (ownerId, instrumentId)).map fun settled => settled.price.toInt

/-- A trade as the owner's position sees it: price and quantity are positive; the owner buys
only if not short, for a value that together with that of the holding is in range; and a sale
does not go below the range. -/
@[mk_iff]
structure Orderly (ownerId : String) (instrumentId : InstrumentId) (service : PositionService)
    (settled : SettledTrade) : Prop where
  price : 0 < settled.price.toInt
  quantity : 0 < settled.quantity.toInt
  buys : (settled.buyerOwnerId, settled.trade.instrumentId) = (ownerId, instrumentId) →
    0 ≤ (service.quantityOf ownerId instrumentId).toInt ∧
    (service.averageOf ownerId instrumentId).toInt * (service.quantityOf ownerId instrumentId).toInt +
      settled.price.toInt * settled.quantity.toInt < 2 ^ 63
  sells : (settled.sellerOwnerId, settled.trade.instrumentId) = (ownerId, instrumentId) →
    -2 ^ 63 ≤ ((service.bought settled).quantityOf ownerId instrumentId).toInt - settled.quantity.toInt

instance (service : PositionService) (settled : SettledTrade) : Decidable (service.Orderly ownerId instrumentId settled) :=
  decidable_of_iff _ (orderly_iff ownerId instrumentId service settled).symm

structure Priced (ownerId : String) (instrumentId : InstrumentId) (trades : List SettledTrade)
    (service : PositionService) : Prop where
  positive : ∀ price ∈ boughtPrices ownerId instrumentId trades, 0 < price
  average : 0 < (service.quantityOf ownerId instrumentId).toInt → Between (boughtPrices ownerId instrumentId trades)
      (service.averageOf ownerId instrumentId).toInt

theorem boughtPrices_concat : boughtPrices ownerId instrumentId (trades ++ [settled]) =
    boughtPrices ownerId instrumentId trades ++
      if (settled.buyerOwnerId, settled.trade.instrumentId) = (ownerId, instrumentId) then [settled.price.toInt]
      else [] := by
  unfold boughtPrices
  rw [List.filter_append, List.map_append]
  split
  · next own =>
    rw [List.filter_cons_of_pos (by exact decide_eq_true own)]
    rfl
  · next other =>
    rw [List.filter_cons_of_neg (by exact fun own => other (of_decide_eq_true own))]
    rfl

section

variable (priced : service.Priced ownerId instrumentId trades) (orderly : service.Orderly ownerId instrumentId settled)
include priced orderly

theorem Priced.bought : (service.bought settled).Priced ownerId instrumentId (trades ++ [settled]) := by
  by_cases own : (settled.buyerOwnerId, settled.trade.instrumentId) = (ownerId, instrumentId)
  · cases own
    obtain ⟨held, fits⟩ := orderly.buys rfl
    have cost : 0 < (service.quantityOf settled.buyerOwnerId settled.trade.instrumentId).toInt →
        0 < (service.averageOf settled.buyerOwnerId settled.trade.instrumentId).toInt := by
      intro long
      obtain ⟨low, isLow, _, _, above, _⟩ := priced.average long
      exact (priced.positive low isLow).trans_le above
    obtain ⟨_, average⟩ := toInt_weightedAvg held cost orderly.price orderly.quantity fits
    have averageAfter : (service.bought settled).averageOf settled.buyerOwnerId settled.trade.instrumentId = weightedAvg
          (service.averageOf settled.buyerOwnerId settled.trade.instrumentId)
          (service.quantityOf settled.buyerOwnerId settled.trade.instrumentId)
          settled.price settled.quantity :=
      averageOf_assign.trans (if_pos rfl)
    constructor
    · rw [boughtPrices_concat, if_pos rfl]
      exact holds_after_concat priced.positive orderly.price
    · intro _
      rw [boughtPrices_concat, if_pos rfl, averageAfter, average]
      rcases held.eq_or_lt with none | long
      · -- Nothing was held, so that the old average does not count.
        rw [← none, mul_zero, zero_add, zero_add, Int.mul_ediv_cancel _ orderly.quantity.ne']
        exact between_last _ _
      · obtain ⟨above, below⟩ := ediv_average held orderly.quantity
        exact (priced.average long).append above below
  · have prices : boughtPrices ownerId instrumentId (trades ++ [settled]) = boughtPrices ownerId instrumentId trades := by
      rw [boughtPrices_concat, if_neg own, List.append_nil]
    have quantityAfter : (service.bought settled).quantityOf ownerId instrumentId = _ :=
      quantityOf_bought
    have averageAfter : (service.bought settled).averageOf ownerId instrumentId = _ :=
      averageOf_assign
    rw [if_neg (Ne.symm own)] at quantityAfter averageAfter
    rw [Int64.add_zero] at quantityAfter
    constructor
    · rw [prices]
      exact priced.positive
    · rw [prices, quantityAfter, averageAfter]
      exact priced.average

theorem Priced.step (stepped : service.step settled = some next) :
    next.Priced ownerId instrumentId (trades ++ [settled]) := by
  have paid := priced.bought orderly
  refine ⟨paid.positive, fun long => ?_⟩
  have average : next.averageOf ownerId instrumentId = (service.bought settled).averageOf ownerId instrumentId := by
    rw [step_eq stepped, averageOf_assign]
    split
    · next own =>
      cases own
      rfl
    · rfl
  rw [average]
  apply paid.average
  rw [quantityOf_step stepped] at long
  split at long
  · next own =>
    have low := orderly.sells own.symm
    have high := ((service.bought settled).quantityOf ownerId instrumentId).toInt_lt
    have sold := orderly.quantity
    rw [Int64.toInt_sub, Int.bmod_eq_of_le (by omega) (by omega)] at long
    omega
  · rwa [Int64.sub_zero] at long

end

/-- For every sequence of trades that are orderly for an owner and an instrument, the average
cost lies between the lowest and the highest price at which the owner has bought, whenever
the owner holds a positive quantity. -/
theorem averageCost_between (orderly : system.Along (fun before settled _ => before.Orderly ownerId instrumentId settled)
      new trades) (executed : system.run new trades = some service) {position : Position}
    (found : service.getPosition ownerId instrumentId = some position) (long : 0 < position.quantityUnits) :
    Between (boughtPrices ownerId instrumentId trades) position.averageCostMinorUnits.toInt := by
  have initial : new.Priced ownerId instrumentId [] := by
    refine ⟨by simp [boughtPrices], fun long => ?_⟩
    exact absurd long (lt_irrefl 0)
  have priced := orderly.history executed (Priced ownerId instrumentId) initial
    fun _ _ _ _ allowed stepped priced => priced.step allowed stepped
  have same : service.getOrCreate ownerId instrumentId = position := by
    rw [getOrCreate, found, Option.getD_some]
  have average := priced.average
  rw [averageOf, quantityOf, same] at average
  exact average (Int64.lt_iff_toInt_lt.mp long)

def tradeAt (price quantity : Int) (buyerOwnerId sellerOwnerId : String) : SettledTrade :=
  ⟨⟨"t", "XYZ", "o1", "o2", price, quantity⟩, buyerOwnerId, sellerOwnerId⟩

def usualTrades : List SettledTrade :=
  [tradeAt 100 5 "bob" "ann", tradeAt 131 10 "bob" "ann", tradeAt 90 3 "ann" "bob"]

theorem averageCost_usual : ∃ service position, system.run new usualTrades = some service ∧
    service.getPosition "bob" "XYZ" = some position ∧ position.averageCostMinorUnits = 120 ∧
    Between [100, 131] position.averageCostMinorUnits.toInt := by
  refine ⟨_, _, rfl, rfl, rfl, ?_⟩
  exact @averageCost_between "bob" "XYZ" _ usualTrades (by decide) rfl _ rfl (by decide)

/-- An owner who is short by five buys ten at 100 and has then five at an average cost of 200.
A value that wraps around makes the average cost zero. -/
theorem averageCost_outside :
    (∃ service position, system.run new [tradeAt 100 5 "bob" "ann", tradeAt 100 10 "ann" "bob"] =
        some service ∧ service.getPosition "ann" "XYZ" = some position ∧
      position.quantityUnits = 5 ∧ position.averageCostMinorUnits = 200) ∧
    ∃ service position, system.run new [tradeAt (2 ^ 62) 4 "bob" "ann"] = some service ∧
      service.getPosition "bob" "XYZ" = some position ∧
      position.quantityUnits = 4 ∧ position.averageCostMinorUnits = 0 :=
  ⟨⟨_, _, rfl, rfl, rfl, rfl⟩, ⟨_, _, rfl, rfl, rfl, rfl⟩⟩

end PositionService

end Blazil.Trading
