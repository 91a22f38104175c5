import Blazil.Foundation.Averages
import Blazil.Foundation.KeyedTable
import Blazil.Foundation.Transition
import Mathlib.Tactic.Linarith
import Mathlib.Tactic.Positivity

/-! The risk engine (`core/risk/src`). Decimals are taken as exact, so they are rational numbers
here.

The checks look at the notional value of an order as if it were added to what is held. A trade that
takes a position through zero is booked at the average price of what was held before. -/

set_option autoImplicit false

namespace Blazil.Risk

open Foundation

structure RiskLimit where
  maxPositionSize : Option ℚ
  maxNotionalPerInstrument : Option ℚ
  maxTotalNotional : Option ℚ
  maxOrderSize : Option ℚ
deriving DecidableEq

structure Position where
  instrument : String
  quantity : ℚ
  notional : ℚ
  avgPrice : ℚ
deriving DecidableEq

namespace Position

def zero (instrument : String) : Position := ⟨instrument, 0, 0, 0⟩

def update (position : Position) (quantityDelta price : ℚ) : Position :=
  let newQuantity := position.quantity + quantityDelta
  let tradeNotional := quantityDelta * price
  if newQuantity = 0 then { position with quantity := 0, notional := 0, avgPrice := 0 }
  else if position.quantity = 0 ∨ (0 < position.quantity ↔ 0 < quantityDelta) then
    let totalNotional := position.notional + tradeNotional
    { position with
      quantity := newQuantity
      notional := totalNotional
      avgPrice := if newQuantity ≠ 0 then totalNotional / newQuantity else 0 }
  else
    { position with quantity := newQuantity, notional := newQuantity * position.avgPrice }

end Position

structure OrderRequest where
  accountId : String
  instrument : String
  quantity : ℚ
  price : ℚ
deriving DecidableEq

inductive RiskError where
  | orderSizeLimitExceeded (orderSize limit : ℚ)
  | positionSizeLimitExceeded (newSize limit : ℚ)
  | instrumentNotionalLimitExceeded (instrument : String) (newNotional limit : ℚ)
  | totalNotionalLimitExceeded (newTotal limit : ℚ)
  | accountNotFound (accountId : String)
deriving DecidableEq

/-- Positions are kept by account and instrument. -/
structure InMemoryRiskEngine where
  limits : String → Option RiskLimit
  positions : KeyedTable (String × String) Position

/-- One check: a value is refused when it is above a limit that is set. -/
def exceeding (limit : Option ℚ) (value : ℚ) (error : ℚ → RiskError) : Except RiskError Unit :=
  match limit with
  | none => .ok ()
  | some max => if value > max then .error (error max) else .ok ()

namespace InMemoryRiskEngine

def new : InMemoryRiskEngine := ⟨fun _ => none, .empty⟩

def registerAccount (engine : InMemoryRiskEngine) (accountId : String) (limit : RiskLimit) : InMemoryRiskEngine :=
  { engine with
    limits := fun other => if other = accountId then some limit else engine.limits other }

def getPosition (engine : InMemoryRiskEngine) (accountId instrument : String) : Option Position :=
  engine.positions.get (accountId, instrument)

def getTotalNotional (engine : InMemoryRiskEngine) (accountId : String) : ℚ :=
  engine.positions.sum fun key position => if key.1 = accountId then |position.notional| else 0

def checkOrder (engine : InMemoryRiskEngine) (order : OrderRequest) : Except RiskError Unit :=
  match engine.limits order.accountId with
  | none => .error (.accountNotFound order.accountId)
  | some limit => do
      exceeding limit.maxOrderSize |order.quantity| (.orderSizeLimitExceeded |order.quantity|)
      let current := engine.getPosition order.accountId order.instrument
      let currentQuantity := (current.map Position.quantity).getD 0
      let currentNotional := (current.map Position.notional).getD 0
      let newSize := |currentQuantity + order.quantity|
      exceeding limit.maxPositionSize newSize (.positionSizeLimitExceeded newSize)
      let newNotional := |currentNotional + order.quantity * order.price|
      exceeding limit.maxNotionalPerInstrument newNotional (.instrumentNotionalLimitExceeded order.instrument newNotional)
      let newTotal := |engine.getTotalNotional order.accountId + order.quantity * order.price|
      exceeding limit.maxTotalNotional newTotal (.totalNotionalLimitExceeded newTotal)

def updatePosition (engine : InMemoryRiskEngine) (order : OrderRequest) : InMemoryRiskEngine :=
  { engine with
    positions := engine.positions.upsert (order.accountId, order.instrument) fun current =>
      (current.getD (.zero order.instrument)).update order.quantity order.price }

def step (engine : InMemoryRiskEngine) (order : OrderRequest) : Option InMemoryRiskEngine :=
  match engine.checkOrder order with
  | .error _ => none
  | .ok () => some (engine.updatePosition order)

def system : System InMemoryRiskEngine OrderRequest := ⟨step⟩

end InMemoryRiskEngine

namespace Position

structure Consistent (position : Position) : Prop where
  notional : position.notional = position.quantity * position.avgPrice
  price : 0 ≤ position.avgPrice

theorem consistent_zero (instrument : String) : (zero instrument).Consistent :=
  ⟨(zero_mul 0).symm, le_refl 0⟩

variable {position : Position} {delta price : ℚ}

theorem sameSide_of_grows {quantity : ℚ} (grows : quantity = 0 ∨ (0 < quantity ↔ 0 < delta)) :
    0 ≤ quantity ∧ 0 ≤ delta ∨ quantity ≤ 0 ∧ delta ≤ 0 := by
  rcases grows with rfl | same
  · exact (le_total 0 delta).imp (fun buys => ⟨le_refl 0, buys⟩) fun sells => ⟨le_refl 0, sells⟩
  · rcases le_or_gt quantity 0 with short | long
    · exact .inr ⟨short, not_lt.mp fun buys => absurd (same.mpr buys) short.not_gt⟩
    · exact .inl ⟨long.le, (same.mp long).le⟩

theorem update_valued (position : Position) (delta price : ℚ) : (position.update delta price).notional =
    (position.update delta price).quantity * (position.update delta price).avgPrice := by
  unfold Position.update
  dsimp only
  split
  · exact (zero_mul 0).symm
  · next moved =>
    split
    · exact (mul_div_cancel₀ _ moved).symm
    · rfl

theorem Consistent.update (consistent : position.Consistent) (positive : 0 < price) :
    (position.update delta price).Consistent := by
  refine ⟨position.update_valued delta price, ?_⟩
  unfold Position.update
  dsimp only
  split
  · exact le_refl 0
  · next moved =>
    split
    · next grows =>
      rw [consistent.notional]
      exact (le_min consistent.price positive.le).trans (div_average (sameSide_of_grows grows) moved).1
    · exact consistent.price

theorem abs_shrinks {quantity : ℚ} (shrinks : ¬(quantity = 0 ∨ (0 < quantity ↔ 0 < delta)))
    (kept : 0 ≤ quantity * delta ∨ |quantity + delta| ≤ |quantity|) : |quantity + delta| ≤ |quantity| := by
  rcases kept with adds | less
  · obtain ⟨moved, apart⟩ := not_or.mp shrinks
    have still : delta = 0 := by
      rcases lt_or_gt_of_ne moved with short | long
      · have sells : delta ≤ 0 := nonpos_of_mul_nonneg_right adds short
        exact absurd ⟨fun long => absurd long short.not_gt, fun buys => absurd buys sells.not_gt⟩ apart
      · have sells : delta ≤ 0 := not_lt.mp fun buys => apart ⟨fun _ => buys, fun _ => long⟩
        exact le_antisymm sells (nonneg_of_mul_nonneg_right adds long)
    rw [still, add_zero]
  · exact less

/-- A position either holds no more than before or grows by the notional value of the order,
unless it becomes a larger one on the other side. -/
theorem Consistent.notional_update (consistent : position.Consistent) (price : ℚ)
    (kept : 0 ≤ position.quantity * delta ∨ |position.quantity + delta| ≤ |position.quantity|) :
    |(position.update delta price).notional| ≤ |position.notional| ∨
    (position.update delta price).notional = position.notional + delta * price ∧
      (0 ≤ position.quantity ∧ 0 ≤ delta ∨ position.quantity ≤ 0 ∧ delta < 0) := by
  unfold Position.update
  dsimp only
  split
  · exact .inl (by simp)
  · next moved =>
    split
    · next grows =>
      rcases sameSide_of_grows grows with long | ⟨short, sells⟩
      · exact .inr ⟨rfl, .inl long⟩
      · rcases sells.eq_or_lt with still | sells
        · exact .inl (by simp [still])
        · exact .inr ⟨rfl, .inr ⟨short, sells⟩⟩
    · next shrinks =>
      left
      rw [consistent.notional, abs_mul, abs_mul]
      exact mul_le_mul_of_nonneg_right (abs_shrinks shrinks kept) (abs_nonneg _)

end Position

theorem exceeding_ok {limit value error} :
    exceeding limit value error = .ok () ↔ ∀ max, limit = some max → value ≤ max := by
  cases limit with
  | none | some => simp [exceeding]

theorem bind_ok {first : Except RiskError Unit} {second : Except RiskError Unit} :
    (first >>= fun _ => second) = .ok () ↔ first = .ok () ∧ second = .ok () := by
  cases first <;> simp [bind, Except.bind]

namespace InMemoryRiskEngine

def held (engine : InMemoryRiskEngine) (accountId instrument : String) : Position :=
  (engine.getPosition accountId instrument).getD (.zero instrument)

variable {engine : InMemoryRiskEngine} {order : OrderRequest}

theorem checkOrder_ok {limit : RiskLimit} (registered : engine.limits order.accountId = some limit)
    (passed : engine.checkOrder order = .ok ()) :
    (∀ max, limit.maxNotionalPerInstrument = some max →
      |(engine.held order.accountId order.instrument).notional + order.quantity * order.price| ≤ max) ∧
    ∀ max, limit.maxTotalNotional = some max →
      |engine.getTotalNotional order.accountId + order.quantity * order.price| ≤ max := by
  have current : ((engine.getPosition order.accountId order.instrument).map
      Position.notional).getD 0 = (engine.held order.accountId order.instrument).notional := by
    unfold held
    cases engine.getPosition order.accountId order.instrument <;> rfl
  unfold checkOrder at passed
  simp only [registered, bind_ok, exceeding_ok, current] at passed
  obtain ⟨_, _, perInstrument, total⟩ := passed
  exact ⟨perInstrument, total⟩

def after (engine : InMemoryRiskEngine) (order : OrderRequest) : Position :=
  (engine.held order.accountId order.instrument).update order.quantity order.price

theorem getPosition_updatePosition (accountId instrument : String) :
    (engine.updatePosition order).getPosition accountId instrument =
      if (accountId, instrument) = (order.accountId, order.instrument) then some (engine.after order)
      else engine.getPosition accountId instrument :=
  engine.positions.get_upsert _ _ _

theorem getTotalNotional_updatePosition (accountId : String) : (engine.updatePosition order).getTotalNotional accountId =
      engine.getTotalNotional accountId + if order.accountId = accountId then
        |(engine.after order).notional| -
          |(engine.held order.accountId order.instrument).notional|
      else 0 := by
  unfold getTotalNotional updatePosition
  rw [KeyedTable.sum_upsert]
  unfold after held getPosition
  by_cases own : order.accountId = accountId
  · cases engine.positions.get (order.accountId, order.instrument) with
    | none => simp [own, Position.zero]
    | some => simp [own]
  · cases engine.positions.get (order.accountId, order.instrument) with
    | none => simp [own]
    | some => simp [own]

/-- An order does not turn a position into a larger one on the other side, and where it opens a
short position or adds to one, the total with its notional value is within the limit. -/
def Sound (engine : InMemoryRiskEngine) (order : OrderRequest) : Prop :=
  let quantity := (engine.held order.accountId order.instrument).quantity
  (0 ≤ quantity * order.quantity ∨ |quantity + order.quantity| ≤ |quantity|) ∧
    ∀ limit ∈ engine.limits order.accountId, ∀ max ∈ limit.maxTotalNotional, quantity ≤ 0 → order.quantity < 0 →
      engine.getTotalNotional order.accountId + |order.quantity| * order.price ≤ max

instance (engine : InMemoryRiskEngine) (order : OrderRequest) : Decidable (engine.Sound order) :=
  inferInstanceAs (Decidable ((_ ∨ _) ∧ ∀ _ ∈ _, ∀ _ ∈ _, _ → _ → _))

/-- One account is within its limits, and what is held of anything is consistent. -/
structure Bounded (accountId : String) (limit : RiskLimit) (engine : InMemoryRiskEngine) : Prop where
  registered : engine.limits accountId = some limit
  consistent : ∀ account instrument, (engine.held account instrument).Consistent
  total : ∀ max, limit.maxTotalNotional = some max → engine.getTotalNotional accountId ≤ max
  perInstrument : ∀ max, limit.maxNotionalPerInstrument = some max →
    ∀ instrument position, engine.getPosition accountId instrument = some position →
      |position.notional| ≤ max

variable {accountId : String} {limit : RiskLimit}

theorem held_updatePosition (account instrument : String) : (engine.updatePosition order).held account instrument =
      if (account, instrument) = (order.accountId, order.instrument) then engine.after order
      else engine.held account instrument := by
  unfold held
  rw [getPosition_updatePosition]
  split <;> rfl

variable {max : ℚ}

theorem Bounded.held_le (bounded : engine.Bounded accountId limit) (limited : limit.maxNotionalPerInstrument = some max)
    (instrument : String) (nonneg : 0 ≤ max) : |(engine.held accountId instrument).notional| ≤ max := by
  unfold held
  cases found : engine.getPosition accountId instrument with
  | none => simpa [Position.zero] using nonneg
  | some position => exact bounded.perInstrument max limited instrument position found

theorem Bounded.total_after (bounded : engine.Bounded order.accountId limit) (passed : engine.checkOrder order = .ok ())
    (positive : 0 < order.price) (sound : engine.Sound order) (limited : limit.maxTotalNotional = some max) :
    engine.getTotalNotional order.accountId + (|(engine.after order).notional| -
      |(engine.held order.accountId order.instrument).notional|) ≤ max := by
  obtain ⟨kept, shorts⟩ := sound
  have consistent := bounded.consistent order.accountId order.instrument
  have before := bounded.total max limited
  have checked := (checkOrder_ok bounded.registered passed).2 max limited
  rcases consistent.notional_update order.price kept with _ | ⟨added, long | short⟩
  · unfold after
    linarith
  -- for a purchase on a long position the signed notional values are the absolute ones
  · have nonneg : 0 ≤ (engine.held order.accountId order.instrument).notional := by
      rw [consistent.notional]
      exact mul_nonneg long.1 consistent.price
    have bought : 0 ≤ order.quantity * order.price := mul_nonneg long.2 positive.le
    have seen := (le_abs_self _).trans checked
    rw [after, added, abs_of_nonneg nonneg, abs_of_nonneg (add_nonneg nonneg bought)]
    linarith
  · have negative : (engine.held order.accountId order.instrument).notional ≤ 0 := by
      rw [consistent.notional]
      exact mul_nonpos_of_nonpos_of_nonneg short.1 consistent.price
    have sold : order.quantity * order.price ≤ 0 := mul_nonpos_of_nonpos_of_nonneg short.2.le positive.le
    have room := shorts limit bounded.registered max limited short.1 short.2
    rw [abs_of_neg short.2] at room
    rw [after, added, abs_of_nonpos negative, abs_of_nonpos (add_nonpos negative sold)]
    linarith

theorem Bounded.notional_after (bounded : engine.Bounded order.accountId limit)
    (passed : engine.checkOrder order = .ok ()) (sound : engine.Sound order)
    (limited : limit.maxNotionalPerInstrument = some max) : |(engine.after order).notional| ≤ max := by
  have consistent := bounded.consistent order.accountId order.instrument
  have checked := (checkOrder_ok bounded.registered passed).1 max limited
  have nonneg : 0 ≤ max := (abs_nonneg _).trans checked
  rcases consistent.notional_update order.price sound.1 with less | ⟨added, _⟩
  · exact less.trans (bounded.held_le limited order.instrument nonneg)
  · rw [after, added]
    exact checked

theorem Bounded.updatePosition (bounded : engine.Bounded accountId limit) (passed : engine.checkOrder order = .ok ())
    (positive : 0 < order.price) (sound : order.accountId = accountId → engine.Sound order) :
    (engine.updatePosition order).Bounded accountId limit := by
  refine ⟨bounded.registered, ?_, ?_, ?_⟩
  · intro account instrument
    rw [held_updatePosition]
    split
    · exact (bounded.consistent order.accountId order.instrument).update positive
    · exact bounded.consistent account instrument
  · intro max limited
    rw [getTotalNotional_updatePosition]
    split
    · next own =>
      subst own
      exact bounded.total_after passed positive (sound rfl) limited
    · rw [add_zero]
      exact bounded.total max limited
  · intro max limited instrument position found
    rw [getPosition_updatePosition] at found
    split at found
    · next own =>
      obtain ⟨rfl, rfl⟩ := Prod.mk.inj own
      obtain rfl := Option.some.inj found
      exact bounded.notional_after passed (sound rfl) limited
    · exact bounded.perInstrument max limited instrument position found

/-- Along sound orders that pass the check, an account that starts without positions stays
within its limits. -/
theorem sound_orders_keep_limits {start : InMemoryRiskEngine} (registered : start.limits accountId = some limit)
    (flat : start.positions = .empty) (nonneg : ∀ max, limit.maxTotalNotional = some max → 0 ≤ max)
    (reached : system.Reaches (fun before order => 0 < order.price ∧
      (order.accountId = accountId → before.Sound order)) start engine) :
    (∀ max, limit.maxTotalNotional = some max → engine.getTotalNotional accountId ≤ max) ∧
    ∀ max, limit.maxNotionalPerInstrument = some max →
      ∀ instrument position, engine.getPosition accountId instrument = some position →
        |position.notional| ≤ max := by
  have bounded : engine.Bounded accountId limit := by
    apply reached.invariant (Bounded accountId limit)
    · refine ⟨registered, ?_, ?_, ?_⟩
      · intro account instrument
        simp only [held, getPosition, flat]
        exact Position.consistent_zero instrument
      · intro max limited
        simp only [getTotalNotional, flat]
        exact nonneg max limited
      · intro max _ instrument position found
        rw [getPosition, flat] at found
        cases found
    · intro before order next permitted stepped bounded
      simp only [system, step] at stepped
      split at stepped
      · cases stepped
      · next passed =>
        obtain rfl := Option.some.inj stepped
        exact bounded.updatePosition passed permitted.1 permitted.2
  exact ⟨bounded.total, bounded.perInstrument⟩

def limitedEngine (perInstrument total : Option ℚ) : InMemoryRiskEngine :=
  new.registerAccount "account" ⟨none, perInstrument, total, none⟩

def orderOf (quantity price : ℚ) : OrderRequest := ⟨"account", "instrument", quantity, price⟩

/-- A hundred units are bought for the whole limit, and a sale leaves fifty of them short. -/
theorem trading_keeps_limits : ∃ engine, system.Reachable (limitedEngine (some 1000) (some 1000)) engine ∧
      (engine.held "account" "instrument").quantity = -50 ∧ engine.getTotalNotional "account" ≤ 1000 := by
  obtain ⟨engine, reached, short⟩ := System.exists_reaches_of_run system
    (fun before order => 0 < order.price ∧ (order.accountId = "account" → before.Sound order))
    (limitedEngine (some 1000) (some 1000)) [orderOf 60 10, orderOf 40 10, orderOf (-150) 10]
    (fun engine => (engine.held "account" "instrument").quantity = -50) (by decide +kernel) (by decide +kernel)
  exact ⟨engine, reached.reachable, short, (sound_orders_keep_limits rfl rfl (by decide) reached).1 1000 rfl⟩

/-- A second sale is checked as if it took back the first one, and a sale of more than is
held is checked at its own price but booked at the average price. -/
theorem selling_exceeds_limits : (∃ engine, system.Reachable (limitedEngine none (some 1000)) engine ∧
      engine.getTotalNotional "account" = 2000) ∧
    ∃ engine, system.Reachable (limitedEngine (some 1000) (some 1000)) engine ∧
      (engine.getPosition "account" "instrument").map Position.notional = some (-3000) :=
  ⟨System.exists_reachable_of_run _ _ [orderOf (-100) 10, orderOf (-100) 10] _ (by decide +kernel),
    System.exists_reachable_of_run _ _ [orderOf 100 10, orderOf (-400) 1] _ (by decide +kernel)⟩

end InMemoryRiskEngine

structure PositionTrade where
  quantityDelta : ℚ
  price : ℚ
deriving DecidableEq

/-- A position with the prices of the trades since it last was flat or changed sign. -/
structure TrackedPosition where
  position : Position
  recent : List ℚ
deriving DecidableEq

def Position.Crosses (position : Position) (trade : PositionTrade) : Prop :=
  position.quantity * (position.quantity + trade.quantityDelta) < 0

instance (position : Position) (trade : PositionTrade) : Decidable (position.Crosses trade) :=
  inferInstanceAs (Decidable (_ < _))

namespace TrackedPosition

def zero (instrument : String) : TrackedPosition := ⟨.zero instrument, []⟩

def step (tracked : TrackedPosition) (trade : PositionTrade) : Option TrackedPosition :=
  some ⟨tracked.position.update trade.quantityDelta trade.price, if tracked.position.quantity + trade.quantityDelta = 0 then []
    else if tracked.position.quantity = 0 ∨ tracked.position.Crosses trade then [trade.price]
    else tracked.recent ++ [trade.price]⟩

def system : System TrackedPosition PositionTrade := ⟨step⟩

def Priced (tracked : TrackedPosition) : Prop :=
  tracked.position.quantity ≠ 0 → Between tracked.recent tracked.position.avgPrice

def Valued (tracked : TrackedPosition) : Prop :=
  tracked.position.notional = tracked.position.quantity * tracked.position.avgPrice

variable {tracked next : TrackedPosition} {trade : PositionTrade}

theorem valued_step (stepped : tracked.step trade = some next) : next.Valued := by
  cases stepped
  exact tracked.position.update_valued trade.quantityDelta trade.price

theorem priced_step_iff (priced : tracked.Priced) (valued : tracked.Valued) (stepped : tracked.step trade = some next) :
    next.Priced ↔ (tracked.position.Crosses trade → tracked.position.avgPrice = trade.price) := by
  cases stepped
  unfold Priced Position.update
  dsimp only
  split
  · next closed =>
    have inside : ¬tracked.position.Crosses trade := by
      unfold Position.Crosses
      rw [closed, mul_zero]
      exact lt_irrefl 0
    exact iff_of_true (fun moved => absurd rfl moved) fun crosses => absurd crosses inside
  · next moved =>
    split
    · next grows =>
      have average : (tracked.position.notional + trade.quantityDelta * trade.price) /
          (tracked.position.quantity + trade.quantityDelta) = (tracked.position.quantity * tracked.position.avgPrice +
              trade.quantityDelta * trade.price) / (tracked.position.quantity + trade.quantityDelta) := by
        rw [show tracked.position.notional = _ from valued]
      rcases eq_or_ne tracked.position.quantity 0 with flat | held
      · rw [flat, zero_add] at moved
        have inside : ¬tracked.position.Crosses trade := by simp [Position.Crosses, flat]
        refine iff_of_true (fun _ => ?_) fun crosses => absurd crosses inside
        rw [average]
        simp [flat, moved, between_singleton]
      · have side := Position.sameSide_of_grows grows
        have inside : ¬tracked.position.Crosses trade := by
          rcases side with ⟨long, buys⟩ | ⟨short, sells⟩
          · exact not_lt.mpr (mul_nonneg long (add_nonneg long buys))
          · exact not_lt.mpr (mul_nonneg_of_nonpos_of_nonpos short (add_nonpos short sells))
        refine iff_of_true (fun _ => ?_) fun crosses => absurd crosses inside
        obtain ⟨above, below⟩ := @div_average ℚ _ _ _ tracked.position.avgPrice _ trade.price _ side moved
        simp only [held, inside, or_self, if_false]
        rw [average]
        exact (priced held).append above below
    · next shrinks =>
      obtain ⟨held, _⟩ := not_or.mp shrinks
      by_cases crosses : tracked.position.Crosses trade
      · simp [moved, crosses, between_singleton]
      · refine iff_of_true (fun _ => ?_) fun through => absurd through crosses
        simp only [held, crosses, or_self, if_false]
        exact (priced held).append (min_le_left _ _) (le_max_left _ _)

theorem along_priced_iff {trades} (priced : tracked.Priced) (valued : tracked.Valued) :
    system.Along (fun _ _ after => after.Priced) tracked trades ↔
      system.Along (fun before trade _ => before.position.Crosses trade →
        before.position.avgPrice = trade.price) tracked trades := by
  induction trades generalizing tracked with
  | nil => exact Iff.rfl
  | cons trade _ ih =>
    have stepped : system.step tracked trade = some _ := rfl
    rw [System.along_cons_of_step stepped, System.along_cons_of_step stepped, priced_step_iff priced valued stepped]
    refine and_congr_right fun level => ih ?_ (valued_step stepped)
    exact (priced_step_iff priced valued stepped).mpr level

/-- For every sequence of trades, the notional value is that of the quantity at the average
price. The average price lies between the lowest and the highest price of the trades since
the position last was flat or changed sign, after every trade, exactly if each trade that
takes the position through zero is made at the average price of what was held. -/
theorem avgPrice_between_iff (instrument : String) (trades : List PositionTrade) :
    (∀ tracked, system.Reachable (zero instrument) tracked →
      tracked.position.notional = tracked.position.quantity * tracked.position.avgPrice) ∧
    (system.Along (fun _ _ after => after.position.quantity ≠ 0 →
        Between after.recent after.position.avgPrice) (zero instrument) trades ↔
      system.Along (fun before trade _ => before.position.Crosses trade →
        before.position.avgPrice = trade.price) (zero instrument) trades) := by
  have valued : (zero instrument).Valued := (zero_mul 0).symm
  refine ⟨fun tracked reached => ?_, along_priced_iff (fun moved => absurd rfl moved) valued⟩
  exact reached.invariant Valued valued fun _ _ _ _ stepped _ => valued_step stepped

/-- Ten units are bought at 100 and fifteen sold at 200: five are short at a price of 100. -/
theorem avgPrice_outside : (system.run (zero "instrument") [⟨10, 100⟩, ⟨-15, 200⟩]).map
        (fun tracked => (tracked.position.quantity, tracked.position.avgPrice, tracked.recent)) =
      some (-5, 100, [200]) ∧ ¬Between [(200 : ℚ)] 100 := by
  refine ⟨by decide +kernel, ?_⟩
  rw [between_singleton]
  decide

end TrackedPosition

end Blazil.Risk
