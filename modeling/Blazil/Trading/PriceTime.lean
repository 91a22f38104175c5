import Blazil.Trading.Domain
import Blazil.Foundation.Entries

/-! Price-time priority, as a rule on the list of all orders in the order in which they
were placed. There is no book here: the rule says which order a taker trades with next,
and when it stops. -/

set_option autoImplicit false

namespace Blazil.Trading

open Foundation

/-- The order in which prices are taken on one side: the highest bid and the lowest ask
come first. -/
def Side.before : Side → Int → Int → Prop
  | .buy, first, second => second < first
  | .sell, first, second => first < second

/-- Whether an order rests on the other side of the taker's market. -/
def Order.opposes (maker taker : Order) : Bool :=
  maker.isOpen && maker.instrumentId = taker.instrumentId && maker.side = taker.side.opposite

/-- Whether a price is within a limit: a buyer pays no more, a seller takes no less. -/
def Side.within : Side → Int → Int → Prop
  | .buy, limit, price => price ≤ limit
  | .sell, limit, price => limit ≤ price

instance (side : Side) (limit price : Int) : Decidable (side.within limit price) :=
  match side with
  | .buy => inferInstanceAs (Decidable (price ≤ limit))
  | .sell => inferInstanceAs (Decidable (limit ≤ price))

def Order.admits (taker : Order) (price : Int) : Prop :=
  taker.side.within taker.limitPriceMinorUnits price

instance (taker : Order) (price : Int) : Decidable (taker.admits price) :=
  inferInstanceAs (Decidable (taker.side.within taker.limitPriceMinorUnits price))

/-- The next maker: no opposing order has a better price, and of those at its price it
was placed first. -/
structure BestMaker (makers : List Order) (taker maker : Order) : Prop where
  oldest : (makers.filter fun order =>
    order.opposes taker && order.limitPriceMinorUnits = maker.limitPriceMinorUnits).head? = some maker
  best : ∀ other ∈ makers, other.opposes taker = true →
    ¬taker.side.opposite.before other.limitPriceMinorUnits maker.limitPriceMinorUnits
  admitted : taker.admits maker.limitPriceMinorUnits

def fillUnits (taker maker : Order) : Int := min taker.remainingUnits maker.remainingUnits

/-- The trades of a taker with the orders that were placed before it, and what becomes of
all of them. -/
inductive PriceTime : List Order → Order → List Trade → List Order → Order → Prop where
  | stop {makers taker} (done : taker.remainingUnits ≤ 0 ∨ ∀ maker ∈ makers, maker.opposes taker = true →
        ¬taker.admits maker.limitPriceMinorUnits) :
      PriceTime makers taker [] makers taker
  | trade {makers final taker maker finalTaker trades}
      (id : String) (wanting : 0 < taker.remainingUnits) (best : BestMaker makers taker maker)
      (rest : PriceTime (update maker.id (Order.fill (fillUnits taker maker)) makers)
        (taker.fill (fillUnits taker maker)) trades final finalTaker) :
      PriceTime makers taker (⟨id, taker.instrumentId, maker.id, taker.id, maker.limitPriceMinorUnits,
          fillUnits taker maker⟩ :: trades) final finalTaker

structure Order.Sound (order : Order) : Prop where
  positive : 0 < order.quantityUnits
  nonneg : 0 ≤ order.filledUnits
  bounded : order.filledUnits ≤ order.quantityUnits
  full : order.status = .filled ↔ order.filledUnits = order.quantityUnits

def Order.terms (order : Order) : Order :=
  { order with filledUnits := 0, status := .opened }

def tradedUnits (trades : List Trade) (id : OrderId) : Int :=
  total (fun trade =>
    if trade.makerOrderId = id ∨ trade.takerOrderId = id then trade.quantityUnits else 0) trades

/-- No open bid reaches an open ask of its instrument. -/
def Uncrossed (orders : List Order) : Prop :=
  ∀ bid ∈ orders, ∀ ask ∈ orders, bid.isOpen = true → ask.isOpen = true → bid.side = .buy →
    ask.side = .sell → bid.instrumentId = ask.instrumentId → bid.limitPriceMinorUnits < ask.limitPriceMinorUnits

namespace Order

variable {order : Order} {units : Int}

@[simp] theorem fill_id : (order.fill units).id = order.id := rfl

@[simp] theorem fill_instrumentId : (order.fill units).instrumentId = order.instrumentId := rfl

@[simp] theorem fill_quantityUnits : (order.fill units).quantityUnits = order.quantityUnits := rfl

@[simp] theorem fill_filledUnits : (order.fill units).filledUnits = order.filledUnits + units := rfl

theorem fill_remainingUnits (order : Order) (units : Int) : (order.fill units).remainingUnits = order.remainingUnits - units := by
  simp only [remainingUnits, fill_quantityUnits, fill_filledUnits]
  omega

@[simp] theorem fill_terms : (order.fill units).terms = order.terms := rfl

theorem fill_status : (order.fill units).status =
    if order.quantityUnits ≤ order.filledUnits + units then .filled else .partlyFilled := rfl

theorem Sound.remaining_pos (sound : order.Sound) (resting : order.isOpen = true) : 0 < order.remainingUnits := by
  have partly : order.filledUnits ≠ order.quantityUnits := by
    intro same
    have status := sound.full.mpr same
    simp [isOpen, status] at resting
  have bounded := sound.bounded
  unfold remainingUnits
  omega

theorem Sound.fill (sound : order.Sound) (nonneg : 0 ≤ units)
    (within : units ≤ order.remainingUnits) : (order.fill units).Sound := by
  have before := sound.nonneg
  unfold remainingUnits at within
  refine ⟨sound.positive, ?_, ?_, ?_⟩
  · rw [fill_filledUnits]
    omega
  · rw [fill_filledUnits, fill_quantityUnits]
    omega
  · rw [fill_status, fill_filledUnits, fill_quantityUnits]
    constructor
    · intro status
      split at status
      · omega
      · cases status
    · intro same
      rw [if_pos (Int.le_of_eq same.symm)]

theorem isOpen_fill_iff : (order.fill units).isOpen = true ↔ order.filledUnits + units < order.quantityUnits := by
  simp only [isOpen, fill_status]
  split
  · next full => simp [Int.not_lt.mpr full]
  · next left => simp [Int.not_le.mp left]

end Order

variable {id : OrderId} {units : Int} {taker : Order}

@[simp] theorem map_id_fill {orders} : (update id (Order.fill units) orders).map Order.id = orders.map Order.id :=
  map_id_update fun _ => Order.fill_id

variable {makers : List Order} {maker : Order}

theorem BestMaker.spec (best : BestMaker makers taker maker) : maker ∈ makers ∧ maker.opposes taker = true := by
  have member := List.mem_of_mem_head? best.oldest
  rw [List.mem_filter, Bool.and_eq_true] at member
  exact ⟨member.1, member.2.1⟩

theorem BestMaker.units_bounds (best : BestMaker makers taker maker)
    (sound : ∀ order ∈ makers, order.Sound) (wanting : 0 < taker.remainingUnits) :
    0 < fillUnits taker maker ∧ fillUnits taker maker ≤ taker.remainingUnits ∧ fillUnits taker maker ≤ maker.remainingUnits := by
  obtain ⟨member, opposes⟩ := best.spec
  have resting : maker.isOpen = true := by
    simp only [Order.opposes, Bool.and_eq_true] at opposes
    exact opposes.1.1
  have left := (sound maker member).remaining_pos resting
  unfold fillUnits
  omega

theorem tradedUnits_append_one {past trade} : tradedUnits (past ++ [trade]) id = tradedUnits past id +
      if trade.makerOrderId = id ∨ trade.takerOrderId = id then trade.quantityUnits else 0 := by
  simp [tradedUnits]

theorem sound_update (sound : ∀ order ∈ makers, order.Sound) (nonneg : 0 ≤ units)
    (within : ∀ order ∈ makers, order.id = maker.id → units ≤ order.remainingUnits) :
    ∀ order ∈ update maker.id (Order.fill units) makers, order.Sound := by
  intro order member
  obtain ⟨before, beforeMember, rfl⟩ := mem_update.mp member
  split
  · next same => exact (sound before beforeMember).fill nonneg (within before beforeMember same)
  · exact sound before beforeMember

namespace PriceTime

variable {makers final : List Order} {taker finalTaker : Order} {trades : List Trade}

section

variable (rule : PriceTime makers taker trades final finalTaker)
include rule

theorem ids : final.map Order.id = makers.map Order.id ∧ finalTaker.id = taker.id := by
  induction rule with
  | stop => exact ⟨rfl, rfl⟩
  | trade _ _ _ _ ih =>
    rw [map_id_fill] at ih
    exact ih

theorem taker_terms : finalTaker.terms = taker.terms := by
  induction rule with
  | stop => rfl
  | trade _ _ _ _ ih => exact ih

theorem taker_instrumentId : finalTaker.instrumentId = taker.instrumentId := by
  have terms := rule.taker_terms
  simp only [Order.terms, Order.mk.injEq] at terms
  exact terms.2.1

theorem taker_not_cancelled (alive : taker.status ≠ .cancelled) : finalTaker.status ≠ .cancelled := by
  induction rule with
  | stop => exact alive
  | trade _ _ _ _ ih =>
    apply ih
    rw [Order.fill_status]
    split <;> simp

section

variable (distinct : (makers.map Order.id).Nodup)
include distinct

theorem origin {order : Order} (member : order ∈ final) : ∃ before ∈ makers, order.terms = before.terms ∧
      (order.isOpen = true → before.isOpen = true) := by
  induction rule with
  | stop => exact ⟨order, member, rfl, id⟩
  | @trade _ _ _ _ _ _ _ _ best _ ih =>
    obtain ⟨_, middleMember, terms, stays⟩ := ih (by rw [map_id_fill]; exact distinct) member
    obtain ⟨before, beforeMember, rfl⟩ := mem_update.mp middleMember
    obtain ⟨makerMember, opposes⟩ := best.spec
    refine ⟨before, beforeMember, ?_, ?_⟩
    · rw [terms]
      split <;> simp
    · intro resting
      have restingBefore := stays resting
      split at restingBefore
      · next own =>
        have same := List.inj_on_of_nodup_map distinct beforeMember makerMember own
        simp only [Order.opposes, Bool.and_eq_true] at opposes
        rw [same]
        exact opposes.1.1
      · exact restingBefore

theorem sound (makersSound : ∀ order ∈ makers, order.Sound) (takerSound : taker.Sound) :
    (∀ order ∈ final, order.Sound) ∧ finalTaker.Sound := by
  induction rule with
  | stop => exact ⟨makersSound, takerSound⟩
  | @trade _ _ _ _ _ _ _ wanting best _ ih =>
    obtain ⟨positive, takerRoom, makerRoom⟩ := best.units_bounds makersSound wanting
    apply ih
    · rw [map_id_fill]
      exact distinct
    · apply sound_update makersSound (Int.le_of_lt positive)
      intro order member same
      rw [List.inj_on_of_nodup_map distinct member best.spec.1 same]
      exact makerRoom
    · exact takerSound.fill (Int.le_of_lt positive) takerRoom

theorem total_trades : total Trade.quantityUnits trades = finalTaker.filledUnits - taker.filledUnits ∧
      total Trade.quantityUnits trades = total Order.filledUnits final - total Order.filledUnits makers := by
  induction rule with
  | stop => simp
  | @trade _ _ taker maker _ _ _ _ best _ ih =>
    obtain ⟨byTaker, _⟩ := ih (by rw [map_id_fill]; exact distinct)
    have gained := total_update Order.filledUnits (Order.fill (fillUnits taker maker)) distinct best.spec.1
    rw [Order.fill_filledUnits] at byTaker gained
    simp only [total_cons]
    omega

theorem tradedUnits_eq (fresh : taker.id ∉ makers.map Order.id) {past}
    (makersTraded : ∀ order ∈ makers, order.filledUnits = tradedUnits past order.id)
    (takerTraded : taker.filledUnits = tradedUnits past taker.id) :
    (∀ order ∈ final, order.filledUnits = tradedUnits (past ++ trades) order.id) ∧
      finalTaker.filledUnits = tradedUnits (past ++ trades) finalTaker.id := by
  induction rule generalizing past with
  | stop =>
    rw [List.append_nil]
    exact ⟨makersTraded, takerTraded⟩
  | @trade _ _ taker _ _ _ _ _ _ _ ih =>
    rw [List.append_cons]
    apply ih
    · rw [map_id_fill]
      exact distinct
    · rw [map_id_fill]
      exact fresh
    · intro order member
      obtain ⟨before, beforeMember, rfl⟩ := mem_update.mp member
      have counted := makersTraded before beforeMember
      have others : taker.id ≠ before.id := fun same =>
        fresh (same ▸ List.mem_map.mpr ⟨before, beforeMember, rfl⟩)
      split
      · next own => simp [tradedUnits_append_one, counted, own]
      · next other => simp [tradedUnits_append_one, counted, others, Ne.symm other]
    · simp [tradedUnits_append_one, takerTraded]

end

theorem names {trade : Trade} (member : trade ∈ trades) :
    trade.makerOrderId ∈ makers.map Order.id ∧ trade.takerOrderId = taker.id := by
  induction rule with
  | stop => cases member
  | @trade _ _ _ maker _ _ _ _ best _ ih =>
    rw [map_id_fill] at ih
    rcases List.mem_cons.mp member with rfl | later
    · exact ⟨List.mem_map.mpr ⟨maker, best.spec.1, rfl⟩, rfl⟩
    · exact ih later

theorem elsewhere (distinct : (makers.map Order.id).Nodup) {instrument} (other : taker.instrumentId ≠ instrument) :
    final.filter (fun order => order.instrumentId = instrument) = makers.filter fun order => order.instrumentId = instrument := by
  induction rule with
  | stop => rfl
  | @trade _ _ _ _ _ _ _ _ best _ ih =>
    obtain ⟨makerMember, opposes⟩ := best.spec
    simp only [Order.opposes, Bool.and_eq_true, decide_eq_true_eq] at opposes
    rw [ih (by rw [map_id_fill]; exact distinct) other]
    apply filter_update
    intro order member same
    rw [List.inj_on_of_nodup_map distinct member makerMember same]
    simp [opposes.1.2, other]

theorem stopped : finalTaker.remainingUnits ≤ 0 ∨ ∀ maker ∈ final, maker.opposes finalTaker = true →
      ¬finalTaker.admits maker.limitPriceMinorUnits := by
  induction rule with
  | stop done => exact done
  | trade _ _ _ _ ih => exact ih

/-- The rule leaves no crossed orders behind: a taker that stays open met no price within
its limit. -/
theorem uncrossed (distinct : (makers.map Order.id).Nodup) (takerSound : finalTaker.Sound)
    (before : Uncrossed makers) : Uncrossed (final ++ [finalTaker]) := by
  have beyond : finalTaker.isOpen = true → ∀ maker ∈ final, maker.opposes finalTaker = true →
      ¬finalTaker.admits maker.limitPriceMinorUnits := by
    intro resting
    have left := takerSound.remaining_pos resting
    exact rule.stopped.resolve_left (Int.not_le.mpr left)
  intro bid bidMember ask askMember bidOpen askOpen bidSide askSide same
  rcases mem_concat.mp bidMember with bidEarlier | rfl
  · rcases mem_concat.mp askMember with askEarlier | rfl
    · obtain ⟨bidBefore, bidBeforeMember, bidTerms, bidStays⟩ := rule.origin distinct bidEarlier
      obtain ⟨askBefore, askBeforeMember, askTerms, askStays⟩ := rule.origin distinct askEarlier
      simp only [Order.terms, Order.mk.injEq] at bidTerms askTerms
      rw [bidTerms.2.2.2.2.1, askTerms.2.2.2.2.1]
      apply before bidBefore bidBeforeMember askBefore askBeforeMember (bidStays bidOpen) (askStays askOpen)
      · rw [← bidTerms.2.2.2.1, bidSide]
      · rw [← askTerms.2.2.2.1, askSide]
      · rw [← bidTerms.2.1, ← askTerms.2.1, same]
    · have outside := beyond askOpen bid bidEarlier (by simp [Order.opposes, bidOpen, same, bidSide, askSide, Side.opposite])
      simp only [Order.admits, askSide, Side.within] at outside
      omega
  · rcases mem_concat.mp askMember with askEarlier | rfl
    · have outside := beyond bidOpen ask askEarlier (by simp [Order.opposes, askOpen, same, bidSide, askSide, Side.opposite])
      simp only [Order.admits, bidSide, Side.within] at outside
      omega
    · rw [bidSide] at askSide
      cases askSide

end

end PriceTime

end Blazil.Trading
