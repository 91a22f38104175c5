import Blazil.Trading.Book

/-! The loop of `Match` follows price-time priority: turn by turn, the book is searched for
the maker that the rule names, and the loop is left when the rule stops. -/

set_option autoImplicit false

namespace Blazil.Trading

open Foundation

theorem min64_eq (first second : Int) : min64 first second = min first second := by
  unfold min64
  split <;> omega

variable {rest : List PriceLevel} {level : PriceLevel}

theorem firstOrderAtLevel_first {orders} (nonempty : level.items ≠ []) :
    firstOrderAtLevel (snapshotLevels orders (level :: rest)) (ordersAtPrice (level :: rest)) level.key = level.items.head? := by
  obtain ⟨_, _, same⟩ := List.exists_cons_of_ne_nil nonempty
  simp [firstOrderAtLevel, snapshotLevels, ordersAtPrice, same]

section Search

variable {orders makers : List Order} {book : Book} {taker : Order}

theorem best_nil {side : Side} (empty : book.levels side = []) : book.best side = none := by
  simp [Book.best, empty]

theorem bestMatchingLevel_nil (empty : book.levels taker.side.opposite = []) : bestMatchingLevel orders book taker = none := by
  unfold bestMatchingLevel
  cases side : taker.side with rw [side] at empty
  | buy =>
    have noAsk : book.bestAsk = none := best_nil empty
    rw [noAsk]
  | sell =>
    have noBid : book.bestBid = none := best_nil empty
    rw [noBid]

/-- The search for a maker looks at the first level of the other side only. -/
theorem bestMatchingLevel_cons
    (levels : book.levels taker.side.opposite = level :: rest) (nonempty : level.items ≠ []) :
    bestMatchingLevel orders book taker = if taker.admits level.key then level.items.head? else none := by
  have first : firstOrderAtLevel (snapshotLevels orders (level :: rest))
      (ordersAtPrice (level :: rest)) level.key = level.items.head? :=
    firstOrderAtLevel_first nonempty
  unfold bestMatchingLevel
  cases side : taker.side with rw [side] at levels
  | buy =>
    have asks : book.asks = level :: rest := levels
    have best : book.bestAsk = some level.key := by
      simp [Book.bestAsk, Book.best, Book.levels, asks]
    have within : taker.admits level.key ↔ ¬level.key > taker.limitPriceMinorUnits := by
      simp [Order.admits, Side.within, side]
    have oldest : firstOrderAtAskLevel orders book level.key = level.items.head? := by
      rw [← first, ← asks]
      rfl
    simp only [best, oldest, within, ite_not]
  | sell =>
    have bids : book.bids = level :: rest := levels
    have best : book.bestBid = some level.key := by
      simp [Book.bestBid, Book.best, Book.levels, bids]
    have within : taker.admits level.key ↔ ¬level.key < taker.limitPriceMinorUnits := by
      simp [Order.admits, Side.within, side]
    have oldest : firstOrderAtBidLevel orders book level.key = level.items.head? := by
      rw [← first, ← bids]
      rfl
    simp only [best, oldest, within, ite_not]

theorem Side.within_of_not_before {side : Side} {limit price first : Int} (within : side.within limit price)
    (reached : ¬side.opposite.before price first) : side.within limit first := by
  cases side with
  | buy | sell =>
    simp only [Side.within, Side.opposite, Side.before] at within reached ⊢
    omega

theorem opposing_entry {maker : Order} (member : maker ∈ makers) (opposes : maker.opposes taker = true) :
    (maker.limitPriceMinorUnits, maker.id) ∈ restingEntries makers taker.instrumentId taker.side.opposite :=
  mem_restingEntries.mpr ⟨maker, member, opposes, rfl⟩

theorem bestMatchingLevel_none (represents : book.Represents makers taker.instrumentId)
    (failed : bestMatchingLevel orders book taker = none) {maker : Order} (member : maker ∈ makers)
    (opposes : maker.opposes taker = true) : ¬taker.admits maker.limitPriceMinorUnits := by
  intro admitted
  have denotes := represents.levels taker.side.opposite
  cases levels : book.levels taker.side.opposite with rw [levels] at denotes
  | nil =>
    have entry := opposing_entry member opposes
    rw [denotes.entries_nil] at entry
    cases entry
  | cons level =>
    have nonempty := denotes.nonempty level List.mem_cons_self
    have reached := denotes.first (opposing_entry member opposes)
    have firstAdmitted : taker.admits level.key :=
      Side.within_of_not_before admitted reached
    rw [bestMatchingLevel_cons levels nonempty, if_pos firstAdmitted, List.head?_eq_none_iff] at failed
    exact nonempty failed

theorem bestMatchingLevel_some (represents : book.Represents makers taker.instrumentId) {id : OrderId}
    (found : bestMatchingLevel orders book taker = some id) : ∃ maker, maker.id = id ∧ BestMaker makers taker maker := by
  have denotes := represents.levels taker.side.opposite
  cases levels : book.levels taker.side.opposite with
  | nil =>
    rw [bestMatchingLevel_nil levels] at found
    cases found
  | cons level =>
    rw [levels] at denotes
    rw [bestMatchingLevel_cons levels (denotes.nonempty level List.mem_cons_self)] at found
    split at found
    · next admitted =>
      have items : level.items = (makers.filter fun order =>
          order.opposes taker && order.limitPriceMinorUnits = level.key).map Order.id := by
        rw [denotes.items level List.mem_cons_self]
        unfold Level.ofKey restingEntries
        rw [List.filter_map, List.filter_filter, List.map_map]
        apply congrArg (List.map Order.id)
        apply List.filter_congr
        intro order _
        exact Bool.and_comm _ _
      rw [items, List.head?_map, Option.map_eq_some_iff] at found
      obtain ⟨maker, oldest, same⟩ := found
      have price : maker.limitPriceMinorUnits = level.key := by
        have member := List.mem_of_mem_head? oldest
        rw [List.mem_filter, Bool.and_eq_true, decide_eq_true_eq] at member
        exact member.2.2
      rw [← price] at oldest admitted
      refine ⟨maker, same, oldest, ?_, admitted⟩
      intro other member opposes
      rw [price]
      exact denotes.first (opposing_entry member opposes)
    · cases found

end Search

/-- The state of the loop, while the earlier orders and the taker are as described. -/
structure Matching (makers : List Order) (taker : Order) (state : MatchState) : Prop where
  orders : state.orders = makers ++ [taker]
  book : state.book.Represents makers taker.instrumentId
  distinct : (makers.map Order.id).Nodup
  fresh : ∀ order ∈ makers, order.id ≠ taker.id
  sound : ∀ order ∈ makers, order.Sound

def Matching.Ends (described : List Order × Order) (state result : MatchState) : Prop :=
  ∃ trades final finalTaker, result.trades = state.trades ++ trades ∧
    PriceTime described.1 described.2 trades final finalTaker ∧ Matching final finalTaker result

namespace Matching

variable {makers : List Order} {taker maker : Order} {state : MatchState}

section

variable (matching : Matching makers taker state)
include matching

section

variable (best : BestMaker makers taker maker)
include best

theorem trade_orders : (state.trade taker maker).orders = update maker.id (Order.fill (fillUnits taker maker)) makers ++
        [taker.fill (fillUnits taker maker)] := by
  have makerMember := best.spec.1
  have different : taker.id ≠ maker.id := (matching.fresh maker makerMember).symm
  have kept : ∀ order ∈ update maker.id (Order.fill (fillUnits taker maker)) makers, order.id ≠ taker.id := by
    intro order member
    obtain ⟨before, beforeMember, rfl⟩ := mem_update.mp member
    split
    · exact matching.fresh before beforeMember
    · exact matching.fresh before beforeMember
  -- The status is set from the maker that was found, which is the only one with its id.
  have filled : update maker.id (Order.setStatus (if maker.quantityUnits ≤ maker.filledUnits + fillUnits taker maker then .filled
        else .partlyFilled))
      (update maker.id (Order.addFilled (fillUnits taker maker)) makers) =
        update maker.id (Order.fill (fillUnits taker maker)) makers := by
    rw [update_update _ _ (Order.addFilled_id (fillUnits taker maker))]
    apply update_congr
    intro order member same
    rw [List.inj_on_of_nodup_map matching.distinct member makerMember same]
    rfl
  simp only [MatchState.trade, matching.orders, min64_eq]
  rw [update_append_other different, update_append_other different]
  rw [show min taker.remainingUnits maker.remainingUnits = fillUnits taker maker from rfl, filled]
  exact update_append_own kept

theorem trade_book : (state.trade taker maker).book.Represents
      (update maker.id (Order.fill (fillUnits taker maker)) makers) taker.instrumentId := by
  obtain ⟨makerMember, opposes⟩ := best.spec
  simp only [Order.opposes, Bool.and_eq_true, decide_eq_true_eq] at opposes
  obtain ⟨⟨resting, own⟩, _⟩ := opposes
  have different : taker.id ≠ maker.id := (matching.fresh maker makerMember).symm
  simp only [MatchState.trade, matching.orders, min64_eq]
  rw [update_append_other different, show min taker.remainingUnits maker.remainingUnits = fillUnits taker maker from rfl]
  split
  · next full =>
    have found : lookup (update maker.id (Order.addFilled (fillUnits taker maker)) makers ++
        [taker]) maker.id = some (maker.addFilled (fillUnits taker maker)) :=
      lookup_append (lookup_update (Order.addFilled_id _) (lookup_of_mem matching.distinct makerMember))
    have closes : (maker.fill (fillUnits taker maker)).isOpen = false := by
      rw [← Bool.not_eq_true, Order.isOpen_fill_iff]
      exact Int.not_lt.mpr full
    obtain ⟨_, cancelled, represents⟩ := matching.book.cancel matching.distinct makerMember
      resting own found rfl resting closes
    rw [cancelled]
    exact represents
  · next left =>
    refine matching.book.update_same (fun _ => Order.fill_terms) ?_
    intro order member same
    rw [List.inj_on_of_nodup_map matching.distinct member makerMember same, resting, Order.isOpen_fill_iff]
    exact Int.not_le.mp left

theorem trade (wanting : 0 < taker.remainingUnits) : Matching (update maker.id (Order.fill (fillUnits taker maker)) makers)
      (taker.fill (fillUnits taker maker)) (state.trade taker maker) := by
  obtain ⟨positive, _, makerRoom⟩ := best.units_bounds matching.sound wanting
  refine ⟨matching.trade_orders best, matching.trade_book best, ?_, ?_, ?_⟩
  · rw [map_id_fill]
    exact matching.distinct
  · intro order member
    obtain ⟨before, beforeMember, rfl⟩ := mem_update.mp member
    split
    · exact matching.fresh before beforeMember
    · exact matching.fresh before beforeMember
  · apply sound_update matching.sound (Int.le_of_lt positive)
    intro order member same
    rw [List.inj_on_of_nodup_map matching.distinct member best.spec.1 same]
    exact makerRoom

end

theorem lookup_taker : lookup state.orders taker.id = some taker := by
  rw [matching.orders]
  exact lookup_append_new matching.fresh

theorem turn_none (left : MatchState.turn taker.id state = none) :
    taker.remainingUnits ≤ 0 ∨ ∀ maker ∈ makers, maker.opposes taker = true → ¬taker.admits maker.limitPriceMinorUnits := by
  simp only [MatchState.turn, matching.lookup_taker] at left
  split at left
  · next wanting =>
    refine .inr fun maker member opposes => ?_
    cases searched : bestMatchingLevel state.orders state.book taker with
    | none => exact bestMatchingLevel_none matching.book searched member opposes
    | some =>
      obtain ⟨found, rfl, best⟩ := bestMatchingLevel_some matching.book searched
      have known : lookup state.orders found.id = some found := by
        rw [matching.orders]
        exact lookup_append (lookup_of_mem matching.distinct best.spec.1)
      simp only [searched, Option.bind_some, known] at left
      cases left
  · next done => exact .inl (Int.not_lt.mp done)

theorem turn_some {next} (taken : MatchState.turn taker.id state = some next) :
    0 < taker.remainingUnits ∧ ∃ maker, BestMaker makers taker maker ∧ next = state.trade taker maker := by
  simp only [MatchState.turn, matching.lookup_taker] at taken
  split at taken
  · next wanting =>
    refine ⟨wanting, ?_⟩
    cases searched : bestMatchingLevel state.orders state.book taker with
    | none =>
      simp only [searched, Option.bind_none] at taken
      cases taken
    | some =>
      obtain ⟨found, rfl, best⟩ := bestMatchingLevel_some matching.book searched
      have known : lookup state.orders found.id = some found := by
        rw [matching.orders]
        exact lookup_append (lookup_of_mem matching.distinct best.spec.1)
      simp only [searched, Option.bind_some, known, Option.some.injEq] at taken
      exact ⟨found, best, taken.symm⟩
  · cases taken

/-- The loop is left, and its trades are those of the rule. Every turn trades at least one
unit, which bounds the number of turns. -/
theorem runLoop_ends {turns : Nat} (enough : taker.remainingUnits.toNat < turns) :
    ∃ result, runLoop (MatchState.turn taker.id) turns state = some result ∧ Ends (makers, taker) state result := by
  refine runLoop_refines (fun described state => Matching described.1 described.2 state ∧ described.2.id = taker.id)
    (fun described => described.2.remainingUnits.toNat) Ends ?_ ?_ ⟨matching, rfl⟩ enough
  · intro described state inStep left
    obtain ⟨matching, same⟩ := inStep
    rw [← same] at left
    exact ⟨[], _, _, (List.append_nil _).symm, .stop (matching.turn_none left), matching⟩
  · intro described state next inStep taken
    obtain ⟨matching, same⟩ := inStep
    rw [← same] at taken
    obtain ⟨wanting, maker, best, rfl⟩ := matching.turn_some taken
    obtain ⟨_, _⟩ := best.units_bounds matching.sound wanting
    have less := described.2.fill_remainingUnits (fillUnits described.2 maker)
    refine ⟨(update maker.id (Order.fill (fillUnits described.2 maker)) described.1,
      described.2.fill (fillUnits described.2 maker)), ⟨matching.trade best wanting, same⟩, ?_, ?_⟩
    · dsimp only
      omega
    · intro result ends
      obtain ⟨_, final, finalTaker, traded, rule, ended⟩ := ends
      refine ⟨_, final, finalTaker, ?_,
        .trade ("trade-" ++ toString (state.tradeId + 1)) wanting best rule, ended⟩
      rw [traded, MatchState.trade, min64_eq]
      exact (List.append_cons _ _ _).symm

end

end Matching

end Blazil.Trading
