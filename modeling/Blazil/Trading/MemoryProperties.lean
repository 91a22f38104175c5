import Blazil.Trading.SharedBook

/-! What holds of the objects, the map and the books as long as no two objects have one id:
an order rests at most once, in the book of its instrument, and only while it is open. -/

set_option autoImplicit false

namespace Blazil.Trading

open Foundation

variable {instrument : InstrumentId} {ref : Ref} {order : Order}

/-- Fields that place an order and never change. -/
structure Order.SamePlace (first second : Order) : Prop where
  id : first.id = second.id
  instrumentId : first.instrumentId = second.instrumentId
  side : first.side = second.side
  price : first.limitPriceMinorUnits = second.limitPriceMinorUnits

theorem Order.samePlace_addFilled (units : Int) (order : Order) : (order.addFilled units).SamePlace order := ⟨rfl, rfl, rfl, rfl⟩

theorem Order.samePlace_setStatus (status : OrderStatus) (order : Order) :
    (order.setStatus status).SamePlace order := ⟨rfl, rfl, rfl, rfl⟩

theorem Order.samePlace_fill (units : Int) (order : Order) : (order.fill units).SamePlace order := ⟨rfl, rfl, rfl, rfl⟩

variable {id : OrderId}

namespace SharedBook

variable (book : SharedBook)

theorem levels_setLevels (changed side : Side) (levels : List (Level Int Ref)) : (book.setLevels changed levels).levels side =
      if side = changed then levels else book.levels side := by
  cases changed <;> cases side <;> rfl

@[simp] theorem levels_setIndex (id : OrderId) (ref : Option Ref) (side : Side) :
    (book.setIndex id ref).levels side = book.levels side := by
  cases side <;> rfl

@[simp] theorem orderIndex_setLevels (side : Side) (levels : List (Level Int Ref)) :
    (book.setLevels side levels).orderIndex = book.orderIndex := by
  cases side <;> rfl

@[simp] theorem orderIndex_setIndex (id other : OrderId) (ref : Option Ref) : (book.setIndex id ref).orderIndex other =
      if other = id then ref else book.orderIndex other := rfl

def entries (side : Side) : List (Int × Ref) := Level.entries (book.levels side)

variable {book} {later : SharedBook}

theorem cancel_ok {objects} (cancelled : book.cancel objects id = .ok later) :
    ∃ ref order, book.orderIndex id = some ref ∧ objects[ref]? = some order ∧
      (∀ side, later.levels side = if side = order.side then
        removeFromLevels objects (book.levels side) order else book.levels side) ∧
      ∀ other, later.orderIndex other = if other = id then none else book.orderIndex other := by
  unfold SharedBook.cancel at cancelled
  split at cancelled
  · cases cancelled
  · next order found =>
    obtain ⟨ref, index, object⟩ := Option.bind_eq_some_iff.mp found
    split at cancelled
    · have made := Except.ok.inj cancelled
      refine ⟨ref, order, index, object, ?_, ?_⟩
      · intro side
        rw [← made, levels_setIndex, levels_setLevels]
        split
        · next same => rw [same]
        · rfl
      · intro other
        rw [← made, orderIndex_setIndex, orderIndex_setLevels]
    · cases cancelled

theorem add_ok {order : Order}
    (added : book.add ref order = .ok later) : book.orderIndex order.id = none ∧ (later.entries order.side).Perm
        ((order.limitPriceMinorUnits, ref) :: book.entries order.side) ∧
      (∀ side, side ≠ order.side → later.entries side = book.entries side) ∧ ∀ other, later.orderIndex other =
        if other = order.id then some ref else book.orderIndex other := by
  unfold SharedBook.add at added
  split at added
  · cases added
  · next unknown =>
    have made := Except.ok.inj added
    refine ⟨Option.not_isSome_iff_eq_none.mp unknown, ?_, ?_, ?_⟩
    · rw [← made, entries, levels_setLevels, if_pos rfl, levels_setIndex]
      exact Level.entries_insertItem _ _ _ _
    · intro side different
      rw [← made, entries, levels_setLevels, if_neg different, levels_setIndex]
      rfl
    · intro other
      rw [← made, orderIndex_setLevels, orderIndex_setIndex]

theorem bestMatchingLevel_mem {taker : Order} (found : book.bestMatchingLevel taker = some ref) :
    ∃ side price, (price, ref) ∈ book.entries side := by
  have first : ∀ {side : Side} {price : Int}, book.firstOrderAtLevel side price = some ref →
      ∃ side price, (price, ref) ∈ book.entries side := by
    intro side price found
    obtain ⟨_, _, chosen⟩ := List.exists_of_findSome?_eq_some found
    split at chosen
    · unfold ordersAtPrice at chosen
      cases hit : (book.levels side).find? fun level => level.key = price with rw [hit] at chosen
      | none =>
        cases chosen
      | some level =>
        exact ⟨side, level.key, Level.mem_entries.mpr ⟨level, List.mem_of_find?_eq_some hit, rfl, List.mem_of_mem_head? chosen⟩⟩
    · cases chosen
  unfold bestMatchingLevel at found
  split at found
  · split at found
    · cases found
    · split at found
      · cases found
      · exact first found
  · split at found
    · cases found
    · split at found
      · cases found
      · exact first found

end SharedBook

def UniqueIds (objects : List Order) : Prop :=
  ∀ (ref other : Ref) (order another : Order), objects[ref]? = some order →
    objects[other]? = some another → order.id = another.id → ref = other

/-- The book of an instrument and the objects belong together. -/
structure SharedBook.Fits (book : SharedBook) (objects : List Order) (instrument : InstrumentId) : Prop where
  resting : ∀ side price ref, (price, ref) ∈ book.entries side →
    ∃ order, objects[ref]? = some order ∧ order.instrumentId = instrument ∧ order.side = side ∧
      order.limitPriceMinorUnits = price ∧ order.isOpen = true ∧
      book.orderIndex order.id = some ref
  once : ∀ side, (book.entries side).Nodup
  indexed : ∀ id ref, book.orderIndex id = some ref → ∃ order, objects[ref]? = some order ∧ order.id = id

namespace SharedBook.Fits

variable {book later : SharedBook} {objects : List Order}

theorem new : SharedBook.new.Fits objects instrument where
  resting := by
    intro side price ref member
    cases side <;> cases member
  once := by
    intro side
    cases side <;> exact List.nodup_nil
  indexed := by
    intro id ref found
    cases found

section

variable (fits : book.Fits objects instrument)
include fits

variable {price : Int} {side : Side}

section

variable (unique : UniqueIds objects)
include unique

theorem selects_iff (object : objects[ref]? = some order)
    {other : Ref} (member : (price, other) ∈ book.entries side) :
    (decide (objects[other]?.map Order.id = some order.id) = true ↔ other = ref) := by
  obtain ⟨another, anotherObject, _⟩ := fits.resting _ _ other member
  rw [anotherObject, Option.map_some, decide_eq_true_eq, Option.some.injEq]
  constructor
  · intro sameId
    exact unique other ref another order anotherObject object sameId
  · rintro rfl
    rw [entry_unique object anotherObject]

/-- An order is queued at its own side and price or not at all, so its removal is complete. -/
theorem removed (object : objects[ref]? = some order) (price : Int) :
    (price, ref) ∉ Level.entries (removeFromLevels objects (book.levels order.side) order) := by
  intro member
  have entered : (price, ref) ∈ book.entries order.side :=
    (Level.entries_removeWhere_sublist _ _ _).subset member
  obtain ⟨_, restingObject, _, _, samePrice, _⟩ := fits.resting _ price ref entered
  obtain rfl := entry_unique object restingObject
  subst samePrice
  have moved := Level.entries_removeWhere entered fun other => fits.selects_iff unique object
  exact (List.nodup_cons.mp (moved.nodup_iff.mpr (fits.once order.side))).1 member

theorem cancel (cancelled : book.cancel objects id = .ok later) :
    later.Fits objects instrument ∧ (∀ side, (later.entries side).Sublist (book.entries side)) ∧
      ∃ ref order, objects[ref]? = some order ∧ order.id = id ∧ ∀ side price, (price, ref) ∉ later.entries side := by
  obtain ⟨ref, order, index, object, laterLevels, laterIndex⟩ := cancel_ok cancelled
  obtain ⟨_, sameObject, own⟩ := fits.indexed id ref index
  obtain rfl := entry_unique object sameObject
  have fewer : ∀ side, (later.entries side).Sublist (book.entries side) := by
    intro side
    rw [entries, laterLevels]
    split
    · exact Level.entries_removeWhere_sublist _ _ _
    · exact List.Sublist.refl _
  have gone : ∀ side price, (price, ref) ∉ later.entries side := by
    intro side price member
    obtain ⟨_, restingObject, _, sameSide, _⟩ :=
      fits.resting side price ref ((fewer side).subset member)
    obtain rfl := entry_unique object restingObject
    rw [entries, laterLevels, if_pos sameSide.symm, ← sameSide] at member
    exact fits.removed unique object price member
  refine ⟨⟨?_, ?_, ?_⟩, fewer, ref, order, object, own, gone⟩
  · intro side price other member
    obtain ⟨another, anotherObject, placed, sameSide, samePrice, opened, indexed⟩ :=
      fits.resting side price other ((fewer side).subset member)
    refine ⟨another, anotherObject, placed, sameSide, samePrice, opened, ?_⟩
    rw [laterIndex, if_neg, indexed]
    intro sameId
    obtain rfl := unique other ref another order anotherObject object (sameId.trans own.symm)
    exact gone side price member
  · exact fun side => (fits.once side).sublist (fewer side)
  · intro other otherRef found
    rw [laterIndex] at found
    split at found
    · cases found
    · exact fits.indexed other otherRef found

end

theorem cancel_succeeds (member : (price, ref) ∈ book.entries side)
    (object : objects[ref]? = some order) : ∃ later, book.cancel objects order.id = .ok later := by
  obtain ⟨_, restingObject, _, _, _, opened, indexed⟩ := fits.resting side price ref member
  obtain rfl := entry_unique object restingObject
  have found : ((book.orderIndex order.id).bind fun ref => objects[ref]?) = some order := by
    rw [indexed, Option.bind_some, object]
  unfold SharedBook.cancel
  rw [found]
  exact ⟨_, if_pos opened⟩

theorem add (object : objects[ref]? = some order) (placed : order.instrumentId = instrument)
    (opened : order.isOpen = true) (fresh : ∀ side price, (price, ref) ∉ book.entries side)
    (added : book.add ref order = .ok later) : later.Fits objects instrument := by
  obtain ⟨unknown, moved, otherSide, laterIndex⟩ := add_ok added
  have origin : ∀ side price other, (price, other) ∈ later.entries side →
      (side = order.side ∧ price = order.limitPriceMinorUnits ∧ other = ref) ∨ (price, other) ∈ book.entries side := by
    intro side price other member
    by_cases same : side = order.side
    · rw [same] at member ⊢
      rcases List.mem_cons.mp (moved.mem_iff.mp member) with new | earlier
      · obtain ⟨samePrice, sameRef⟩ := Prod.mk.inj new
        exact .inl ⟨rfl, samePrice, sameRef⟩
      · exact .inr earlier
    · rw [otherSide side same] at member
      exact .inr member
  refine ⟨?_, ?_, ?_⟩
  · intro side price other member
    rcases origin side price other member with ⟨rfl, rfl, rfl⟩ | earlier
    · exact ⟨order, object, placed, rfl, rfl, opened, by rw [laterIndex, if_pos rfl]⟩
    · obtain ⟨another, anotherObject, anotherPlaced, sameSide, samePrice, anotherOpen,
        indexed⟩ := fits.resting side price other earlier
      refine ⟨another, anotherObject, anotherPlaced, sameSide, samePrice, anotherOpen, ?_⟩
      rw [laterIndex, if_neg, indexed]
      intro sameId
      rw [sameId, unknown] at indexed
      cases indexed
  · intro side
    by_cases same : side = order.side
    · rw [same]
      exact moved.nodup_iff.mpr (List.nodup_cons.mpr ⟨fresh _ _, fits.once _⟩)
    · rw [otherSide side same]
      exact fits.once side
  · intro id other found
    rw [laterIndex] at found
    split at found
    · next own =>
      obtain rfl := Option.some.inj found
      exact ⟨order, object, own.symm⟩
    · exact fits.indexed id other found

theorem change {changed} (kept : ∀ ref order, objects[ref]? = some order → ∃ same, changed[ref]? = some same ∧
      same.SamePlace order ∧ ((∃ side price, (price, ref) ∈ book.entries side) → same.isOpen = true)) :
    book.Fits changed instrument where
  resting := by
    intro side price ref member
    obtain ⟨order, object, placed, sameSide, samePrice, _, indexed⟩ :=
      fits.resting side price ref member
    obtain ⟨same, sameObject, place, opened⟩ := kept ref order object
    exact ⟨same, sameObject, place.instrumentId.trans placed, place.side.trans sameSide,
      place.price.trans samePrice, opened ⟨side, price, member⟩, by rw [place.id, indexed]⟩
  once := fits.once
  indexed := by
    intro id ref found
    obtain ⟨order, object, own⟩ := fits.indexed id ref found
    obtain ⟨same, sameObject, place, _⟩ := kept ref order object
    exact ⟨same, sameObject, place.id.trans own⟩

end

end SharedBook.Fits

namespace Memory

/-- The map names every object, and every book fits. -/
structure Consistent (memory : Memory) : Prop where
  named : ∀ id ref, memory.orders id = some ref → ∃ order, memory.objects[ref]? = some order ∧ order.id = id
  mapped : ∀ (ref : Ref) order, memory.objects[ref]? = some order → memory.orders order.id = some ref
  books : ∀ instrument book, memory.books instrument = some book → book.Fits memory.objects instrument

theorem bookForInstrument_setBook (memory : Memory) (instrument other : InstrumentId)
    (book : SharedBook) : (memory.setBook instrument book).bookForInstrument other =
      if other = instrument then book else memory.bookForInstrument other := by
  unfold bookForInstrument setBook
  dsimp only
  split <;> rfl

def Rests (memory : Memory) (ref : Ref) : Prop :=
  ∃ instrument book side price, memory.books instrument = some book ∧ (price, ref) ∈ book.entries side

namespace Consistent

variable {memory : Memory}

theorem unique (consistent : Consistent memory) : UniqueIds memory.objects := by
  intro ref other order another object anotherObject same
  have first := consistent.mapped ref order object
  rw [same, consistent.mapped other another anotherObject] at first
  exact (Option.some.inj first).symm

theorem bookForInstrument (consistent : Consistent memory) (instrument : InstrumentId) :
    (memory.bookForInstrument instrument).Fits memory.objects instrument := by
  unfold Memory.bookForInstrument
  cases found : memory.books instrument with
  | none => exact SharedBook.Fits.new
  | some book => exact consistent.books instrument book found

theorem rests_bookForInstrument {side : Side} {price : Int}
    (member : (price, ref) ∈ (memory.bookForInstrument instrument).entries side) : memory.Rests ref := by
  unfold Memory.bookForInstrument at member
  cases found : memory.books instrument with rw [found] at member
  | none =>
    cases side <;> cases member
  | some book =>
    exact ⟨instrument, book, side, price, found, member⟩

section

variable (consistent : Consistent memory)
include consistent

theorem rests_iff (object : memory.objects[ref]? = some order) : memory.Rests ref ↔
      ∃ side price, (price, ref) ∈ (memory.bookForInstrument order.instrumentId).entries side := by
  constructor
  · rintro ⟨instrument, book, side, price, found, member⟩
    obtain ⟨_, restingObject, placed, _⟩ :=
      (consistent.books instrument book found).resting side price ref member
    obtain rfl := entry_unique object restingObject
    refine ⟨side, price, ?_⟩
    rw [placed, Memory.bookForInstrument, found]
    exact member
  · rintro ⟨_, _, member⟩
    exact rests_bookForInstrument member

theorem isOpen_of_rests (object : memory.objects[ref]? = some order)
    (rests : memory.Rests ref) : order.isOpen = true := by
  obtain ⟨instrument, book, side, price, found, member⟩ := rests
  obtain ⟨_, restingObject, _, _, _, opened, _⟩ :=
    (consistent.books instrument book found).resting side price ref member
  rw [entry_unique object restingObject]
  exact opened

theorem setBook {book} (fits : book.Fits memory.objects instrument) :
    Consistent (memory.setBook instrument book) where
  named := consistent.named
  mapped := consistent.mapped
  books := by
    intro other another found
    change (if other = instrument then some book else memory.books other) = some another at found
    split at found
    · next same =>
      obtain rfl := Option.some.inj found
      rw [same]
      exact fits
    · exact consistent.books other another found

end

theorem rests_setBook {book} (rests : (memory.setBook instrument book).Rests ref) :
    (∃ side price, (price, ref) ∈ book.entries side) ∨ memory.Rests ref := by
  obtain ⟨other, another, side, price, found, member⟩ := rests
  change (if other = instrument then some book else memory.books other) = some another at found
  split at found
  · obtain rfl := Option.some.inj found
    exact .inl ⟨side, price, member⟩
  · exact .inr ⟨other, another, side, price, found, member⟩

theorem objects_modify {other : Ref} (change : Order → Order) (object : memory.objects[other]? = some order) :
    (memory.modify ref change).objects[other]? = some (if ref = other then change order else order) := by
  change (memory.objects.modify ref change)[other]? = _
  rw [List.getElem?_modify, object]
  rfl

section

variable (consistent : Consistent memory)
include consistent

theorem modify {change} (place : ∀ order, (change order).SamePlace order)
    (opened : ∀ order, memory.objects[ref]? = some order → memory.Rests ref → (change order).isOpen = true) :
    Consistent (memory.modify ref change) where
  named := by
    intro id other found
    obtain ⟨order, object, own⟩ := consistent.named id other found
    refine ⟨_, objects_modify change object, ?_⟩
    split
    · rw [(place order).id, own]
    · exact own
  mapped := by
    intro other order object
    rcases entry_of_modify object with ⟨rfl, before, found, rfl⟩ | ⟨_, found⟩
    · rw [(place before).id]
      exact consistent.mapped _ before found
    · exact consistent.mapped other order found
  books := by
    intro instrument book found
    apply (consistent.books instrument book found).change
    intro other order object
    refine ⟨_, objects_modify change object, ?_, ?_⟩
    · split
      · exact place order
      · exact ⟨rfl, rfl, rfl, rfl⟩
    · rintro ⟨side, price, member⟩
      have rests : memory.Rests other := ⟨instrument, book, side, price, found, member⟩
      split
      · next same =>
        subst same
        exact opened order object rests
      · exact consistent.isOpen_of_rests object rests

theorem allocate (fresh : memory.orders order.id = none) :
    Consistent (memory.allocate order) ∧ ¬ (memory.allocate order).Rests memory.objects.length := by
  have kept : ∀ (ref : Ref) before, memory.objects[ref]? = some before → (memory.objects ++ [order])[ref]? = some before := by
    intro ref before found
    rw [List.getElem?_append_left (entry_lt found)]
    exact found
  refine ⟨⟨?_, ?_, ?_⟩, ?_⟩
  · intro id ref found
    change (if id = order.id then some memory.objects.length else memory.orders id) = some ref
      at found
    split at found
    · next own =>
      obtain rfl := Option.some.inj found
      exact ⟨order, List.getElem?_concat_length, own.symm⟩
    · obtain ⟨before, object, own⟩ := consistent.named id ref found
      exact ⟨before, kept ref before object, own⟩
  · intro ref before object
    change (if before.id = order.id then some memory.objects.length else memory.orders before.id) =
      some ref
    rcases entry_of_concat object with ⟨_, earlier⟩ | ⟨rfl, rfl⟩
    · have mapped := consistent.mapped ref before earlier
      rw [if_neg, mapped]
      intro same
      rw [same, fresh] at mapped
      cases mapped
    · rw [if_pos rfl]
  · intro instrument book found
    apply (consistent.books instrument book found).change
    intro ref before object
    refine ⟨before, kept ref before object, ⟨rfl, rfl, rfl, rfl⟩, ?_⟩
    rintro ⟨side, price, member⟩
    exact consistent.isOpen_of_rests object ⟨instrument, book, side, price, found, member⟩
  · rintro ⟨instrument, book, side, price, found, member⟩
    obtain ⟨_, object, _⟩ :=
      (consistent.books instrument book found).resting side price _ member
    have inside := entry_lt object
    exact absurd inside (Nat.lt_irrefl _)

theorem rest (object : memory.objects[ref]? = some order) (opened : order.isOpen = true)
    (fresh : ¬ memory.Rests ref) : Consistent (memory.rest ref order) := by
  have fits := consistent.bookForInstrument order.instrumentId
  apply consistent.setBook
  split
  · next added =>
    apply fits.add object rfl opened _ added
    intro side price member
    exact fresh ((consistent.rests_iff object).mpr ⟨side, price, member⟩)
  · exact fits

theorem cancel {later} (object : memory.objects[ref]? = some order)
    (own : order.id = id) (placed : order.instrumentId = instrument)
    (cancelled : (memory.bookForInstrument instrument).cancel memory.objects id = .ok later) :
    Consistent (memory.setBook instrument later) ∧ ¬ (memory.setBook instrument later).Rests ref ∧
      ∀ other, (memory.setBook instrument later).Rests other → memory.Rests other := by
  obtain ⟨fits, fewer, other, another, anotherObject, anotherOwn, gone⟩ :=
    (consistent.bookForInstrument instrument).cancel consistent.unique cancelled
  obtain rfl := consistent.unique ref other order another object anotherObject (own.trans anotherOwn.symm)
  have kept := consistent.setBook fits
  refine ⟨kept, ?_, ?_⟩
  · intro rests
    obtain ⟨side, price, member⟩ := (kept.rests_iff object).mp rests
    rw [placed, bookForInstrument_setBook, if_pos rfl] at member
    exact gone side price member
  · intro queued rests
    rcases rests_setBook rests with ⟨side, _, member⟩ | earlier
    · exact rests_bookForInstrument ((fewer side).subset member)
    · exact earlier

end

end Consistent

end Memory

end Blazil.Trading
