import Blazil.Foundation.Loop
import Mathlib.Data.List.Nodup

/-! Queues of items with a priority. Items of equal priority form a level and are kept in the order
of their arrival, and the levels are sorted by priority. Such a list of levels stands for the list
of all entries in the order of their arrival. The entries of levels in any order, and the removal
of items that are recognised by a test. Nothing is asked of the levels themselves. -/

set_option autoImplicit false

namespace Foundation

structure Level (Key Item : Type) where
  key : Key
  items : List Item
deriving DecidableEq

namespace Level

variable {Key Item : Type}

/-- Add an item behind those of its priority. The levels are searched for the first key
that is `reached`. -/
def insertItem [DecidableEq Key] (reached : Key → Bool) (key : Key) (item : Item)
    (levels : List (Level Key Item)) : List (Level Key Item) :=
  let position := search levels.length fun index =>
    levels[index]?.any fun level => reached level.key
  match levels[position]? with
  | none => levels.insertIdx position ⟨key, [item]⟩
  | some level =>
    if level.key = key then levels.set position ⟨key, level.items ++ [item]⟩
    else levels.insertIdx position ⟨key, [item]⟩

/-- Take an item out of the level of its priority; a level does not stay empty. -/
def removeItem [DecidableEq Key] [DecidableEq Item] (key : Key) (item : Item) : List (Level Key Item) → List (Level Key Item)
  | [] => []
  | level :: rest =>
    if level.key = key ∧ item ∈ level.items then
      let left := level.items.erase item
      if left = [] then rest else ⟨level.key, left⟩ :: rest
    else level :: removeItem key item rest

def ofKey [DecidableEq Key] (entries : List (Key × Item)) (key : Key) : List Item :=
  (entries.filter fun entry => entry.1 = key).map fun entry => entry.2

structure Denotes [DecidableEq Key] (before : Key → Key → Prop) (entries : List (Key × Item))
    (levels : List (Level Key Item)) : Prop where
  sorted : levels.Pairwise fun first second => before first.key second.key
  items : ∀ level ∈ levels, level.items = ofKey entries level.key
  nonempty : ∀ level ∈ levels, level.items ≠ []
  covered : ∀ entry ∈ entries, ∃ level ∈ levels, level.key = entry.1

private theorem insertIdx_length (front back : List (Level Key Item)) (level : Level Key Item) :
    (front ++ back).insertIdx front.length level = front ++ level :: back := by
  induction front with
  | nil => rfl
  | cons _ _ ih => simp [ih]

variable {front back : List (Level Key Item)} {level : Level Key Item} {other : Level Key Item}

theorem mem_middle : other ∈ front ++ level :: back ↔ other = level ∨ other ∈ front ++ back := by
  rw [List.perm_middle.mem_iff, List.mem_cons]

theorem sorted_between {before : Key → Key → Prop}
    (sorted : (front ++ back).Pairwise fun first second => before first.key second.key)
    (below : ∀ other ∈ front, before other.key level.key) (above : ∀ other ∈ back, before level.key other.key) :
    (front ++ level :: back).Pairwise fun first second => before first.key second.key := by
  obtain ⟨frontSorted, backSorted, across⟩ := List.pairwise_append.mp sorted
  refine List.pairwise_append.mpr ⟨frontSorted, List.pairwise_cons.mpr ⟨above, backSorted⟩, ?_⟩
  intro first firstMember second secondMember
  rcases List.mem_cons.mp secondMember with rfl | later
  · exact below first firstMember
  · exact across first firstMember second later

section Denotes

variable [DecidableEq Key] {before : Key → Key → Prop} {entries : List (Key × Item)} {levels : List (Level Key Item)}

theorem denotes_nil : Denotes before ([] : List (Key × Item)) [] where
  sorted := List.Pairwise.nil
  items := by simp
  nonempty := by simp
  covered := by simp

theorem ofKey_append (entries : List (Key × Item)) (key added : Key) (item : Item) :
    ofKey (entries ++ [(added, item)]) key = ofKey entries key ++ if added = key then [item] else [] := by
  unfold ofKey
  by_cases same : added = key <;> simp [same]

variable {key : Key} {front back : List (Level Key Item)} {level : Level Key Item} {item : Item} {reached : Key → Bool}

theorem mem_ofKey : item ∈ ofKey entries key ↔ (key, item) ∈ entries := by
  unfold ofKey
  simp

theorem Denotes.entries_nil (denotes : Denotes before entries []) : entries = [] := by
  cases entries with
  | nil => rfl
  | cons entry =>
    obtain ⟨_, member, _⟩ := denotes.covered entry List.mem_cons_self
    cases member

theorem Denotes.mem_iff (denotes : Denotes before entries levels) :
    (∃ level ∈ levels, item ∈ level.items) ↔ ∃ key, (key, item) ∈ entries := by
  constructor
  · intro queued
    obtain ⟨level, member, queued⟩ := queued
    rw [denotes.items level member, mem_ofKey] at queued
    exact ⟨level.key, queued⟩
  · intro entered
    obtain ⟨_, entered⟩ := entered
    obtain ⟨level, member, same⟩ := denotes.covered _ entered
    refine ⟨level, member, ?_⟩
    rw [denotes.items level member, mem_ofKey, same]
    exact entered

theorem Denotes.replace (changed : Level Key Item) {later : List (Key × Item)}
    (denotes : Denotes before entries (front ++ level :: back)) (same : changed.key = level.key)
    (items : changed.items = ofKey later level.key) (nonempty : changed.items ≠ [])
    (elsewhere : ∀ other ∈ front ++ back, ofKey later other.key = ofKey entries other.key)
    (covered : ∀ entry ∈ later, entry.1 = level.key ∨ entry ∈ entries) : Denotes before later (front ++ changed :: back) := by
  refine ⟨?_, ?_, ?_, ?_⟩
  · have sorted := denotes.sorted
    obtain ⟨frontSorted, rest, across⟩ := List.pairwise_append.mp sorted
    obtain ⟨above, backSorted⟩ := List.pairwise_cons.mp rest
    apply sorted_between
    · refine List.pairwise_append.mpr ⟨frontSorted, backSorted, ?_⟩
      intro first firstMember second secondMember
      exact across first firstMember second (List.mem_cons_of_mem _ secondMember)
    · intro other member
      rw [same]
      exact across other member level List.mem_cons_self
    · intro other member
      rw [same]
      exact above other member
  · intro other member
    rcases mem_middle.mp member with rfl | outside
    · rw [same, items]
    · rw [elsewhere other outside]
      exact denotes.items other (mem_middle.mpr (.inr outside))
  · intro other member
    rcases mem_middle.mp member with rfl | outside
    · exact nonempty
    · exact denotes.nonempty other (mem_middle.mpr (.inr outside))
  · intro entry member
    rcases covered entry member with own | earlier
    · exact ⟨changed, mem_middle.mpr (.inl rfl), same.trans own.symm⟩
    · obtain ⟨other, otherMember, key⟩ := denotes.covered entry earlier
      rcases mem_middle.mp otherMember with rfl | outside
      · exact ⟨changed, mem_middle.mpr (.inl rfl), same.trans key⟩
      · exact ⟨other, mem_middle.mpr (.inr outside), key⟩

variable [IsStrictTotalOrder Key before]

omit [DecidableEq Key] in
theorem key_ne_between (below : ∀ other ∈ front, before other.key key) (above : ∀ other ∈ back, before key other.key)
    (member : level ∈ front ++ back) : level.key ≠ key := by
  rcases List.mem_append.mp member with inFront | inBack
  · exact ne_of_irrefl (below level inFront)
  · exact ne_of_irrefl' (above level inBack)

theorem Denotes.key_ne (denotes : Denotes before entries (front ++ level :: back))
    (member : other ∈ front ++ back) : other.key ≠ level.key := by
  obtain ⟨_, rest, across⟩ := List.pairwise_append.mp denotes.sorted
  exact key_ne_between (fun other inFront => across other inFront level List.mem_cons_self) (List.pairwise_cons.mp rest).1 member

theorem Denotes.first {rest} (denotes : Denotes before entries (level :: rest))
    {entry} (member : entry ∈ entries) : ¬before entry.1 level.key := by
  obtain ⟨own, ownMember, same⟩ := denotes.covered entry member
  rw [← same]
  rcases List.mem_cons.mp ownMember with rfl | later
  · exact irrefl _
  · exact asymm ((List.pairwise_cons.mp denotes.sorted).1 own later)

/-- Where the search ends, the keys change from those before the new one to the others. -/
theorem Denotes.split (denotes : Denotes before entries levels) (reaches : ∀ other, reached other = true ↔ ¬before other key) :
    ∃ front back, levels = front ++ back ∧
      (search levels.length fun index => levels[index]?.any fun level => reached level.key) = front.length ∧
      (∀ level ∈ front, before level.key key) ∧ ∀ level ∈ back, ¬before level.key key := by
  let test : Nat → Bool := fun index => levels[index]?.any fun level => reached level.key
  have tested : ∀ {index : Nat} {level : Level Key Item}, levels[index]? = some level → test index = reached level.key := by
    intro index level found
    simp [test, found]
  have monotone : ∀ first second, first ≤ second → second < levels.length → test first = true → test second = true := by
    intro first second ordered inside succeeds
    have earlier := List.getElem?_eq_getElem (show first < levels.length by omega)
    have later := List.getElem?_eq_getElem inside
    rw [tested earlier, reaches] at succeeds
    rw [tested later, reaches]
    rcases Nat.lt_or_eq_of_le ordered with less | rfl
    · have sorted := List.pairwise_iff_getElem.mp denotes.sorted first second (by omega) inside less
      intro before
      exact succeeds (trans_of _ sorted before)
    · exact succeeds
  obtain ⟨bounded, below, above⟩ := search_spec monotone
  refine ⟨levels.take (search levels.length test), levels.drop (search levels.length test),
    (List.take_append_drop _ _).symm, ?_, ?_, ?_⟩
  · rw [List.length_take]
    exact (Nat.min_eq_left bounded).symm
  · intro level member
    obtain ⟨index, found⟩ := List.mem_iff_getElem?.mp member
    rw [List.getElem?_take] at found
    split at found
    · next inside =>
      have fails := below index inside
      rw [tested found] at fails
      by_contra later
      rw [(reaches _).mpr later] at fails
      cases fails
    · cases found
  · intro level member
    obtain ⟨index, found⟩ := List.mem_iff_getElem?.mp member
    rw [List.getElem?_drop] at found
    have inside := (List.getElem?_eq_some_iff.mp found).1
    have succeeds := above _ (Nat.le_add_right _ index) inside
    rw [tested found, reaches] at succeeds
    exact succeeds

private theorem Denotes.insert_existing (denotes : Denotes before entries (front ++ level :: back)) (item : Item) :
    Denotes before (entries ++ [(level.key, item)]) (front ++ ⟨level.key, level.items ++ [item]⟩ :: back) := by
  refine denotes.replace _ rfl ?_ ?_ ?_ ?_
  · rw [ofKey_append, if_pos rfl, denotes.items level (mem_middle.mpr (.inl rfl))]
  · simp
  · intro other outside
    rw [ofKey_append, if_neg (denotes.key_ne outside).symm, List.append_nil]
  · intro entry member
    rcases List.mem_append.mp member with earlier | new
    · exact .inr earlier
    · exact .inl (by rw [List.mem_singleton.mp new])

private theorem Denotes.insert_new (denotes : Denotes before entries (front ++ back)) (item : Item)
    (below : ∀ level ∈ front, before level.key key) (above : ∀ level ∈ back, before key level.key) :
    Denotes before (entries ++ [(key, item)]) (front ++ ⟨key, [item]⟩ :: back) := by
  have fresh : ∀ level ∈ front ++ back, level.key ≠ key := fun level => key_ne_between below above
  refine ⟨sorted_between denotes.sorted below above, ?_, ?_, ?_⟩
  · intro level member
    rw [ofKey_append]
    rcases mem_middle.mp member with rfl | outside
    · have none : ofKey entries key = [] := by
        rw [List.eq_nil_iff_forall_not_mem]
        intro other entered
        obtain ⟨level, present, same⟩ := denotes.covered _ (mem_ofKey.mp entered)
        exact fresh level present same
      simp [none]
    · rw [if_neg (fresh level outside).symm, List.append_nil]
      exact denotes.items level outside
  · intro level member
    rcases mem_middle.mp member with rfl | outside
    · simp
    · exact denotes.nonempty level outside
  · intro entry member
    rcases List.mem_append.mp member with earlier | new
    · obtain ⟨level, present, same⟩ := denotes.covered entry earlier
      exact ⟨level, mem_middle.mpr (.inr present), same⟩
    · exact ⟨⟨key, [item]⟩, mem_middle.mpr (.inl rfl), by rw [List.mem_singleton.mp new]⟩

theorem Denotes.insertItem (denotes : Denotes before entries levels) (reaches : ∀ other, reached other = true ↔ ¬before other key)
    (item : Item) : Denotes before (entries ++ [(key, item)]) (insertItem reached key item levels) := by
  obtain ⟨_, back, rfl, position, below, above⟩ := denotes.split reaches
  unfold Level.insertItem
  dsimp only
  rw [position, List.getElem?_append_right (Nat.le_refl _), Nat.sub_self]
  cases back with
  | nil =>
    rw [List.getElem?_nil]
    rw [insertIdx_length]
    exact denotes.insert_new item below (by simp)
  | cons level =>
    rw [List.getElem?_cons_zero]
    dsimp only
    split
    · next same =>
      rw [List.set_append_right _ _ (Nat.le_refl _), Nat.sub_self, List.set_cons_zero]
      subst same
      exact denotes.insert_existing item
    · next different =>
      rw [insertIdx_length]
      refine denotes.insert_new item below ?_
      have first : before key level.key :=
        (trichotomous_of before key level.key).resolve_right fun other =>
          other.elim (fun same => different same.symm) (above level List.mem_cons_self)
      intro other member
      rcases List.mem_cons.mp member with rfl | later
      · exact first
      · have sorted := (List.pairwise_append.mp denotes.sorted).2.1
        exact trans_of _ first ((List.pairwise_cons.mp sorted).1 other later)

section Remove

variable [DecidableEq Item] {item : Item}

theorem removeItem_eq (elsewhere : ∀ other ∈ front, other.key ≠ level.key) (queued : item ∈ level.items) :
    removeItem level.key item (front ++ level :: back) = if level.items.erase item = [] then front ++ back
      else front ++ ⟨level.key, level.items.erase item⟩ :: back := by
  induction front with
  | nil => simp [removeItem, queued]
  | cons other _ ih =>
    have skipped : ¬(other.key = level.key ∧ item ∈ other.items) :=
      fun both => elsewhere other List.mem_cons_self both.1
    rw [List.cons_append, removeItem, if_neg skipped, ih fun later member => elsewhere later (List.mem_cons_of_mem _ member)]
    split <;> rfl

theorem ofKey_filter (entries : List (Key × Item)) (key : Key) (item : Item) :
    ofKey (entries.filter fun entry => entry.2 ≠ item) key = (ofKey entries key).filter fun other => other ≠ item := by
  unfold ofKey
  rw [List.filter_map, List.filter_filter, List.filter_filter]
  congr 2
  funext entry
  exact Bool.and_comm _ _

theorem Denotes.removeItem (denotes : Denotes before entries levels)
    (entered : (key, item) ∈ entries) (once : (entries.map fun entry => entry.2).Nodup) :
    Denotes before (entries.filter fun entry => entry.2 ≠ item) (removeItem key item levels) := by
  obtain ⟨level, member, rfl⟩ := denotes.covered _ entered
  obtain ⟨front, back, rfl⟩ := List.append_of_mem member
  have queued : item ∈ level.items := by
    rw [denotes.items level member, mem_ofKey]
    exact entered
  have distinct : level.items.Nodup := by
    rw [denotes.items level member]
    exact once.sublist (List.Sublist.map _ List.filter_sublist)
  have keyed : ∀ other : Key, (other, item) ∈ entries → other = level.key := by
    intro other also
    have same := List.inj_on_of_nodup_map once also entered rfl
    exact congrArg Prod.fst same
  have erased : level.items.erase item = ofKey (entries.filter fun entry => entry.2 ≠ item) level.key := by
    rw [ofKey_filter, ← denotes.items level member, distinct.erase_eq_filter]
    simp only [bne, ne_eq, decide_not, beq_eq_decide]
  have elsewhere : ∀ other ∈ front ++ back,
      ofKey (entries.filter fun entry => entry.2 ≠ item) other.key = ofKey entries other.key := by
    intro other outside
    rw [ofKey_filter, List.filter_eq_self]
    intro present listed
    rw [decide_eq_true_iff]
    rintro rfl
    exact denotes.key_ne outside (keyed _ (mem_ofKey.mp listed))
  rw [removeItem_eq (fun other inFront =>
    denotes.key_ne (List.mem_append_left _ inFront)) queued]
  split
  · next empty =>
    refine ⟨?_, ?_, ?_, ?_⟩
    · exact denotes.sorted.sublist (List.Sublist.append_left (List.sublist_cons_self _ _) _)
    · intro other outside
      rw [elsewhere other outside]
      exact denotes.items other (mem_middle.mpr (.inr outside))
    · intro other outside
      exact denotes.nonempty other (mem_middle.mpr (.inr outside))
    · intro entry remaining
      obtain ⟨other, otherMember, same⟩ := denotes.covered entry (List.mem_filter.mp remaining).1
      rcases mem_middle.mp otherMember with rfl | outside
      · have left : entry.2 ∈ other.items.erase item := by
          rw [erased, mem_ofKey, same]
          exact remaining
        rw [empty] at left
        cases left
      · exact ⟨other, outside, same⟩
  · next left =>
    refine denotes.replace _ rfl erased left elsewhere ?_
    intro entry remaining
    exact .inr (List.mem_filter.mp remaining).1

end Remove

end Denotes

end Level

theorem searchBetween_le (test : Nat → Bool) (turns low high : Nat) (ordered : low ≤ high) :
    searchBetween test turns low high ≤ high := by
  induction turns generalizing low high with
  | zero => exact ordered
  | succ _ ih =>
    unfold searchBetween
    split
    · dsimp only
      split
      · exact Nat.le_trans (ih low _ (by omega)) (by omega)
      · exact ih _ high (by omega)
    · exact ordered

namespace Level

variable {Key Item : Type}

def entries (levels : List (Level Key Item)) : List (Key × Item) :=
  levels.flatMap fun level => level.items.map fun item => (level.key, item)

@[simp] theorem entries_nil : entries ([] : List (Level Key Item)) = [] := rfl

@[simp] theorem entries_cons (level : Level Key Item) (levels : List (Level Key Item)) :
    entries (level :: levels) = level.items.map (fun item => (level.key, item)) ++ entries levels :=
  rfl

variable {levels : List (Level Key Item)}

theorem mem_entries {entry} :
    entry ∈ entries levels ↔ ∃ level ∈ levels, level.key = entry.1 ∧ entry.2 ∈ level.items := by
  obtain ⟨_, item⟩ := entry
  simp only [entries, List.mem_flatMap, List.mem_map, Prod.mk.injEq]
  constructor
  · rintro ⟨level, member, _, queued, same, rfl⟩
    exact ⟨level, member, same, queued⟩
  · rintro ⟨level, member, same, queued⟩
    exact ⟨level, member, item, queued, same, rfl⟩

variable {position : Nat} {selects : Item → Bool} {item : Item}

theorem entries_set {level} (found : levels[position]? = some level) (item : Item) :
    (entries (levels.set position ⟨level.key, level.items ++ [item]⟩)).Perm ((level.key, item) :: entries levels) := by
  induction levels generalizing position with
  | nil => cases found
  | cons _ _ ih =>
    cases position with
    | zero =>
      obtain rfl := Option.some.inj found
      rw [List.set_cons_zero, entries_cons, entries_cons, List.map_append, List.map_singleton,
        List.append_assoc, List.singleton_append]
      exact List.perm_middle
    | succ =>
      exact ((ih found).append_left _).trans List.perm_middle

theorem entries_insertIdx (key : Key) (item : Item) (inside : position ≤ levels.length) :
    (entries (levels.insertIdx position ⟨key, [item]⟩)).Perm ((key, item) :: entries levels) :=
  (List.perm_insertIdx _ _ inside).flatMap_right _

variable [DecidableEq Key]

theorem entries_insertItem (reached : Key → Bool) (key : Key) (item : Item) (levels : List (Level Key Item)) :
    (entries (insertItem reached key item levels)).Perm ((key, item) :: entries levels) := by
  unfold insertItem
  dsimp only
  have inside : search levels.length (fun index =>
      levels[index]?.any fun level => reached level.key) ≤ levels.length :=
    searchBetween_le _ _ _ _ (Nat.zero_le _)
  split
  · exact entries_insertIdx key item inside
  · next level found =>
    split
    · next same =>
      subst same
      exact entries_set found item
    · exact entries_insertIdx key item inside

/-- Take the first item that is selected out of the levels of a key; a level does not stay
empty. -/
def removeWhere (key : Key) (selects : Item → Bool) : List (Level Key Item) → List (Level Key Item)
  | [] => []
  | level :: rest =>
    if level.key = key ∧ level.items.any selects then
      let left := level.items.eraseP selects
      if left.isEmpty then rest else ⟨level.key, left⟩ :: rest
    else level :: removeWhere key selects rest

theorem perm_cons_eraseP {items : List Item} (queued : item ∈ items)
    (only : ∀ other ∈ items, selects other = true ↔ other = item) : (item :: items.eraseP selects).Perm items := by
  obtain ⟨other, _, _, _, selected, split, erased⟩ := List.exists_of_eraseP queued ((only item queued).mpr rfl)
  have same : other = item := (only other (by simp [split])).mp selected
  rw [erased, split, same]
  exact List.perm_middle.symm

theorem entries_removeWhere {key : Key} (entered : (key, item) ∈ entries levels)
    (only : ∀ other, (key, other) ∈ entries levels → (selects other = true ↔ other = item)) :
    ((key, item) :: entries (removeWhere key selects levels)).Perm (entries levels) := by
  induction levels with
  | nil => cases entered
  | cons level rest ih =>
    have restOnly : ∀ other, (key, other) ∈ entries rest → (selects other = true ↔ other = item) :=
      fun other member => only other (List.mem_append_right _ member)
    unfold removeWhere
    split
    · next here =>
      obtain ⟨rfl, hit⟩ := here
      have own : ∀ other ∈ level.items, (selects other = true ↔ other = item) := by
        intro other member
        exact only other (List.mem_append_left _ (List.mem_map_of_mem member))
      obtain ⟨other, member, selected⟩ := List.any_eq_true.mp hit
      obtain rfl := (own other member).mp selected
      have moved := (perm_cons_eraseP member own).map fun item => (level.key, item)
      have taken : ((level.key, other) :: ((level.items.eraseP selects).map
          (fun item => (level.key, item)) ++ entries rest)).Perm (entries (level :: rest)) :=
        moved.append_right _
      dsimp only
      split
      · next empty =>
        rw [List.isEmpty_iff.mp empty] at taken
        exact taken
      · exact taken
    · next elsewhere =>
      have later : (key, item) ∈ entries rest := by
        rcases List.mem_append.mp entered with inLevel | inRest
        · obtain ⟨other, member, same⟩ := List.mem_map.mp inLevel
          obtain ⟨rfl, rfl⟩ := Prod.mk.inj same
          have selected := (only other (List.mem_append_left _ inLevel)).mpr rfl
          exact absurd ⟨rfl, List.any_eq_true.mpr ⟨other, member, selected⟩⟩ elsewhere
        · exact inRest
      exact List.perm_middle.symm.trans ((ih later restOnly).append_left _)

theorem entries_removeWhere_sublist (key : Key) (selects : Item → Bool) (levels : List (Level Key Item)) :
    (entries (removeWhere key selects levels)).Sublist (entries levels) := by
  induction levels with
  | nil => exact List.Sublist.refl _
  | cons _ _ ih =>
    unfold removeWhere
    split
    · dsimp only
      split
      · exact List.sublist_append_right _ _
      · exact (List.Sublist.map _ List.eraseP_sublist).append_right _
    · exact ih.append_left _

end Level

end Foundation
