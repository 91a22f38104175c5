import Blazil.Foundation.Totals

/-! Orders and trades of the trading service (`services/trading/internal/domain`). The Go
code shares orders by pointer; ids are unique, so here an order is reached by its id in
one list of all orders, which is kept in the order in which they were placed. Quantities
and prices are integers: a fill never leaves the range of the order's own quantity. -/

set_option autoImplicit false

namespace Blazil.Trading

abbrev OrderId := String

abbrev InstrumentId := String

inductive Side where
  | buy
  | sell
deriving DecidableEq

def Side.opposite : Side → Side
  | .buy => .sell
  | .sell => .buy

def Side.ofCode (code : Int) : Option Side :=
  if code = 1 then some .buy
  else if code = 2 then some .sell
  else none

inductive OrderStatus where
  | opened
  | partlyFilled
  | filled
  | cancelled
deriving DecidableEq

inductive TradingError where
  | orderNotFound
  | orderAlreadyExists
  | orderNotOpen
  | invalidQuantity
  | invalidPrice
  | unknownSide
  | wrapped (context : String) (cause : TradingError)
deriving DecidableEq

structure Order where
  id : OrderId
  instrumentId : InstrumentId
  ownerId : String
  side : Side
  limitPriceMinorUnits : Int
  quantityUnits : Int
  filledUnits : Int
  status : OrderStatus
deriving DecidableEq

namespace Order

def remainingUnits (order : Order) : Int := order.quantityUnits - order.filledUnits

def isOpen (order : Order) : Bool :=
  order.status = .opened || order.status = .partlyFilled

@[simps]
def addFilled (units : Int) (order : Order) : Order :=
  { order with filledUnits := order.filledUnits + units }

@[simps]
def setStatus (status : OrderStatus) (order : Order) : Order :=
  { order with status := status }

def statusAfterFill (order : Order) : OrderStatus :=
  if order.quantityUnits ≤ order.filledUnits then .filled else .partlyFilled

/-- A fill as a whole: the units are counted and the status follows. -/
def fill (units : Int) (order : Order) : Order :=
  (order.addFilled units).setStatus (order.addFilled units).statusAfterFill

end Order

structure Trade where
  id : String
  instrumentId : InstrumentId
  makerOrderId : OrderId
  takerOrderId : OrderId
  priceMinorUnits : Int
  quantityUnits : Int
deriving DecidableEq

def lookup (orders : List Order) (id : OrderId) : Option Order :=
  orders.find? fun order => order.id = id

def update (id : OrderId) (change : Order → Order) (orders : List Order) : List Order :=
  orders.map fun order => if order.id = id then change order else order

section Lookup

variable {orders : List Order} {id other : OrderId} {order : Order}

theorem lookup_append_new {taker : Order} (fresh : ∀ order ∈ orders, order.id ≠ taker.id) :
    lookup (orders ++ [taker]) taker.id = some taker := by
  have absent : orders.find? (fun order => order.id = taker.id) = none :=
    List.find?_eq_none.mpr fun order member => by simpa using fresh order member
  simp [lookup, List.find?_append, absent]

theorem lookup_eq_none_iff : lookup orders id = none ↔ ∀ order ∈ orders, order.id ≠ id := by
  simp [lookup, List.find?_eq_none]

theorem mem_of_lookup (found : lookup orders id = some order) : order ∈ orders ∧ order.id = id :=
  ⟨List.mem_of_find?_eq_some found, by simpa using List.find?_some found⟩

theorem lookup_of_mem (distinct : (orders.map Order.id).Nodup) (member : order ∈ orders) :
    lookup orders order.id = some order := by
  cases found : lookup orders order.id with
  | none => exact absurd rfl (lookup_eq_none_iff.mp found order member)
  | some =>
    obtain ⟨firstMember, same⟩ := mem_of_lookup found
    rw [List.inj_on_of_nodup_map distinct firstMember member same]

variable {change : Order → Order}

theorem map_id_update (keeps : ∀ order, (change order).id = order.id) :
    (update id change orders).map Order.id = orders.map Order.id := by
  unfold update
  rw [List.map_map]
  apply List.map_congr_left
  intro order _
  simp only [Function.comp_apply]
  split
  · exact keeps order
  · rfl

theorem update_of_absent (absent : ∀ order ∈ orders, order.id ≠ id) : update id change orders = orders := by
  conv_rhs => rw [← List.map_id orders]
  apply List.map_congr_left
  intro order member
  simp [absent order member]

theorem lookup_append {more} (found : lookup orders id = some order) : lookup (orders ++ more) id = some order := by
  unfold lookup at found ⊢
  rw [List.find?_append, found, Option.some_or]

theorem lookup_update (keeps : ∀ order, (change order).id = order.id) (found : lookup orders id = some order) :
    lookup (update id change orders) id = some (change order) := by
  have own := (mem_of_lookup found).2
  have same : ((fun order : Order => decide (order.id = id)) ∘ fun order =>
      if order.id = id then change order else order) = fun order => decide (order.id = id) := by
    funext order
    by_cases own : order.id = id <;> simp [own, keeps]
  unfold lookup update at *
  rw [List.find?_map, same, found, Option.map_some, if_pos own]

theorem update_append_other {last : Order} (different : last.id ≠ id) :
    update id change (orders ++ [last]) = update id change orders ++ [last] := by
  simp [update, different]

theorem update_append_own {last : Order} (absent : ∀ order ∈ orders, order.id ≠ last.id) :
    update last.id change (orders ++ [last]) = orders ++ [change last] := by
  have unchanged : update last.id change orders = orders := update_of_absent absent
  conv_rhs => rw [← unchanged]
  simp [update]

theorem update_update (first second : Order → Order) (keeps : ∀ order, (first order).id = order.id) :
    update id second (update id first orders) = update id (fun order => second (first order)) orders := by
  unfold update
  rw [List.map_map]
  apply List.map_congr_left
  intro order _
  by_cases own : order.id = id <;> simp [own, keeps]

theorem mem_update {changed : Order} : changed ∈ update id change orders ↔
      ∃ order ∈ orders, changed = if order.id = id then change order else order := by
  simp [update, eq_comm]

theorem update_congr {first second} (same : ∀ order ∈ orders, order.id = id → first order = second order) :
    update id first orders = update id second orders := by
  apply List.map_congr_left
  intro order member
  split
  · next own => exact same order member own
  · rfl

theorem filter_update {selects} (outside : ∀ order ∈ orders, order.id = id →
      selects order = false ∧ selects (change order) = false) :
    (update id change orders).filter selects = orders.filter selects := by
  induction orders with
  | nil => rfl
  | cons order _ ih =>
    have rest := ih fun other member => outside other (List.mem_cons_of_mem _ member)
    unfold update at rest ⊢
    by_cases own : order.id = id
    · obtain ⟨before, after⟩ := outside order List.mem_cons_self own
      simp [own, before, after, rest]
    · simp [own, List.filter_cons, rest]

theorem total_update (weight : Order → Int) (change : Order → Order)
    (distinct : (orders.map Order.id).Nodup) (member : order ∈ orders) :
    Foundation.total weight (update order.id change orders) =
      Foundation.total weight orders + (weight (change order) - weight order) := by
  induction orders with
  | nil => cases member
  | cons first rest ih =>
    obtain ⟨fresh, restDistinct⟩ := List.nodup_cons.mp distinct
    rcases List.mem_cons.mp member with rfl | later
    · have absent : ∀ other ∈ rest, other.id ≠ order.id := by
        intro other otherMember same
        exact fresh (List.mem_map.mpr ⟨other, otherMember, same⟩)
      have unchanged : update order.id change rest = rest := update_of_absent absent
      have split : update order.id change (order :: rest) =
          change order :: update order.id change rest := by simp [update]
      rw [split, unchanged, Foundation.total_cons, Foundation.total_cons]
      ring
    · have different : first.id ≠ order.id := by
        intro same
        exact fresh (List.mem_map.mpr ⟨order, later, same.symm⟩)
      have split : update order.id change (first :: rest) =
          first :: update order.id change rest := by simp [update, different]
      rw [split, Foundation.total_cons, Foundation.total_cons, ih restDistinct later]
      ring

end Lookup

end Blazil.Trading
