import Blazil.Foundation.Numeral
import Blazil.Trading.PlacementProperties

/-! The database-backed service over restarts of its process. The database stays; the books
are rebuilt from it, the calls that were running are gone, and the counter that numbers the
trades starts again. -/

set_option autoImplicit false

namespace Blazil.Trading

open Foundation

def Call.isInserted : Call → Bool
  | .place _ phase => phase.isInserted
  | .cancel _ _ => false

def Call.trades : Call → List Trade
  | .place _ (.insertingTrades _ trades _ _ _) => trades
  | _ => []

/-- The trades that `nextTradeID` has numbered in a step, which is that of a match. -/
def PgOrderService.givenBy (before after : PgOrderService) : PgLabel → List Trade
  | .access index _ =>
    if before.calls[index]?.any Call.isInserted then
      (after.calls[index]?.map Call.trades).getD []
    else []
  | .placeOrder _ | .cancelOrder _ => []

/-- The running process and the trades that it and each process before it have numbered. -/
structure PgDeployment where
  service : PgOrderService
  ended : List (List Trade)
  given : List Trade

inductive PgDeploymentLabel where
  | call (label : PgLabel)
  | restart
deriving DecidableEq

namespace PgDeployment

def started (database : Database) : PgDeployment := ⟨.started database, [], []⟩

def step (deployment : PgDeployment) : PgDeploymentLabel → Option PgDeployment
  | .call label =>
    (deployment.service.step label).map fun next =>
      { deployment with
        service := next
        given := deployment.given ++ deployment.service.givenBy next label }
  | .restart =>
    some ⟨.started deployment.service.database, deployment.ended ++ [deployment.given], []⟩

def system : System PgDeployment PgDeploymentLabel := ⟨step⟩

def processes (deployment : PgDeployment) : List (List Trade) :=
  deployment.ended ++ [deployment.given]

end PgDeployment

def tradeName (number : Nat) : String := "trade-" ++ toString (number + 1)

theorem tradeName_injective : Function.Injective tradeName := by
  intro first second same
  have digits : toString (first + 1) = toString (second + 1) := by
    simpa [tradeName] using same
  have parsed := congrArg Numeral.parse digits
  rw [Numeral.parse_toString, Numeral.parse_toString] at parsed
  simpa using parsed

def tradeNames (first count : Nat) : List String := (List.range' first count).map tradeName

theorem tradeNames_add (first count more : Nat) : tradeNames first (count + more) =
      tradeNames first count ++ tradeNames (first + count) more := by
  unfold tradeNames
  rw [← List.map_append, List.range'_append_1]

theorem tradeNames_nodup (first count : Nat) : (tradeNames first count).Nodup :=
  List.Nodup.map tradeName_injective List.nodup_range'

/-- The trades are numbered from a number on, and the counter stands behind them. -/
structure SharedMatch.Numbered (first : Nat) (state : SharedMatch) : Prop where
  counter : state.tradeId = first + state.trades.length
  names : state.trades.map Trade.id = tradeNames first state.trades.length

theorem SharedMatch.Numbered.turn {first takerRef state next}
    (numbered : state.Numbered first) (turned : SharedMatch.turn takerRef state = some next) : next.Numbered first := by
  obtain ⟨_, _, _, _, _, _, rfl⟩ := turn_some turned
  constructor
  · simp only [trade, List.length_append, List.length_singleton, numbered.counter]
    omega
  · simp only [trade, List.map_append, numbered.names, List.length_append, List.length_singleton,
      tradeNames_add, numbered.counter]
    rfl

theorem Memory.place_numbered {memory : Memory} {turns tradeId : Nat} {order : Order} {result}
    (placed : memory.place turns tradeId order = some result) : result.Numbered tradeId := by
  obtain ⟨_, left, rfl⟩ := Option.map_eq_some_iff.mp placed
  have numbered := runLoop_invariant (SharedMatch.Numbered tradeId)
    (fun _ _ numbered turned => numbered.turn turned) ⟨rfl, rfl⟩ left
  unfold SharedMatch.restTaker
  split
  · exact numbered
  · split
    · exact ⟨numbered.counter, numbered.names⟩
    · exact numbered

namespace PgOrderService

theorem PlaceEffect.tradeId_eq {service changed request phase later} (effect : PlaceEffect service request phase changed later)
    (other : phase.isInserted = false) : changed.tradeId = service.tradeId := by
  cases effect with
  | matched inserted =>
    rw [other] at inserted
    cases inserted
  | quiet | executed | committed => rfl

theorem step_numbers {service next : PgOrderService} {label : PgLabel} (stepped : service.step label = some next) :
    next.tradeId = service.tradeId + (service.givenBy next label).length ∧ (service.givenBy next label).map Trade.id =
        tradeNames service.tradeId (service.givenBy next label).length := by
  cases label with
  | placeOrder request | cancelOrder id =>
    cases stepped
    exact ⟨rfl, rfl⟩
  | access index =>
    obtain ⟨call, present, rest⟩ := Option.bind_eq_some_iff.mp stepped
    obtain ⟨result, called, rfl⟩ := Option.map_eq_some_iff.mp rest
    have after : (service.calls.set index result.2)[index]? = some result.2 :=
      List.getElem?_set_self (entry_lt present)
    simp only [givenBy, present, Option.any_some, after, Option.map_some, Option.getD_some]
    cases call with
    | place _ phase =>
      obtain ⟨_, moved, rfl⟩ := Option.map_eq_some_iff.mp called
      cases matching : phase.isInserted with
      | true =>
        cases phase with
        | inserted =>
          obtain ⟨_, made, rfl⟩ := Option.map_eq_some_iff.mp moved
          have numbered := Memory.place_numbered made
          exact ⟨numbered.counter, numbered.names⟩
        | _ => cases matching
      | false =>
        simp only [Call.isInserted, matching, Bool.false_eq_true, if_false]
        exact ⟨(placeStep_effect moved).tradeId_eq matching, rfl⟩
    | cancel =>
      obtain ⟨⟨_, _⟩, moved, rfl⟩ := Option.map_eq_some_iff.mp called
      cases cancelStep_effect moved <;> exact ⟨rfl, rfl⟩

end PgOrderService

namespace PgDeployment

/-- Each process numbers its trades from the first name on. -/
structure Numbered (deployment : PgDeployment) : Prop where
  given : deployment.given.map Trade.id = tradeNames 0 deployment.service.tradeId
  ended : ∀ trades ∈ deployment.ended, ∃ count, trades.map Trade.id = tradeNames 0 count

variable {deployment next : PgDeployment} {label : PgDeploymentLabel}

theorem Numbered.step (numbered : deployment.Numbered) (stepped : deployment.step label = some next) : next.Numbered := by
  cases label with
  | call =>
    obtain ⟨_, moved, rfl⟩ := Option.map_eq_some_iff.mp stepped
    obtain ⟨counter, names⟩ := PgOrderService.step_numbers moved
    refine ⟨?_, numbered.ended⟩
    simp only [List.map_append, numbered.given, names, counter, tradeNames_add, Nat.zero_add]
  | restart =>
    cases stepped
    exact ⟨rfl, holds_after_concat numbered.ended ⟨_, numbered.given⟩⟩

theorem disjoint_iff {first second count more} (names : first.map Trade.id = tradeNames 0 count)
    (others : second.map Trade.id = tradeNames 0 more) :
    List.Disjoint (first.map Trade.id) (second.map Trade.id) ↔ first = [] ∨ second = [] := by
  constructor
  · intro disjoint
    cases count with
    | zero => exact .inl (List.map_eq_nil_iff.mp names)
    | succ count =>
      cases more with
      | zero => exact .inr (List.map_eq_nil_iff.mp others)
      | succ more =>
        have shared : ∀ count, tradeName 0 ∈ tradeNames 0 (count + 1) := by
          simp [tradeNames, List.range'_succ]
        exact (disjoint (names ▸ shared count) (others ▸ shared more)).elim
  · rintro (rfl | rfl)
    · exact List.disjoint_nil_left _
    · exact List.disjoint_nil_right _

/-- Over any run with restarts, all trades have different ids exactly if at most one process
has made trades. -/
theorem tradeIds_nodup_iff {database : Database} (reached : system.Reachable (started database) deployment) :
    (deployment.processes.flatten.map Trade.id).Nodup ↔
      deployment.processes.Pairwise fun first second => first = [] ∨ second = [] := by
  have numbered : deployment.Numbered := reached.invariant Numbered ⟨rfl, by simp [started]⟩
    fun _ _ _ _ stepped numbered => numbered.step stepped
  have named : ∀ trades ∈ deployment.processes, ∃ count, trades.map Trade.id = tradeNames 0 count := by
    exact holds_after_concat numbered.ended ⟨_, numbered.given⟩
  rw [List.map_flatten, List.nodup_flatten, List.pairwise_map, and_iff_right]
  · apply List.Pairwise.iff_of_mem
    intro first second member otherMember
    obtain ⟨_, names⟩ := named first member
    obtain ⟨_, others⟩ := named second otherMember
    exact disjoint_iff names others
  · intro names member
    obtain ⟨trades, listed, rfl⟩ := List.mem_map.mp member
    obtain ⟨count, same⟩ := named trades listed
    rw [same]
    exact tradeNames_nodup 0 count

open PgOrderService (works emptyDatabase sellTen buyFour)

/-- The calls of one process that place an order and carry it through. -/
def carryThrough (index steps : Nat) (request : PlaceOrderRequest) : List PgDeploymentLabel :=
  (.placeOrder request :: List.replicate steps (.access index works)).map .call

def ids (deployment : PgDeployment) : List (List String) :=
  deployment.processes.map fun trades => trades.map Trade.id

/-- One process makes a trade, and another one after it makes none. -/
theorem tradeIds_oneProcess : ∃ deployment, system.Reachable (started emptyDatabase) deployment ∧
    deployment.ids = [["trade-1"], []] ∧ (deployment.processes.flatten.map Trade.id).Nodup := by
  obtain ⟨deployment, reached, named, apart⟩ := System.exists_reachable_of_run system
    (started emptyDatabase) (carryThrough 0 6 sellTen ++ carryThrough 1 10 buyFour ++ [.restart])
    (fun deployment => deployment.ids = [["trade-1"], []] ∧
      deployment.processes.Pairwise fun first second => first = [] ∨ second = [])
    (by decide +kernel)
  exact ⟨deployment, reached, named, (tradeIds_nodup_iff reached).mpr apart⟩

/-- After a restart the next trade has the id of the first one. The database does not take it,
so that the order fails, though the match stays in memory. -/
theorem tradeId_again : ∃ deployment, system.Reachable (started emptyDatabase) deployment ∧
    deployment.ids = [["trade-1"], ["trade-1"]] ∧
    deployment.service.calls = [.place { buyFour with id := "second" } (.returned (.error
      (.statement "insert trade" "duplicate key (SQLSTATE 23505)")))] :=
  System.exists_reachable_of_run system (started emptyDatabase)
    (carryThrough 0 6 sellTen ++ carryThrough 1 10 buyFour ++ [.restart] ++
      carryThrough 0 4 { buyFour with id := "second" }) _ (by decide +kernel)

end PgDeployment

end Blazil.Trading
