import Blazil.Foundation.Transition
import Blazil.Metering.Flusher

/-! The gateway from its start to the return of `run` (`services/gateway/cmd/server/main.go` and
the metering interceptor in `internal/middleware/interceptors.go`), and what has been passed to
`UpsertUsage` by then. `run` waits for the streams but not for the flusher, and the flusher waits
for neither. -/

set_option autoImplicit false

namespace Blazil.Gateway

open Foundation Metering

inductive StreamPhase where
  | running
  /-- The handler has returned without an error. -/
  | completed
  | located
  | recorded
  | finished (metered : Bool)
deriving DecidableEq

def StreamPhase.metered : StreamPhase → Bool
  | .recorded => true
  | .finished metered => metered
  | _ => false

def StreamPhase.isFinished : StreamPhase → Bool
  | .finished _ => true
  | _ => false

structure Stream where
  tenantId : TenantId
  phase : StreamPhase
deriving DecidableEq

inductive RunPhase where
  | serving
  /-- In `GracefulStop`, which takes no new streams and waits for the others. -/
  | stoppingGrpc
  | stoppingAdmin
  | stoppingMetrics
  | returned
  | failed (reason : String)
deriving DecidableEq

def RunPhase.ended : RunPhase → Bool
  | .returned => true
  | .failed _ => true
  | _ => false

structure Server where
  streams : List Stream
  meter : Meter Int
  run : RunPhase
  /-- Whether the root context has been cancelled by a signal. -/
  cancelled : Bool

inductive ServerLabel where
  | accept (tenantId : TenantId)
  | stream (index : Nat) (succeeds : Bool)
  | flush (label : FlushLabel)
  | signal
  | proceed
  | serverFails (reason : String)
deriving DecidableEq

namespace Server

def new : Server := ⟨[], .new, .serving, false⟩

def streamStep (recorder : Recorder Int) (stream : Stream) (succeeds : Bool) : Option (Recorder Int × StreamPhase) :=
  match stream.phase with
  | .running => some (recorder, if succeeds then .completed else .finished false)
  | .completed => some (recorder.locate stream.tenantId, .located)
  | .located => some (recorder.add stream.tenantId 1, .recorded)
  | .recorded => some (recorder, .finished true)
  | .finished _ => none

def runStep (server : Server) : Option RunPhase :=
  match server.run with
  | .serving => if server.cancelled then some .stoppingGrpc else none
  | .stoppingGrpc =>
    if server.streams.all fun stream => stream.phase.isFinished then some .stoppingAdmin
    else none
  | .stoppingAdmin => some .stoppingMetrics
  | .stoppingMetrics => some .returned
  | _ => none

/-- Nothing happens any more once `run` has returned. -/
def step (server : Server) (label : ServerLabel) : Option Server :=
  if server.run.ended then none
  else
    match label with
    | .accept tenantId =>
      if server.run = .serving then
        some { server with streams := server.streams ++ [⟨tenantId, .running⟩] }
      else none
    | .stream index succeeds =>
      (server.streams[index]?).bind fun stream =>
        (streamStep server.meter.recorder stream succeeds).map fun result =>
          { server with
            streams := server.streams.set index { stream with phase := result.2 }
            meter := { server.meter with recorder := result.1 } }
    | .flush label =>
      (server.meter.step server.cancelled label).map fun meter =>
        { server with meter := meter }
    | .signal => some { server with cancelled := true }
    | .proceed => server.runStep.map fun phase => { server with run := phase }
    | .serverFails reason =>
      if server.run = .serving then some { server with run := .failed reason } else none

def system : System Server ServerLabel := ⟨step⟩

def recorded (server : Server) (tenantId : TenantId) : Int :=
  total (fun stream => if stream.tenantId = tenantId ∧ stream.phase.metered then 1 else 0)
    server.streams

inductive Steps (server : Server) : ServerLabel → Server → Prop where
  | accepted {tenantId} (serving : server.run = .serving) : Steps server (.accept tenantId)
        { server with streams := server.streams ++ [⟨tenantId, .running⟩] }
  | streamed {index succeeds stream recorder phase} (running : server.run.ended = false)
      (present : server.streams[index]? = some stream)
      (stepped : streamStep server.meter.recorder stream succeeds = some (recorder, phase)) :
      Steps server (.stream index succeeds) { server with
        streams := server.streams.set index { stream with phase := phase }
        meter := { server.meter with recorder := recorder } }
  | flushed {label meter} (running : server.run.ended = false)
      (flushes : Meter.Flushes server.meter label meter) :
      Steps server (.flush label) { server with meter := meter }
  | signalled (running : server.run.ended = false) : Steps server .signal { server with cancelled := true }
  | proceeded {phase} (last : phase = .returned → server.run = .stoppingMetrics) :
      Steps server .proceed { server with run := phase }
  | failed {reason} : Steps server (.serverFails reason) { server with run := .failed reason }

section Run

variable {server next : Server} {label : ServerLabel}

theorem runStep_returned {phase : RunPhase} (stepped : server.runStep = some phase) :
    phase = .returned → server.run = .stoppingMetrics := by
  unfold runStep at stepped
  split at stepped
  · split at stepped <;> cases stepped
    exact nofun
  · split at stepped <;> cases stepped
    exact nofun
  · cases stepped
    exact nofun
  · next metrics => exact fun _ => metrics
  · cases stepped

theorem step_steps (stepped : system.step server label = some next) : Steps server label next := by
  simp only [system, step] at stepped
  split at stepped
  · cases stepped
  · next running =>
    rw [Bool.not_eq_true] at running
    cases label with
    | accept =>
      dsimp only at stepped
      split at stepped
      · next serving =>
        cases stepped
        exact .accepted serving
      · cases stepped
    | stream =>
      obtain ⟨_, present, rest⟩ := Option.bind_eq_some_iff.mp stepped
      obtain ⟨_, moved, made⟩ := Option.map_eq_some_iff.mp rest
      subst made
      exact .streamed running present moved
    | flush =>
      obtain ⟨_, moved, made⟩ := Option.map_eq_some_iff.mp stepped
      subst made
      exact .flushed running (Meter.step_flushes moved)
    | signal =>
      cases stepped
      exact .signalled running
    | proceed =>
      obtain ⟨_, moved, made⟩ := Option.map_eq_some_iff.mp stepped
      subst made
      exact .proceeded (runStep_returned moved)
    | serverFails =>
      dsimp only at stepped
      split at stepped
      · cases stepped
        exact .failed
      · cases stepped

theorem streamStep_count {recorder later stream succeeds phase}
    (stepped : streamStep recorder stream succeeds = some (later, phase)) :
    (stream.phase = .located ∧ phase = .recorded ∧ later = recorder.add stream.tenantId 1) ∨
      phase.metered = stream.phase.metered ∧ ∀ tenantId, later.count tenantId = recorder.count tenantId := by
  unfold streamStep at stepped
  split at stepped
  · next running =>
    cases stepped
    refine .inr ⟨?_, fun _ => rfl⟩
    rw [running]
    cases succeeds <;> rfl
  · next completed =>
    cases stepped
    refine .inr ⟨?_, fun tenantId => Recorder.count_locate _ _ _⟩
    rw [completed]
    rfl
  · next located =>
    cases stepped
    exact .inl ⟨located, rfl, rfl⟩
  · next recorded =>
    cases stepped
    refine .inr ⟨?_, fun _ => rfl⟩
    rw [recorded]
    rfl
  · cases stepped

def Conserved (server : Server) : Prop :=
  ∀ tenantId, server.recorded tenantId = server.meter.accounted tenantId

theorem Steps.conserved (steps : Steps server label next) (conserved : Conserved server) : Conserved next := by
  intro tenantId
  have before := conserved tenantId
  cases steps with unfold recorded at before ⊢
  | accepted =>
    rw [total_append, before]
    simp [StreamPhase.metered]
  | @streamed _ _ _ _ _ _ present stepped =>
    rw [total_set present, before]
    unfold Meter.accounted
    rcases streamStep_count stepped with ⟨located, rfl, rfl⟩ | ⟨metered, counts⟩
    · simp only [located, StreamPhase.metered, Recorder.count_add, Bool.false_eq_true, and_false, and_true, if_false]
      omega
    · rw [metered, counts, Int.sub_self, Int.add_zero]
  | flushed _ flushes =>
    rw [flushes.accounted_eq tenantId]
    exact before
  | signalled _ | proceeded _ => exact before
  | failed => exact before

/-- A unit is recorded only while its counter will be swapped again, `run` returns only after
the flusher has stopped, and the writer succeeds. -/
def Orderly (server : Server) : ServerLabel → Prop
  | .stream index _ => ∀ stream ∈ server.streams[index]?, stream.phase = .located → server.meter.flusher.Reads stream.tenantId
  | .flush label => label ≠ .upsertUsage false
  | .proceed => server.run = .stoppingMetrics → server.meter.flusher = .stopped
  | _ => True

instance orderlyDecidable (server : Server) (label : ServerLabel) : Decidable (server.Orderly label) :=
  match label with
  | .stream index _ => inferInstanceAs (Decidable (∀ stream ∈ server.streams[index]?,
      stream.phase = .located → server.meter.flusher.Reads stream.tenantId))
  | .flush label => inferInstanceAs (Decidable (label ≠ .upsertUsage false))
  | .proceed => inferInstanceAs (Decidable (server.run = .stoppingMetrics → server.meter.flusher = .stopped))
  | .accept _ | .signal | .serverFails _ => .isTrue trivial

structure Complete (server : Server) : Prop where
  conserved : Conserved server
  drained : server.meter.Drained
  stopped : server.run = .returned → server.meter.flusher = .stopped

theorem Steps.complete (steps : Steps server label next) (complete : Complete server)
    (orderly : server.Orderly label) : Complete next := by
  refine ⟨steps.conserved complete.conserved, ?_, ?_⟩
  · cases steps with
    | @streamed _ _ stream _ _ _ present stepped =>
      refine ⟨?_, complete.drained.accepted⟩
      intro tenantId unread
      have empty := complete.drained.unread tenantId unread
      rcases streamStep_count stepped with ⟨located, rfl, rfl⟩ | ⟨_, counts⟩
      · have reads := orderly stream present located
        rw [Recorder.count_add, empty, if_neg]
        · rfl
        · rintro rfl
          exact unread reads
      · rw [counts, empty]
    | flushed _ flushes => exact flushes.drained complete.drained orderly
    | _ => exact complete.drained
  · intro returned
    cases steps with
    | flushed running =>
      rw [show server.run = .returned from returned] at running
      cases running
    -- `run` itself does not wait for the flusher
    | proceeded last => exact orderly (last returned)
    | failed => cases returned
    | _ => exact complete.stopped returned

theorem new_complete : Complete new where
  conserved := fun _ => rfl
  drained := Meter.new_drained
  stopped := nofun

/-- In an orderly run every recorded unit has been passed once when `run` returns. -/
theorem orderly_shutdown_passes_all (reached : system.Reaches Orderly new server) (returned : server.run = .returned)
    (tenantId : TenantId) : usage tenantId server.meter.passed = server.recorded tenantId := by
  have complete : Complete server := by
    apply reached.invariant Complete new_complete
    intro before label after orderly stepped complete
    exact (step_steps stepped).complete complete orderly
  rw [complete.conserved tenantId]
  exact (complete.drained.accounted_of_stopped (complete.stopped returned) tenantId).symm

end Run

def recordUnit : List ServerLabel :=
  [.stream 0 true, .stream 0 true, .stream 0 true, .stream 0 true]

def finalSnapshot : List ServerLabel :=
  .flush (.done 60) :: List.replicate (2 * shardFor "acme" + 1) (.flush .advance) ++
    .flush (.swap "acme") :: List.replicate (2 * (shardCount - shardFor "acme")) (.flush .advance)

def proceedToReturn : List ServerLabel := [.proceed, .proceed, .proceed, .proceed]

theorem recorded_unit_passed : ∃ server : Server, server.run = .returned ∧ server.recorded "acme" = 1 ∧
      usage "acme" server.meter.passed = 1 := by
  obtain ⟨server, reached, returned, unit⟩ := System.exists_reaches_of_run system Orderly new
    ([.accept "acme"] ++ recordUnit ++ [.signal] ++ finalSnapshot ++ [.flush (.upsertUsage true)] ++ proceedToReturn)
    (fun server => server.run = .returned ∧ server.recorded "acme" = 1)
    (by decide +kernel) (by decide)
  refine ⟨server, returned, unit, ?_⟩
  rw [orderly_shutdown_passes_all reached returned, unit]

/-- The final flush may end before the unit of a stream in flight is recorded, and `run` may
return before a unit that the final flush has found is passed. -/
theorem units_lost_at_shutdown : (∃ server : Server, system.Reachable new server ∧ server.run = .returned ∧
      server.meter.flusher = .stopped ∧ server.recorded "acme" = 1 ∧ usage "acme" server.meter.passed = 0) ∧
    ∃ server : Server, system.Reachable new server ∧ server.run = .returned ∧
      server.meter.flusher ≠ .stopped ∧ server.recorded "acme" = 1 ∧ usage "acme" server.meter.passed = 0 := by
  constructor
  · exact System.exists_reachable_of_run system new
      ([.accept "acme", .signal, .flush (.done 60)] ++
        List.replicate (2 * shardCount + 1) (.flush .advance) ++ recordUnit ++ proceedToReturn) _
      (by decide +kernel)
  · exact System.exists_reachable_of_run system new
      ([.accept "acme"] ++ recordUnit ++ [.signal] ++ finalSnapshot ++ proceedToReturn) _
      (by decide +kernel)

end Server

end Blazil.Gateway
