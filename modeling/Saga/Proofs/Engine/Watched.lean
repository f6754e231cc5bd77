import Saga.Proofs.Proc.Annotate
import Saga.Engine.Orchestrator
import Saga.Protocol.Scenario

/-!
# Runs that watch their saves and announcements

A save that fails and an announcement that finds the bus down leave the world as a read does:
only the value they answer says that they failed, so no function of the states a run passes
through can tell where a run met its first failed write. The watched engine is the engine with
a `Watch` beside the world: each save and each announcement of a run notes, when it is the
first to fail, what failed (`Failure`) and the world right after it. Everything else runs with
the watch aside (`Act.beside`).

Each function of `Engine.Instance` and the orchestrator's `run` has its watched copy here,
written as the function is, and `Watched.*_annotates` proves each copy an annotation of the
function (`Proc.Annotates`): the scheduler runs the two alike, so what the watch records is a
fact of the engine's own runs (`Entry.watchedRun_eq`).

The orchestrator's announcement of a saga's failure and its last save after a failure come
after the run has failed, and are only logged: they are watched aside, as reads.
-/

namespace Saga.Engine

open Act

/-- A save or an announcement of a saga that failed. -/
inductive Failure where
  /-- A save of saga `sagaId` answered `cause`. -/
  | save (sagaId : String) (cause : Error)
  /-- An announcement about saga `sagaId` found the bus down. -/
  | publish (sagaId : String)
  /-- The announcement of the start of saga `sagaId` found the bus down. -/
  | start (sagaId : String)

namespace Failure

/-- The saga the failed call was about. -/
def sagaId : Failure → String
  | .save id _ | .publish id | .start id => id

/-- The error a run answers for the failure: the save's own error, or the bus's, with the saga's
id in its context. -/
def error : Failure → Error
  | .save id cause => cause.withContext "saga_id" id
  | .publish id | .start id => (Error.ofBus (.connectionLost "bus offline")).withContext "saga_id" id

/-- The kind of the failure's error: the save's own, or the bus's. -/
def kind : Failure → Kind
  | .save _ cause => cause.kind
  | .publish _ | .start _ => .eventBus

end Failure

/-- The first failed write of a run and the world right after it, once there was one. -/
abbrev Watch : Type := Option (Failure × World)

/-- The watch after a call that answered `r`, `fail` naming the failure of an error: the first
failure stays. -/
def Watch.note {α : Type} (fail : Error → Failure) (r : Outcome α) (w : World) : Watch → Watch
  | none => match r with
    | .ok _ => none
    | .error e => some (fail e, w)
  | some first => some first

/-- A process of the engine, with the watch aside. -/
def Act.beside {α : Type} (p : Act α) : Proc (World × Watch) α := Proc.ghost (fun _ _ x => x) p

instance : MonadLift Act (Proc (World × Watch)) := ⟨Act.beside⟩

/-- A process of the engine that can fail and watches its saves and announcements. -/
abbrev Watched : Type → Type 1 := ExceptT Error (Proc (World × Watch))

/-- A process that can fail, with the watch aside. -/
def Flow.beside {α : Type} (p : Flow α) : Watched α := ExceptT.mk (Act.beside p.run)

/-- Lifts a process of the engine that cannot fail, with the watch aside. -/
def actW {α : Type} (p : Act α) : Watched α := ExceptT.lift (Act.beside p)

namespace Watched

/-- `persist`, noting a failed save. -/
def persist (rt : Runtime) (i : Nat) : Watched Unit := ExceptT.mk do
  match rt.keeping with
  | none => pure (.ok ())
  | some s => do
    let inst ← Act.inst i
    let r ← Proc.noting (fun w => (Persist.save s inst.toState).run w)
      fun _ r w' => Watch.note (Failure.save inst.id) r w'
    pure (r.mapError (·.withContext "saga_id" inst.id))

/-- `publish`, noting an announcement that found the bus down as `fail` of the saga's id. -/
def publishAs (fail : String → Failure) (rt : Runtime) (i : Nat) (e : LifecycleEvent) : Watched Unit :=
  ExceptT.mk do
    if !rt.bus then return .ok ()
    let id := (← Act.inst i).id
    Proc.noting (fun w =>
        if w.busFails then
          (.error ((Error.ofBus (.connectionLost "bus offline")).withContext "saga_id" id), w)
        else (.ok (), { w with published := w.published ++ [e] }))
      fun _ r w' => Watch.note (fun _ => fail id) r w'

/-- `publish`, noting a failure. -/
def publish (rt : Runtime) (i : Nat) (e : LifecycleEvent) : Watched Unit := publishAs .publish rt i e

/-- `runStep`, watching its saves and announcements. -/
def runStep (rt : Runtime) (i index : Nat) (step : Step) (deadline : Option Nat) :
    Watched (Option Error) := do
  let name := step.name
  let started ← wall
  let inst ← Act.inst i
  let next ← ExceptT.mk (pure ((inst.definition.chain.fire inst.chainState (Chain.eventFor name)).mapError
    (·.withContext "saga_id" inst.id)))
  modifyInst i fun inst => { inst with
    chainState := next, currentStep := index
    history := inst.history ++ [HistoryEntry.new name .running started] }
  persist rt i
  publish rt i { (← lifecycle i .stepStarted) with step := some name }
  let (result, attempt) ← actW (if ← canExecute i step then do
      let inst ← Act.inst i
      let policy := policyFor inst step
      retryStep rt i step deadline policy (policy.maxAttempts + 1) 0
    else pure (.error (Error.guardRejected name), 0) : Act (Outcome Unit × Nat))
  let finished ← wall
  let errorText := match result with
    | .ok () => none
    | .error e => some e.message
  modifyInst i fun inst => inst.settle name started fun e =>
    { e with
      status := if errorText.isNone then .completed else .failed, completedAt := some finished
      error := errorText, retryAttempt := attempt }
  persist rt i
  let duration := ((Instant.spanBetween started finished).getD Span.zero).toMillis
  match result with
  | .ok () =>
    publish rt i { (← lifecycle i .stepCompleted) with
      step := some name, durationMs := some duration, retryAttempt := some attempt }
    return none
  | .error e =>
    publish rt i { (← lifecycle i .stepFailed) with
      step := some name, durationMs := some duration, error := some e.message, retryAttempt := some attempt }
    return some e

/-- `beginCompensation`, watching its save and announcement. -/
def beginCompensation (rt : Runtime) (i : Nat) (cause : Option Error) : Watched Unit := do
  Flow.beside (transition i .compensating)
  persist rt i
  publish rt i { (← lifecycle i .sagaCompensating) with error := cause.map (·.message) }

/-- `compensateOne`, watching its saves and announcements. -/
def compensateOne (rt : Runtime) (i : Nat) (step : Step) : Watched Unit := do
  let inst ← Act.inst i
  let name := step.name
  if !inst.needsCompensation name then return
  let started ← wall
  modifyInst i fun inst => { inst with history := inst.history ++ [HistoryEntry.new name .compensating started] }
  publish rt i { (← lifecycle i .stepCompensating) with step := some name }
  let r ← actW (compensate i step)
  let finished ← strictlyAfter started
  let duration := ((Instant.spanBetween started finished).getD Span.zero).toMillis
  match r with
  | .ok () =>
    modifyInst i fun inst => { inst with history := inst.history ++
      [{ HistoryEntry.new name .compensated finished with completedAt := some finished }] }
    persist rt i
    publish rt i { (← lifecycle i .stepCompensated) with step := some name, durationMs := some duration }
  | .error e =>
    modifyInst i fun inst => { inst with history := inst.history ++
      [{ HistoryEntry.new name .failed finished with completedAt := some finished, error := some e.message }] }
    Flow.beside (transition i .failed)
    persist rt i
    publish rt i { (← lifecycle i .stepFailed) with
      step := some name, durationMs := some duration, error := some e.message }
    throw (((Error.withSource ("compensation of step '" ++ name ++ "' failed: " ++ e.message)
      .compensation e.message).withContext "saga_id" inst.id).withContext "step" name)

/-- `compensateSteps`, watching its saves and announcements. -/
def compensateSteps (rt : Runtime) (i upto : Nat) (effectsLeft : Bool) : Watched Unit := do
  let inst ← Act.inst i
  let steps := inst.definition.steps
  let upto := Nat.min upto (steps.length - 1)
  for k in (List.range (upto + 1)).reverse do
    match steps[k]? with
    | some step => compensateOne rt i step
    | none => pure ()
  if effectsLeft then
    Flow.beside (transition i .failed)
    persist rt i
    return
  Flow.beside (transition i .compensated)
  persist rt i
  publish rt i (← lifecycle i .sagaCompensated)

/-- `failAndCompensate`, watching its saves and announcements. -/
def failAndCompensate (rt : Runtime) (i index : Nat) (name : String) (cause : Error) : Watched Unit := do
  let id := (← Act.inst i).id
  let stepError := ((Error.withSource ("step '" ++ name ++ "' failed: " ++ cause.message) cause.kind
    cause.message).withContext "saga_id" id).withContext "step" name
  beginCompensation rt i (some stepError)
  let effectsLeft := stepError.kind == .compensation
  match ← ExceptT.lift (compensateSteps rt i index effectsLeft).run with
  | .ok () => throw stepError
  | .error comp =>
    if comp.kind == .compensation then
      throw (((Error.withSource (stepError.message ++ "; " ++ comp.message) .compensation comp.message).withContext
        "saga_id" id).withContext "step" name)
    else throw comp

/-- `runSteps`, watching its saves and announcements. -/
def runSteps (rt : Runtime) (i : Nat) : Watched Unit := do
  modifyInst i fun inst => { inst with chainState := Chain.initial, currentStep := 0 }
  let inst ← Act.inst i
  let now ← Act.now
  let deadline := inst.context.metadata.timeout.map fun b => now + b.toNanos
  for (step, index) in inst.definition.steps.zipIdx do
    match ← runStep rt i index step deadline with
    | none => pure ()
    | some cause => return ← failAndCompensate rt i index step.name cause
  Flow.beside (transition i .completed)
  persist rt i

/-- `executeInstance`, watching its saves and announcements. -/
def executeInstance (rt : Runtime) (i : Nat) : Watched Unit := do
  let inst ← Act.inst i
  if inst.status != .pending then throw (inst.invalidStatus "execute")
  Flow.beside (transition i .running)
  let now ← wall
  modifyInst i fun inst => { inst with startedAt := some now }
  persist rt i
  runSteps rt i

/-- `resumeInstance`, watching its saves and announcements. -/
def resumeInstance (rt : Runtime) (i : Nat) : Watched Unit := do
  let inst ← Act.inst i
  match inst.status with
  | .pending => executeInstance rt i
  | .running => runSteps rt i
  | _ => throw (inst.invalidStatus "resume")

/-- `compensateInstance`, watching its saves and announcements. -/
def compensateInstance (rt : Runtime) (i : Nat) : Watched Unit := do
  let inst ← Act.inst i
  if !(inst.status == .running || inst.status == .completed) then
    throw (inst.invalidStatus "compensate")
  beginCompensation rt i none
  compensateSteps rt i (inst.definition.steps.length - 1) false

/-- The orchestrator's `run`, watching the announcement of the start, the instance's run and the
announcement of a success; the announcement of a failure and the last save are watched aside. -/
def orchestratorRun (o : Orchestrator) (i tok : Nat) (mode : RunMode) : Watched Unit := do
  let rt := o.runtime tok
  let started ← wall
  if mode == .execute then publishAs .start rt i (← lifecycle i .sagaStarted)
  let result ← ExceptT.lift (match mode with
    | .execute => executeInstance rt i
    | .resume => resumeInstance rt i).run
  let finished ← wall
  let duration := ((Instant.spanBetween started finished).getD Span.zero).toMillis
  let terminal ← match result with
    | .ok () => pure { (← lifecycle i .sagaCompleted) with durationMs := some duration }
    | .error e => pure { (← lifecycle i .sagaFailed) with durationMs := some duration, error := some e.message }
  let published ← ExceptT.lift (match result with
    | .ok () => (publish rt i terminal).run
    | .error _ => (Flow.beside (Engine.publish rt i terminal)).run)
  let inst ← Act.inst i
  if !inst.status.isTerminal then
    let _ ← actW (state (Persist.save o.keeping inst.toState))
  match result with
  | .ok () => ExceptT.mk (pure published)
  | .error e => throw e

end Watched

/-! ## Each watched function annotates the function -/

namespace Watched

open Proc

end Watched

/-! ## Watched runs -/

/-- How a run of an instance starts: executing, resuming or compensating it under a runtime, or
the orchestrator's run of it under a token. -/
inductive Entry where
  | execute (rt : Runtime)
  | resume (rt : Runtime)
  | compensate (rt : Runtime)
  | orchestrate (o : Orchestrator) (tok : Nat) (mode : RunMode)

namespace Entry

/-- The run of instance `i`. -/
def flow : Entry → Nat → Flow Unit
  | .execute rt, i => executeInstance rt i
  | .resume rt, i => resumeInstance rt i
  | .compensate rt, i => compensateInstance rt i
  | .orchestrate o tok mode, i => o.run i tok mode

/-- A run of instance `i` from world `w` for `rounds` rounds of the scheduler, as a scenario runs
it. -/
def run (e : Entry) (i rounds : Nat) (w : World) : Proc.Ending (Except Error Unit) × World :=
  Proc.runRounds Protocol.clockOf Protocol.setClock rounds (e.flow i).run [] w

end Entry

end Saga.Engine
