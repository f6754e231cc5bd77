import Saga.Engine.Instance

/-!
# The orchestrator

The orchestrator runs sagas over one persistence (and optionally a bus) and keeps track of
the sagas it is running, each under its own cancellation token. A saga can run only once at
a time; cancelling removes it from the running ones and cancels its token. Every run gets a
generation number, and a finished run forgets its saga only if no later run of it started.

A run announces the saga's start (for a first execution), runs or resumes the instance,
announces its completion or failure with its duration, and saves the instance once more
unless it reached a terminal status. The run's result is the instance's; when the instance
succeeded, a failure to announce the completion is the result. A run can also be started in
the background, as a detached task whose handle tells when it ended and how.
-/

namespace Saga

namespace World

/-- Whether saga `id` is among the running ones. -/
def isRunning (w : World) (id : String) : Bool := w.running.any (·.sagaId == id)

/-- Starts tracking saga `id` under a fresh root token and the next generation; a saga already
running is refused. -/
def track (w : World) (id : String) : Outcome Tracked × World :=
  if w.isRunning id then
    (.error ((Error.invalidState ("saga " ++ id ++ " is already running")).withContext "saga_id" id), w)
  else
    let (tok, w) := w.newToken none
    let t : Tracked := ⟨id, w.generations, tok⟩
    (.ok t, { w with running := w.running ++ [t], generations := w.generations + 1 })

/-- Stops tracking saga `id`; answers its run when it was running. -/
def dropRunning (w : World) (id : String) : Option Tracked × World :=
  match w.running.find? (·.sagaId == id) with
  | some t => (some t, { w with running := w.running.filter (·.sagaId != id) })
  | none => (none, w)

end World

namespace Engine

open Act

/-- What an orchestrator runs with. -/
structure Orchestrator where
  keeping : Persist.Settings
  bus : Bool
  deriving Inhabited

/-- How a tracked run starts. -/
inductive RunMode where
  | execute
  | resume
  deriving BEq

namespace Orchestrator

/-- Whether saga `id` is running. -/
def isRunning (id : String) : Act Bool := Proc.read (·.isRunning id)

/-- How many sagas are running. -/
def runningCount : Act Nat := Proc.read (·.running.length)

/-- Starts tracking saga `id` with a fresh token; a saga already running is refused. -/
def track (id : String) : Flow Tracked := lift (Proc.update (·.track id))

/-- The world without run `t` among the running ones; a later run of the saga stays. -/
def release (t : Tracked) (w : World) : World :=
  { w with running := w.running.filter fun r => !(r.sagaId == t.sagaId && r.generation == t.generation) }

/-- Stops tracking a run, unless a later run of the saga replaced it. -/
def untrack (t : Tracked) : Act Unit := Proc.modify (release t)

/-- The runtime of a run under token `tok`. -/
def runtime (o : Orchestrator) (tok : Nat) : Runtime := { keeping := some o.keeping, bus := o.bus, token := tok }

/-- Runs or resumes instance `i` under token `tok`, with its announcements and final save. -/
def run (o : Orchestrator) (i tok : Nat) (mode : RunMode) : Flow Unit := do
  let rt := o.runtime tok
  let started ← wall
  if mode == .execute then publish rt i (← lifecycle i .sagaStarted)
  let result ← act (match mode with
    | .execute => executeInstance rt i
    | .resume => resumeInstance rt i).run
  let finished ← wall
  let duration := ((Instant.spanBetween started finished).getD Span.zero).toMillis
  let terminal ← match result with
    | .ok () => pure { (← lifecycle i .sagaCompleted) with durationMs := some duration }
    | .error e => pure { (← lifecycle i .sagaFailed) with durationMs := some duration, error := some e.message }
  let published ← act (publish rt i terminal).run
  let inst ← Act.inst i
  if !inst.status.isTerminal then
    let _ ← act (state (Persist.save o.keeping inst.toState))
  match result with
  | .ok () => lift (pure published)
  | .error e => throw e

/-- Runs a tracked saga and forgets it afterwards. -/
def runTracked (o : Orchestrator) (i : Nat) (t : Tracked) (mode : RunMode) : Flow Unit := do
  let r ← act (o.run i t.token mode).run
  untrack t
  lift (pure r)

/-- Executes a pending instance. -/
def execute (o : Orchestrator) (i : Nat) : Flow Unit := do
  let inst ← Act.inst i
  if inst.status != .pending then
    throw ((Error.invalidState ("cannot execute saga " ++ inst.id ++ " in status " ++
      inst.status.name)).withContext "saga_id" inst.id)
  let t ← track inst.id
  o.runTracked i t .execute

/-- Compensates an instance that is not running. -/
def compensate (o : Orchestrator) (i : Nat) : Flow Unit := do
  let inst ← Act.inst i
  if ← isRunning inst.id then
    throw ((Error.invalidState ("saga " ++ inst.id ++ " is running; cancel it before compensating")).withContext
      "saga_id" inst.id)
  let tok ← rootToken
  compensateInstance (o.runtime tok) i

/-- Loads a saga and runs it again; answers the loaded instance's number with the result. -/
def resume (o : Orchestrator) (id : String) : Flow Unit := do
  let inst ← lift (state (Persist.load o.keeping id))
  let i ← act (Proc.update (·.addInst inst))
  if !(inst.status == .pending || inst.status == .running) then
    throw ((Error.invalidState ("cannot resume saga " ++ id ++ " in status " ++ inst.status.name)).withContext
      "saga_id" id)
  let t ← track id
  o.runTracked i t .resume

/-- Creates a pending instance of the definition registered as `name`, under a fresh id;
answers its number. -/
def createInstance (name : String) (ctx : SagaContext) : Flow Nat := do
  match ← act (Proc.read fun w => w.registry.get? name) with
  | none => throw (Error.definitionNotFound name)
  | some d =>
    let id ← freshId
    let now ← wall
    act (Proc.update (·.addInst (Instance.create id d ctx now)))

/-- Starts executing instance `i` in the background, tracked from the start; answers the
handle of the run. A run that halts is forgotten all the same. -/
def start (o : Orchestrator) (i : Nat) : Flow Nat := do
  let inst ← Act.inst i
  let t ← track inst.id
  let k ← act (Proc.update (·.openHandle inst.id))
  act (Proc.spawn (do
      let r ← (o.runTracked i t .execute).run
      Proc.modify (·.settleHandle k r))
    fun reason w => release t (w.endHandle k reason))
  return k

/-- The status saved for saga `id`. -/
def status (id : String) : Flow SagaStatus := lift (state (Persist.status id))

/-- Cancels a running saga. -/
def cancel (id : String) : Flow Unit := do
  let found ← act (Proc.update (·.dropRunning id))
  match found with
  | some t => Act.cancel t.token
  | none => throw ((Error.invalidState ("saga " ++ id ++ " is not running")).withContext "saga_id" id)

end Orchestrator

end Engine

end Saga
