import Saga.Engine.Step

/-!
# Running an instance

`execute` starts a pending instance and runs its steps; `resume` starts a pending one or
runs a running one's steps again from the first; `compensate` undoes a running or
completed one by hand.

Running the steps: each step fires its chain event, gets a running history entry, is saved
and announced, then runs under its guard and retry loop, and its entry is settled, saved and
announced. A saga with a time budget gives every attempt at most what is left of it, and
an attempt with nothing left fails at once. Each attempt runs under a token below the
run's, cancelled when the attempt ends. A failed step starts compensation: the steps before
it (and itself) that completed and were not compensated are undone, last first. The first
compensation failure ends the saga `failed`; a step that failed with a compensation error
left effects behind, so its saga also ends `failed`, otherwise it ends `compensated`.

Saving and announcing are optional (the runtime says whether there is a persistence and a
bus), and their failures stop the run.
-/

namespace Saga

namespace Engine

open Act

/-- Lifts a process that can fail. -/
def lift (p : Act (Outcome α)) : Flow α := ExceptT.mk p

/-- Lifts a process that cannot fail; a process answering an outcome keeps it as a value. -/
def act (p : Act α) : Flow α := ExceptT.lift p

/-- Saves instance `i`, when the runtime has a persistence. -/
def persist (rt : Runtime) (i : Nat) : Flow Unit := lift do
  match rt.keeping with
  | none => pure (.ok ())
  | some s => do
    let inst ← Act.inst i
    let r ← state (Persist.save s inst.toState)
    pure (r.mapError (·.withContext "saga_id" inst.id))

/-- The lifecycle event of instance `i`, stamped now. -/
def lifecycle (i : Nat) (kind : LifecycleKind) : Act LifecycleEvent := do
  let inst ← Act.inst i
  let now ← wall
  pure { kind, sagaId := inst.id, correlationId := inst.context.correlationId,
         definitionName := inst.definition.name, occurredAt := now }

/-- Publishes an event of instance `i`, when a bus listens. -/
def publish (rt : Runtime) (i : Nat) (e : LifecycleEvent) : Flow Unit := lift do
  if !rt.bus then return .ok ()
  let id := (← Act.inst i).id
  Proc.update fun w =>
    if w.busFails then
      (.error ((Error.ofBus (.connectionLost "bus offline")).withContext "saga_id" id), w)
    else (.ok (), { w with published := w.published ++ [e] })

/-- Moves instance `i` to status `next`. -/
def transition (i : Nat) (next : SagaStatus) : Flow Unit := lift do
  let inst ← Act.inst i
  let now ← if next.isTerminal then wall else pure inst.createdAt
  match inst.transition next now with
  | .ok inst => do modifyInst i fun _ => inst; pure (.ok ())
  | .error e => pure (.error e)

/-- The retry policy of a step: its own, the context's, the definition's, or one attempt. -/
def policyFor (inst : Instance) (step : Step) : Retry.Policy :=
  match step.retryPolicy with
  | some p => p
  | none => match inst.context.metadata.retryPolicy with
    | some p => p
    | none => inst.definition.retryPolicy.getD Retry.Policy.noRetry

/-- One attempt of a step of instance `i`. -/
def runAttempt (rt : Runtime) (i : Nat) (step : Step) (deadline : Option Nat) : Act (Outcome Unit) := do
  let inst ← Act.inst i
  let name := step.name
  let stepLimit := step.timeout.orElse fun _ => inst.definition.defaultStepTimeout
  let now ← Act.now
  let remaining := deadline.map fun d => d - now
  if remaining == some 0 then
    return .error ((Error.timeout ("saga " ++ inst.id ++ " exceeded its timeout before step '" ++
      name ++ "'")).withContext "step" name)
  let limit := match stepLimit, remaining with
    | some a, some b => some (Span.min a (Span.ofNanos b))
    | a, b => a.orElse fun _ => b.map Span.ofNanos
  let tok ← childToken rt.token
  let execution : Act (Outcome Unit) := match limit with
    | some l => do
      match ← within l (execute i tok step) with
      | some r => pure r
      | none => pure (.error ((timedOut name l).withContext "step" name))
    | none => execute i tok step
  let r ← match ← unlessCancelled rt.token execution with
    | some r => pure r
    | none => pure (.error (Instance.cancelledIn inst.id name))
  cancel tok
  return r

/-- Attempts of a step from attempt `attempt` on; answers the result and the last attempt. -/
def retryStep (rt : Runtime) (i : Nat) (step : Step) (deadline : Option Nat) (policy : Retry.Policy) :
    Nat → Nat → Act (Outcome Unit × Nat)
  | 0, attempt => pure (.error (Error.new "retry budget exhausted" .unknown), attempt)
  | fuel + 1, attempt => do
    match ← runAttempt rt i step deadline with
    | .ok () => pure (.ok (), attempt)
    | .error e =>
      let now ← Act.now
      let budgetLeft := deadline.all fun d => now < d
      if (← isCancelled rt.token) || !budgetLeft || !policy.shouldRetry e attempt then
        pure (.error e, attempt)
      else
        match ← unlessCancelled rt.token (sleepFor (policy.delay attempt)) with
        | none => pure (.error (Instance.cancelledIn (← Act.inst i).id step.name), attempt)
        | some () => retryStep rt i step deadline policy fuel (attempt + 1)

/-- Runs step `index` of instance `i`: the outer error stops the run, an inner one is the
step's failure. -/
def runStep (rt : Runtime) (i index : Nat) (step : Step) (deadline : Option Nat) :
    Flow (Option Error) := do
  let name := step.name
  let started ← wall
  let inst ← Act.inst i
  let next ← lift (pure ((inst.definition.chain.fire inst.chainState (Chain.eventFor name)).mapError
    (·.withContext "saga_id" inst.id)))
  modifyInst i fun inst => { inst with
    chainState := next, currentStep := index
    history := inst.history ++ [HistoryEntry.new name .running started] }
  persist rt i
  publish rt i { (← lifecycle i .stepStarted) with step := some name }
  let (result, attempt) ← act (if ← canExecute i step then do
      let inst ← Act.inst i
      let policy := policyFor inst step
      retryStep rt i step deadline policy (policy.maxAttempts + 1) 0
    else pure (.error (Error.guardRejected name), 0) : Act (Outcome Unit × Nat))
  let finished ← wall
  let errorText := match result with
    | .ok () => none
    | .error e => some e.message
  modifyInst i fun inst => inst.settle name started fun e =>
    { e with
      status := if errorText.isNone then .completed else .failed, completedAt := some finished
      error := errorText, retryAttempt := attempt }
  persist rt i
  let duration := ((Instant.spanBetween started finished).getD Span.zero).toMillis
  match result with
  | .ok () =>
    publish rt i { (← lifecycle i .stepCompleted) with
      step := some name, durationMs := some duration, retryAttempt := some attempt }
    return none
  | .error e =>
    publish rt i { (← lifecycle i .stepFailed) with
      step := some name, durationMs := some duration, error := some e.message, retryAttempt := some attempt }
    return some e

/-- Enters compensation, announcing the cause when there is one. -/
def beginCompensation (rt : Runtime) (i : Nat) (cause : Option Error) : Flow Unit := do
  transition i .compensating
  persist rt i
  publish rt i { (← lifecycle i .sagaCompensating) with error := cause.map (·.message) }

/-- A wall clock reading strictly after `t`. -/
def strictlyAfter (t : Instant) : Act Instant := do
  let now ← wall
  pure (if t < now then now else t.addNanos 1000)

/-- Compensates step `index` of instance `i` when it needs it. -/
def compensateOne (rt : Runtime) (i : Nat) (step : Step) : Flow Unit := do
  let inst ← Act.inst i
  let name := step.name
  if !inst.needsCompensation name then return
  let started ← wall
  modifyInst i fun inst => { inst with history := inst.history ++ [HistoryEntry.new name .compensating started] }
  publish rt i { (← lifecycle i .stepCompensating) with step := some name }
  let r ← act (compensate i step)
  let finished ← strictlyAfter started
  let duration := ((Instant.spanBetween started finished).getD Span.zero).toMillis
  match r with
  | .ok () =>
    modifyInst i fun inst => { inst with history := inst.history ++
      [{ HistoryEntry.new name .compensated finished with completedAt := some finished }] }
    persist rt i
    publish rt i { (← lifecycle i .stepCompensated) with step := some name, durationMs := some duration }
  | .error e =>
    modifyInst i fun inst => { inst with history := inst.history ++
      [{ HistoryEntry.new name .failed finished with completedAt := some finished, error := some e.message }] }
    transition i .failed
    persist rt i
    publish rt i { (← lifecycle i .stepFailed) with
      step := some name, durationMs := some duration, error := some e.message }
    throw (((Error.withSource ("compensation of step '" ++ name ++ "' failed: " ++ e.message)
      .compensation e.message).withContext "saga_id" inst.id).withContext "step" name)

/-- Compensates steps `upto` down to the first, then settles the saga's status. -/
def compensateSteps (rt : Runtime) (i upto : Nat) (effectsLeft : Bool) : Flow Unit := do
  let inst ← Act.inst i
  let steps := inst.definition.steps
  let upto := Nat.min upto (steps.length - 1)
  for k in (List.range (upto + 1)).reverse do
    match steps[k]? with
    | some step => compensateOne rt i step
    | none => pure ()
  if effectsLeft then
    transition i .failed
    persist rt i
    return
  transition i .compensated
  persist rt i
  publish rt i (← lifecycle i .sagaCompensated)

/-- Compensates after step `index` failed with `cause`. -/
def failAndCompensate (rt : Runtime) (i index : Nat) (name : String) (cause : Error) : Flow Unit := do
  let id := (← Act.inst i).id
  let stepError := ((Error.withSource ("step '" ++ name ++ "' failed: " ++ cause.message) cause.kind
    cause.message).withContext "saga_id" id).withContext "step" name
  beginCompensation rt i (some stepError)
  let effectsLeft := stepError.kind == .compensation
  match ← act (compensateSteps rt i index effectsLeft).run with
  | .ok () => throw stepError
  | .error comp =>
    if comp.kind == .compensation then
      throw (((Error.withSource (stepError.message ++ "; " ++ comp.message) .compensation comp.message).withContext
        "saga_id" id).withContext "step" name)
    else throw comp

/-- Runs every step of instance `i` from the first. -/
def runSteps (rt : Runtime) (i : Nat) : Flow Unit := do
  modifyInst i fun inst => { inst with chainState := Chain.initial, currentStep := 0 }
  let inst ← Act.inst i
  let now ← Act.now
  let deadline := inst.context.metadata.timeout.map fun b => now + b.toNanos
  for (step, index) in inst.definition.steps.zipIdx do
    match ← runStep rt i index step deadline with
    | none => pure ()
    | some cause => return ← failAndCompensate rt i index step.name cause
  transition i .completed
  persist rt i

/-- Starts a pending instance and runs its steps. -/
def executeInstance (rt : Runtime) (i : Nat) : Flow Unit := do
  let inst ← Act.inst i
  if inst.status != .pending then throw (inst.invalidStatus "execute")
  transition i .running
  let now ← wall
  modifyInst i fun inst => { inst with startedAt := some now }
  persist rt i
  runSteps rt i

/-- Starts a pending instance, or runs a running one's steps again. -/
def resumeInstance (rt : Runtime) (i : Nat) : Flow Unit := do
  let inst ← Act.inst i
  match inst.status with
  | .pending => executeInstance rt i
  | .running => runSteps rt i
  | _ => throw (inst.invalidStatus "resume")

/-- Compensates a running or completed instance by hand. -/
def compensateInstance (rt : Runtime) (i : Nat) : Flow Unit := do
  let inst ← Act.inst i
  if !(inst.status == .running || inst.status == .completed) then
    throw (inst.invalidStatus "compensate")
  beginCompensation rt i none
  compensateSteps rt i (inst.definition.steps.length - 1) false

end Engine

end Saga
