import Saga.Definition
import Saga.State

/-!
# Saga instances

An instance is one saga being run: its id, its definition, its context, when it was created,
and its changing state: status, current step, position in the definition's chain, history,
and when it started and finished.

Status changes follow `SagaStatus.canBecome`; any other change is refused with an
`invalid_state` error. Entering a terminal status stamps the finish time, leaving one clears
it. A step needs compensation when its history has a completed entry and no compensated one.
-/

namespace Saga

/-- A saga being run. -/
structure Instance where
  id : String
  definition : Definition
  context : SagaContext
  createdAt : Instant
  status : SagaStatus := .pending
  currentStep : Nat := 0
  chainState : String := Chain.initial
  history : List HistoryEntry := []
  startedAt : Option Instant := none
  completedAt : Option Instant := none
  deriving Inhabited

namespace Instance

/-- A pending instance created at `now`. -/
def create (id : String) (definition : Definition) (context : SagaContext) (now : Instant) :
    Instance :=
  { id, definition, context, createdAt := now }

/-- The saved image of the instance. -/
def toState (i : Instance) : SagaState :=
  { id := i.id, definitionName := i.definition.name, status := i.status,
    currentStep := i.currentStep, context := i.context.toMap, history := i.history,
    createdAt := i.createdAt, startedAt := i.startedAt, completedAt := i.completedAt }

/-- Rebuilds an instance from its saved image under `definition`, which must be the one the
image names. A context without correlation id gets `freshId`, one without metadata gets
metadata created at `now`. -/
def fromState (st : SagaState) (definition : Definition) (now : Instant) (freshId : String) :
    Outcome Instance :=
  if st.definitionName != definition.name then
    .error ((Error.validation "definition_name" ("state references definition '" ++
      st.definitionName ++ "', got '" ++ definition.name ++ "'")).withContext "saga_id" st.id)
  else
    match SagaContext.ofMap st.context now freshId with
    | .error e => .error (e.withContext "saga_id" st.id)
    | .ok context =>
      .ok { id := st.id, definition, context, createdAt := st.createdAt, status := st.status,
            currentStep := st.currentStep, history := st.history, startedAt := st.startedAt,
            completedAt := st.completedAt }

/-- Moves to status `next`; a terminal status is stamped with `now`. -/
def transition (i : Instance) (next : SagaStatus) (now : Instant) : Outcome Instance :=
  if i.status.canBecome next then
    .ok { i with status := next, completedAt := if next.isTerminal then some now else none }
  else
    .error ((Error.invalidState ("invalid saga transition " ++ i.status.name ++ " -> " ++
      next.name)).withContext "saga_id" i.id)

/-- The refusal of an operation in the instance's status. -/
def invalidStatus (i : Instance) (operation : String) : Error :=
  ((Error.invalidState ("cannot " ++ operation ++ " saga " ++ i.id ++ " in status '" ++
    i.status.name ++ "'")).withContext "saga_id" i.id).withContext "status" i.status.name

/-- The error of a run cancelled while step `step` ran. -/
def cancelledIn (id step : String) : Error :=
  ((Error.cancelled ("saga " ++ id ++ " cancelled during step '" ++ step ++ "'")).withContext
    "saga_id" id).withContext "step" step

/-- Whether step `name` completed and was not compensated since. -/
def needsCompensation (i : Instance) (name : String) : Bool :=
  let mine := i.history.filter (·.stepName == name)
  !mine.any (·.status == .compensated) && mine.any (·.status == .completed)

/-- Settles the last entry of step `name` started at `startedAt`. -/
def settle (i : Instance) (name : String) (startedAt : Instant) (f : HistoryEntry → HistoryEntry) :
    Instance :=
  let rec go : List HistoryEntry → List HistoryEntry × Bool
    | [] => ([], false)
    | e :: rest =>
      match go rest with
      | (rest, true) => (e :: rest, true)
      | (rest, false) =>
        if e.stepName == name && e.startedAt == startedAt then (f e :: rest, true)
        else (e :: rest, false)
  { i with history := (go i.history).1 }

/-- The debug text `SagaInstance { id, definition, status, current_step, history_len }`. -/
def debugText (i : Instance) : String :=
  Debug.record "SagaInstance"
    [("id", "SagaId(" ++ Debug.quote i.id ++ ")"), ("definition", Debug.quote i.definition.name),
     ("status", i.status.debugText), ("current_step", toString i.currentStep),
     ("history_len", toString i.history.length)]

end Instance

end Saga
