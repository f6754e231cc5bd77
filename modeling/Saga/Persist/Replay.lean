import Saga.Persist.Stream

/-!
# Replaying a stream

A replay folds a stream's events into a saga state, starting empty or from a snapshot's
state. A state event sets the status (which it must carry), the current step, the context
(when it carries an object), the definition name, the creation time, the start time (kept
when absent) and the finish time (cleared when absent). A step event becomes a history
entry; an event for a step name and start time already in the history replaces that entry.
Checkpoints change nothing. A replay that saw no state event, or no definition name, does not
make a state.
-/

namespace Saga

namespace Persist

/-- A saga state being rebuilt from events. -/
structure Replay where
  definitionName : Option String := none
  status : Option SagaStatus := none
  currentStep : Nat := 0
  context : List (String × Json) := []
  history : List HistoryEntry := []
  createdAt : Option Instant := none
  startedAt : Option Instant := none
  completedAt : Option Instant := none
  deriving Inhabited

namespace Replay

/-- A replay that starts from a saved state. -/
def ofState (st : SagaState) : Replay :=
  { definitionName := some st.definitionName, status := some st.status,
    currentStep := st.currentStep, context := st.context, history := st.history,
    createdAt := some st.createdAt, startedAt := st.startedAt, completedAt := st.completedAt }

/-- The error of an event missing a key it needs, or holding it in the wrong shape. -/
def malformed (e : StoredEvent) (key : String) : Error :=
  (Error.new (e.kind.name ++ " event at version " ++ toString e.version ++
    " has a missing or invalid '" ++ key ++ "'") .codec).withContext "saga_id" e.stream

/-- The largest number a 32-bit attempt counter holds, plus one. -/
def attemptBound : Nat := Nat.pow 2 32

/-- Applies a state event. -/
def applyState (r : Replay) (e : StoredEvent) : Outcome Replay := do
  let text ← match e.getStr? MetaKey.status with
    | some s => pure s
    | none => throw (malformed e MetaKey.status)
  let status ← SagaStatus.parse text
  let context ← match e.get? MetaKey.context with
    | some (.obj ms) => pure ms
    | some .null | none => pure r.context
    | some _ => throw (malformed e MetaKey.context)
  return { r with
    status := some status
    currentStep := (e.getU64? MetaKey.step).getD 0
    context
    definitionName := (e.getStr? MetaKey.definitionName).orElse fun _ => r.definitionName
    createdAt := (e.getTime? MetaKey.sagaCreatedAt).orElse fun _ => r.createdAt
    startedAt := (e.getTime? MetaKey.sagaStartedAt).orElse fun _ => r.startedAt
    completedAt := e.getTime? MetaKey.sagaCompletedAt }

/-- Replaces the last entry with the same key, or appends the entry. -/
def upsert (entry : HistoryEntry) (history : List HistoryEntry) : List HistoryEntry :=
  let rec go : List HistoryEntry → List HistoryEntry × Bool
    | [] => ([], false)
    | e :: rest =>
      match go rest with
      | (rest, true) => (e :: rest, true)
      | (rest, false) => if e.key == entry.key then (entry :: rest, true) else (e :: rest, false)
  match go history with
  | (h, true) => h
  | (h, false) => h ++ [entry]

/-- Applies a step event. -/
def applyStep (r : Replay) (e : StoredEvent) : Outcome Replay := do
  let name ← match e.getStr? MetaKey.stepName with
    | some s => pure s
    | none => throw (malformed e MetaKey.stepName)
  let started ← match e.getTime? MetaKey.startedAt with
    | some t => pure t
    | none => throw (malformed e MetaKey.startedAt)
  let status ← match e.getStr? MetaKey.stepStatus with
    | some s => StepStatus.parse s
    | none => pure (statusOfKind e.kind)
  let entry : HistoryEntry :=
    { stepName := name, status, startedAt := started
      completedAt := e.getTime? MetaKey.completedAt
      error := (e.getStr? MetaKey.errorMessage).orElse fun _ => e.getStr? MetaKey.error
      retryAttempt := ((e.getU64? MetaKey.retryAttempt).getD 0) % attemptBound }
  return { r with history := upsert entry r.history }

/-- Applies one event. -/
def apply (r : Replay) (e : StoredEvent) : Outcome Replay :=
  match e.kind with
  | .stateChanged => r.applyState e
  | .checkpoint => .ok r
  | _ => r.applyStep e

/-- Applies events in order, stopping at the first that does not apply. -/
def applyAll (r : Replay) (events : List StoredEvent) : Outcome Replay :=
  events.foldlM apply r

/-- The rebuilt state of saga `id`; `fallback` names the definition when no event did, and
`now` is the creation time when no event gave one. -/
def finish (r : Replay) (id : String) (fallback : Option String) (now : Instant) : Outcome SagaState := do
  let status ← match r.status with
    | some s => pure s
    | none => throw ((Error.persistence ("stream " ++ id ++ " has no state events")).withContext "saga_id" id)
  let name ← match r.definitionName.orElse fun _ => fallback with
    | some n => pure n
    | none => throw ((Error.persistence ("stream " ++ id ++ " does not name its definition")).withContext
        "saga_id" id)
  return { id, definitionName := name, status, currentStep := r.currentStep, context := r.context,
           history := r.history, createdAt := r.createdAt.getD now, startedAt := r.startedAt,
           completedAt := r.completedAt }

end Replay

end Persist

end Saga
