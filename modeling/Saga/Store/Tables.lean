import Saga.Store.RowId
import Saga.Instance
import Saga.Failure
import Saga.Json.Shape

/-!
# The relational saga store

A relational store keeps one row per saga and one row per history entry, every value as
text or as a signed 64-bit integer: statuses by name, instants in RFC 3339 with nine
fraction digits, the context as compact JSON text of its map.

Saving a state makes two kinds of upsert, the saga's row first. The saga's row is inserted,
or updates the row with its id in every column but the definition name and the creation
time. Each history entry is inserted under its row identifier (`stepRowId`) with its place
in the history as its position, or updates the row with that identifier in position,
status, end, error and retry attempt. A save removes no row, so a shorter history leaves
the rows of the entries it lost.

Loading reads the saga's row and its entry rows in position order (rows of one position in
the order they were first inserted) and converts them back, stopping at the first column
that does not convert: the context, then each entry's status and times in history order,
then the saga's status and times. Integers come back through the casts they went in by.
The instance is rebuilt under the registered definition the row names.
-/

namespace Saga

/-- The row of one saga. -/
structure SagaRow where
  id : String
  definitionName : String
  status : String
  currentStep : Int
  /-- The context map as compact JSON text. -/
  context : String
  createdAt : String
  startedAt : Option String
  completedAt : Option String
  /-- When the row was last written. -/
  updatedAt : String
  deriving BEq, Inhabited

/-- The row of one history entry. -/
structure StepRow where
  /-- The entry's row identifier in its dashed text. -/
  id : String
  sagaId : String
  /-- The entry's place in the history when it was last saved. -/
  position : Int
  stepName : String
  status : String
  startedAt : String
  completedAt : Option String
  error : Option String
  retryAttempt : Int
  deriving BEq, Inhabited

/-- The tables of a relational saga store, each in insertion order. -/
structure Tables where
  sagas : List SagaRow := []
  steps : List StepRow := []
  deriving Inhabited

namespace Tables

/-! ## Columns -/

/-- A word as a signed 64-bit integer: its low 64 bits in two's complement. -/
def toInt64 (n : Nat) : Int :=
  let m : Nat := n % Nat.pow 2 64
  if m < Nat.pow 2 63 then (m : Int) else (m : Int) - Int.pow 2 64

/-- A signed integer cast to an unsigned word of `bits` bits: its residue modulo `2 ^ bits`. -/
def toWord (bits : Nat) (i : Int) : Nat := (i % (Nat.pow 2 bits : Int)).toNat

/-- An instant column, read as strict RFC 3339 with any offset and converted to UTC. -/
def instantColumn (text : String) : Outcome Instant :=
  match Instant.readStrict text with
  | .ok t => .ok t
  | .error f => .error (Error.ofTable (.invalid ("timestamp '" ++ text ++ "': " ++ f.text)))

/-- An instant column that may be empty. -/
def optionalInstantColumn : Option String → Outcome (Option Instant)
  | none => .ok none
  | some text => some <$> instantColumn text

/-- A context column: JSON text of a map. -/
def contextColumn (text : String) : Outcome (List (String × Json)) :=
  match Json.Shape.map.readText text with
  | .ok (.obj ms) => .ok ms
  | .ok _ => .ok []
  | .error e => .error (Error.ofTable (.serialization e.text))

/-! ## Saving -/

/-- Inserts `row`, or replaces the first row with its key by `merge` of that row and `row`:
an insert that updates on a key conflict, read back in insertion order. -/
def upsert {α : Type} (key : α → String) (merge : α → α → α) (row : α) : List α → List α
  | [] => [row]
  | r :: rs => if key r == key row then merge r row :: rs else r :: upsert key merge row rs

/-- The saga row of state `st` written at `now`. -/
def sagaRow (st : SagaState) (now : Instant) : SagaRow :=
  { id := st.id, definitionName := st.definitionName, status := st.status.name,
    currentStep := toInt64 st.currentStep, context := Json.render (.obj st.context),
    createdAt := st.createdAt.writeNanos, startedAt := st.startedAt.map Instant.writeNanos,
    completedAt := st.completedAt.map Instant.writeNanos, updatedAt := now.writeNanos }

/-- An update of a saga row keeps its definition name and creation time. -/
def updateSaga (old new : SagaRow) : SagaRow :=
  { new with definitionName := old.definitionName, createdAt := old.createdAt }

/-- The row of history entry `e` at `position` in the history of saga `sagaId`. -/
def stepRow (sagaId : String) (position : Nat) (e : HistoryEntry) : StepRow :=
  { id := stepRowText sagaId e, sagaId, position := toInt64 position,
    stepName := e.stepName, status := e.status.name, startedAt := e.startedAt.writeNanos,
    completedAt := e.completedAt.map Instant.writeNanos, error := e.error,
    retryAttempt := e.retryAttempt }

/-- An update of an entry row keeps its saga, step name and start. -/
def updateStep (old new : StepRow) : StepRow :=
  { new with sagaId := old.sagaId, stepName := old.stepName, startedAt := old.startedAt }

/-- The rows of the history entries of state `st`, each at its place in the history. -/
def entryRows (st : SagaState) : List StepRow :=
  st.history.zipIdx.map fun p => stepRow st.id p.2 p.1

/-- Saves state `st` at `now`: its saga row, then one row per history entry. -/
def save (t : Tables) (st : SagaState) (now : Instant) : Tables :=
  { sagas := upsert SagaRow.id updateSaga (sagaRow st now) t.sagas
    steps := (entryRows st).foldl (fun rows r => upsert StepRow.id updateStep r rows) t.steps }

/-! ## Loading -/

/-- The row of saga `id`. -/
def sagaRow? (t : Tables) (id : String) : Option SagaRow := t.sagas.find? (·.id == id)

/-- The entry rows of saga `id` in position order. -/
def stepsOf (t : Tables) (id : String) : List StepRow :=
  (t.steps.filter (·.sagaId == id)).mergeSort fun a b => a.position ≤ b.position

/-- The history entry of an entry row. -/
def entryOf (r : StepRow) : Outcome HistoryEntry := do
  let status ← StepStatus.parse r.status
  let startedAt ← instantColumn r.startedAt
  let completedAt ← optionalInstantColumn r.completedAt
  return { stepName := r.stepName, status, startedAt, completedAt, error := r.error,
           retryAttempt := toWord 32 r.retryAttempt }

/-- The state of a saga row with its entry rows in order. -/
def stateOf (r : SagaRow) (steps : List StepRow) : Outcome SagaState := do
  let context ← contextColumn r.context
  let history ← steps.mapM entryOf
  let status ← SagaStatus.parse r.status
  let createdAt ← instantColumn r.createdAt
  let startedAt ← optionalInstantColumn r.startedAt
  let completedAt ← optionalInstantColumn r.completedAt
  return { id := r.id, definitionName := r.definitionName, status,
           currentStep := toWord 64 r.currentStep, context, history, createdAt, startedAt,
           completedAt }

/-- The error of a saga without a row. -/
def notFound (id : String) : Error := Error.notFound ("saga '" ++ id ++ "' not found")

/-- The saved state of saga `id`. -/
def state? (t : Tables) (id : String) : Outcome SagaState :=
  match t.sagaRow? id with
  | none => .error (notFound id)
  | some r => stateOf r (t.stepsOf id)

/-- Loads saga `id` under the registered definition its row names; a context without
correlation id gets `freshId`, one without metadata gets metadata created at `now`. -/
def load (t : Tables) (registry : Registry) (id : String) (now : Instant) (freshId : String) :
    Outcome Instance := do
  let st ← t.state? id
  match registry.get? st.definitionName with
  | none => throw ((Error.definitionNotFound st.definitionName).withContext "saga_id" st.id)
  | some d => Instance.fromState st d now freshId

/-- The status of saga `id`, read from its row alone. -/
def status (t : Tables) (id : String) : Outcome SagaStatus :=
  match t.sagaRow? id with
  | none => .error (notFound id)
  | some r => SagaStatus.parse r.status

/-- Removes saga `id` and its entry rows; whether it had a row. -/
def delete (t : Tables) (id : String) : Bool × Tables :=
  ((t.sagaRow? id).isSome,
    { sagas := t.sagas.filter (·.id != id), steps := t.steps.filter (·.sagaId != id) })

/-- The ids of the sagas in status `s`, by creation time and then id. -/
def listByStatus (t : Tables) (s : SagaStatus) : List String :=
  ((t.sagas.filter (·.status == s.name)).mergeSort fun a b =>
    (compare a.createdAt b.createdAt).then (compare a.id b.id) != .gt).map (·.id)

end Tables

end Saga
