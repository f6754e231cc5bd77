import Saga.Status
import Saga.Time.Instant

/-!
# Saga states

The image of one saga that is saved and restored: its identity, the definition it runs,
its status and current step, its context in map form, the history of its steps, and when it
was created, started and finished.

A history entry records one pass of one step: its name, the status it reached, when it
started and finished, the error text of a failure, and the retry attempt it ended on.
Entries are told apart by step name and start time.

Both are written as JSON records with their fields in declaration order and read back from
records (or arrays) of that shape; a missing optional field reads as absent, unknown keys
are skipped.
-/

namespace Saga

/-- One pass of one step. -/
structure HistoryEntry where
  stepName : String
  status : StepStatus
  startedAt : Instant
  completedAt : Option Instant := none
  error : Option String := none
  retryAttempt : Nat := 0
  deriving BEq, Inhabited

namespace HistoryEntry

/-- A new entry with no end, error or retries. -/
def new (stepName : String) (status : StepStatus) (startedAt : Instant) : HistoryEntry :=
  { stepName, status, startedAt }

/-- The key that tells entries apart. -/
def key (e : HistoryEntry) : String × Instant := (e.stepName, e.startedAt)

/-- The written record. -/
def toJson (e : HistoryEntry) : Json :=
  .obj [("step_name", .str e.stepName), ("status", .str e.status.name),
    ("started_at", e.startedAt.toJson), ("completed_at", Instant.optionToJson e.completedAt),
    ("error", Json.ofOption e.error), ("retry_attempt", .ofNat e.retryAttempt)]

/-- Builds an entry's record from its field values in declaration order. -/
def ofFields : List Json → Except String Json
  | [n, s, st, c, e, r] => .ok (.obj [("step_name", n), ("status", s), ("started_at", st),
      ("completed_at", c), ("error", e), ("retry_attempt", r)])
  | _ => .error "invalid history entry"

/-- The shape of an entry's record. -/
def shape : Json.Shape :=
  .record "HistoryEntry"
    [("step_name", .string, .required), ("status", StepStatus.shape, .required),
     ("started_at", Instant.shape, .required),
     ("completed_at", .option Instant.shape, .optional),
     ("error", .option .string, .optional),
     ("retry_attempt", .unsigned "u32" (Nat.pow 2 32 - 1), .required)]
    false "struct HistoryEntry with 6 elements" ofFields

/-- An optional instant of a record read by a shape. -/
def optionalInstant : Option Json → Option Instant
  | some (.str s) => (Instant.parseLoose s).toOption
  | _ => none

/-- The entry of a record read by `shape`. -/
def ofShape (j : Json) : HistoryEntry :=
  { stepName := match j.get? "step_name" with
      | some (.str s) => s
      | _ => ""
    status := match j.get? "status" with
      | some (.str s) => (StepStatus.ofName? s).getD .pending
      | _ => .pending
    startedAt := Instant.ofShape ((j.get? "started_at").getD .null)
    completedAt := optionalInstant (j.get? "completed_at")
    error := match j.get? "error" with
      | some (.str s) => some s
      | _ => none
    retryAttempt := match j.get? "retry_attempt" with
      | some (.num (.nat n)) => n
      | _ => 0 }

end HistoryEntry

/-- The saved image of a saga. -/
structure SagaState where
  id : String
  definitionName : String
  status : SagaStatus
  currentStep : Nat
  /-- The context in map form. -/
  context : List (String × Json)
  history : List HistoryEntry
  createdAt : Instant
  startedAt : Option Instant
  completedAt : Option Instant
  deriving Inhabited

namespace SagaState

/-- Equality of every part. -/
def beq (a b : SagaState) : Bool :=
  a.id == b.id && a.definitionName == b.definitionName && a.status == b.status &&
    a.currentStep == b.currentStep && Json.obj a.context == Json.obj b.context &&
    a.history == b.history && a.createdAt == b.createdAt && a.startedAt == b.startedAt &&
    a.completedAt == b.completedAt

instance : BEq SagaState := ⟨beq⟩

/-- The written record. -/
def toJson (s : SagaState) : Json :=
  .obj [("id", .str s.id), ("definition_name", .str s.definitionName),
    ("status", .str s.status.name), ("current_step", .ofNat s.currentStep),
    ("context", .obj s.context), ("history", .arr (s.history.map HistoryEntry.toJson)),
    ("created_at", s.createdAt.toJson), ("started_at", Instant.optionToJson s.startedAt),
    ("completed_at", Instant.optionToJson s.completedAt)]

/-- Builds a state's record from its field values in declaration order. -/
def ofFields : List Json → Except String Json
  | [i, d, s, c, x, h, cr, st, co] => .ok (.obj [("id", i), ("definition_name", d),
      ("status", s), ("current_step", c), ("context", x), ("history", h), ("created_at", cr),
      ("started_at", st), ("completed_at", co)])
  | _ => .error "invalid saga state"

/-- The shape of a state's record. -/
def shape : Json.Shape :=
  .record "SagaState"
    [("id", .string, .required), ("definition_name", .string, .required),
     ("status", SagaStatus.shape, .required),
     ("current_step", .unsigned "usize" (Nat.pow 2 64 - 1), .required),
     ("context", .map, .required), ("history", .seq HistoryEntry.shape, .required),
     ("created_at", Instant.shape, .required),
     ("started_at", .option Instant.shape, .optional),
     ("completed_at", .option Instant.shape, .optional)]
    false "struct SagaState with 9 elements" ofFields

/-- The state of a record read by `shape`. -/
def ofShape (j : Json) : SagaState :=
  { id := match j.get? "id" with
      | some (.str s) => s
      | _ => ""
    definitionName := match j.get? "definition_name" with
      | some (.str s) => s
      | _ => ""
    status := match j.get? "status" with
      | some (.str s) => (SagaStatus.ofName? s).getD .pending
      | _ => .pending
    currentStep := match j.get? "current_step" with
      | some (.num (.nat n)) => n
      | _ => 0
    context := match j.get? "context" with
      | some (.obj ms) => ms
      | _ => []
    history := match j.get? "history" with
      | some (.arr xs) => xs.map HistoryEntry.ofShape
      | _ => []
    createdAt := Instant.ofShape ((j.get? "created_at").getD .null)
    startedAt := HistoryEntry.optionalInstant (j.get? "started_at")
    completedAt := HistoryEntry.optionalInstant (j.get? "completed_at") }

/-- Reads a state from a value already read. -/
def ofValue (j : Json) : Except Json.ReadError SagaState := ofShape <$> shape.readValue j

end SagaState

end Saga
