import Saga.Time.Instant

/-!
# Lifecycle events

While a saga runs, the engine announces what happens to it on an event bus: the saga
starting, finishing, failing and being compensated, and each step starting, finishing,
failing and being compensated. A lifecycle event names the saga, its correlation id and
definition, and, where they apply, the step, the duration in whole milliseconds, the error
text and the attempt that ended the step.

Lifecycle events are written as records whose absent optional parts are left out, and read
back from records (or arrays) of that shape in which those parts may be missing.
-/

namespace Saga

/-- What a lifecycle event announces. -/
inductive LifecycleKind where
  | sagaStarted
  | sagaCompleted
  | sagaFailed
  | sagaCompensating
  | sagaCompensated
  | stepStarted
  | stepCompleted
  | stepFailed
  | stepCompensating
  | stepCompensated
  deriving Repr, BEq, DecidableEq, Inhabited

/-- The name a lifecycle kind is written with. -/
def LifecycleKind.name : LifecycleKind → String
  | .sagaStarted => "SagaStarted"
  | .sagaCompleted => "SagaCompleted"
  | .sagaFailed => "SagaFailed"
  | .sagaCompensating => "SagaCompensating"
  | .sagaCompensated => "SagaCompensated"
  | .stepStarted => "StepStarted"
  | .stepCompleted => "StepCompleted"
  | .stepFailed => "StepFailed"
  | .stepCompensating => "StepCompensating"
  | .stepCompensated => "StepCompensated"

namespace LifecycleKind

/-- Every lifecycle kind, in declaration order. -/
def all : List LifecycleKind :=
  [.sagaStarted, .sagaCompleted, .sagaFailed, .sagaCompensating, .sagaCompensated, .stepStarted,
   .stepCompleted, .stepFailed, .stepCompensating, .stepCompensated]

/-- Whether events of the kind are about one step. -/
def isStepEvent : LifecycleKind → Bool
  | .stepStarted | .stepCompleted | .stepFailed | .stepCompensating | .stepCompensated => true
  | _ => false

/-- The kind with the given name. -/
def ofName? (s : String) : Option LifecycleKind := all.find? (·.name == s)

/-- The serialized form of a kind: its name as a string. -/
def shape : Json.Shape := .variants "SagaEventType" (all.map name)

end LifecycleKind

/-- A lifecycle event. -/
structure LifecycleEvent where
  kind : LifecycleKind
  sagaId : String
  correlationId : String
  definitionName : String
  step : Option String := none
  durationMs : Option Nat := none
  error : Option String := none
  retryAttempt : Option Nat := none
  occurredAt : Instant
  deriving Inhabited

namespace LifecycleEvent

/-- The written record; the optional parts are left out when absent. -/
def toJson (e : LifecycleEvent) : Json :=
  let part (k : String) (v : Option Json) : List (String × Json) := (v.map fun v => [(k, v)]).getD []
  .obj ([("event_type", .str e.kind.name), ("saga_id", .str e.sagaId),
      ("correlation_id", .str e.correlationId), ("definition_name", .str e.definitionName)] ++
    part "step_name" (e.step.map .str) ++ part "duration_ms" (e.durationMs.map .ofNat) ++
    part "error" (e.error.map .str) ++ part "retry_attempt" (e.retryAttempt.map .ofNat) ++
    [("occurred_at", e.occurredAt.toJson)])

/-- Builds an event's record from its field values in declaration order. -/
def ofFields : List Json → Except String Json
  | [k, s, c, d, st, du, er, r, o] => .ok (.obj [("event_type", k), ("saga_id", s),
      ("correlation_id", c), ("definition_name", d), ("step_name", st), ("duration_ms", du),
      ("error", er), ("retry_attempt", r), ("occurred_at", o)])
  | _ => .error "invalid lifecycle event"

/-- The shape of an event's record: the optional parts default to absent in both forms. -/
def shape : Json.Shape :=
  .record "SagaEvent"
    [("event_type", LifecycleKind.shape, .required), ("saga_id", .string, .required),
     ("correlation_id", .string, .required), ("definition_name", .string, .required),
     ("step_name", .option .string, .default .null),
     ("duration_ms", .option (.unsigned "u64" (Nat.pow 2 64 - 1)), .default .null),
     ("error", .option .string, .default .null),
     ("retry_attempt", .option (.unsigned "u32" (Nat.pow 2 32 - 1)), .default .null),
     ("occurred_at", Instant.shape, .required)]
    false "struct SagaEvent with 9 elements" ofFields

/-- The event of a record read by `shape`. -/
def ofShape (j : Json) : LifecycleEvent :=
  let text (k : String) : Option String := match j.get? k with
    | some (.str s) => some s
    | _ => none
  let count (k : String) : Option Nat := match j.get? k with
    | some (.num (.nat n)) => some n
    | _ => none
  { kind := ((text "event_type").bind LifecycleKind.ofName?).getD .sagaStarted
    sagaId := (text "saga_id").getD ""
    correlationId := (text "correlation_id").getD ""
    definitionName := (text "definition_name").getD ""
    step := text "step_name"
    durationMs := count "duration_ms"
    error := text "error"
    retryAttempt := count "retry_attempt"
    occurredAt := Instant.ofShape ((j.get? "occurred_at").getD .null) }

end LifecycleEvent

end Saga
