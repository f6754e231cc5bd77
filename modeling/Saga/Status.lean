import Saga.Error
import Saga.Json.Shape

/-!
# Statuses

A saga moves `pending → running`, then `running → completed`, `running → compensating`
or `running → failed`; a completed saga can still be compensated (`completed →
compensating`), and compensation ends `compensated` or `failed`. Completed, compensated
and failed sagas are terminal. `SagaStatus.canBecome` is exactly this relation.

A history entry has its own status: pending, running, completed, failed, compensating or
compensated.
-/

namespace Saga

/-- The lifecycle status of a saga. -/
inductive SagaStatus where
  | pending
  | running
  | completed
  | compensating
  | compensated
  | failed
  deriving Repr, BEq, DecidableEq, Inhabited

namespace SagaStatus

/-- Every status, in declaration order. -/
def all : List SagaStatus := [.pending, .running, .completed, .compensating, .compensated, .failed]

/-- The status's name. -/
def name : SagaStatus → String
  | .pending => "pending"
  | .running => "running"
  | .completed => "completed"
  | .compensating => "compensating"
  | .compensated => "compensated"
  | .failed => "failed"

/-- Completed, compensated and failed sagas do not run again by themselves. -/
def isTerminal : SagaStatus → Bool
  | .completed | .compensated | .failed => true
  | _ => false

/-- The allowed transitions. -/
def canBecome : SagaStatus → SagaStatus → Bool
  | .pending, .running => true
  | .running, .completed => true
  | .running, .compensating => true
  | .running, .failed => true
  | .completed, .compensating => true
  | .compensating, .compensated => true
  | .compensating, .failed => true
  | _, _ => false

/-- The status named `s`. -/
def ofName? (s : String) : Option SagaStatus := all.find? (·.name == s)

/-- The status named `s`, or the validation error for field `status`. -/
def parse (s : String) : Outcome SagaStatus :=
  match ofName? s with
  | some st => .ok st
  | none => .error (Error.validation "status" ("unknown saga status '" ++ s ++ "'"))

/-- The debug text: the status's name, capitalized. -/
def debugText : SagaStatus → String
  | .pending => "Pending"
  | .running => "Running"
  | .completed => "Completed"
  | .compensating => "Compensating"
  | .compensated => "Compensated"
  | .failed => "Failed"

/-- The serialized form: the status's name as a string. -/
def shape : Json.Shape := .variants "SagaStatus" (all.map name)

end SagaStatus

/-- The status of one history entry. -/
inductive StepStatus where
  | pending
  | running
  | completed
  | failed
  | compensating
  | compensated
  deriving Repr, BEq, DecidableEq, Inhabited

namespace StepStatus

/-- Every status, in declaration order. -/
def all : List StepStatus := [.pending, .running, .completed, .failed, .compensating, .compensated]

/-- The status's name. -/
def name : StepStatus → String
  | .pending => "pending"
  | .running => "running"
  | .completed => "completed"
  | .failed => "failed"
  | .compensating => "compensating"
  | .compensated => "compensated"

/-- The status named `s`. -/
def ofName? (s : String) : Option StepStatus := all.find? (·.name == s)

/-- The status named `s`, or the validation error for field `step_status`. -/
def parse (s : String) : Outcome StepStatus :=
  match ofName? s with
  | some st => .ok st
  | none => .error (Error.validation "step_status" ("unknown step status '" ++ s ++ "'"))

/-- The serialized form: the status's name as a string. -/
def shape : Json.Shape := .variants "StepStatus" (all.map name)

end StepStatus

end Saga
