/-!
# Kinds of stored events

A saga's stream holds seven kinds of events. Two describe the saga as a whole: a state
change (status, step and context, one per save) and the checkpoint that closes every save.
The other five record one history entry each, by the status it reached. A kind is written
and read by its name; reading is exact and case-sensitive.
-/

namespace Saga

/-- The kind of a stored event. -/
inductive EventKind where
  | stateChanged
  | checkpoint
  | stepStarted
  | stepCompleted
  | stepFailed
  | stepCompensating
  | stepCompensated
  deriving Repr, BEq, DecidableEq, Inhabited

namespace EventKind

/-- Every kind, in declaration order. -/
def all : List EventKind :=
  [.stateChanged, .checkpoint, .stepStarted, .stepCompleted, .stepFailed, .stepCompensating,
   .stepCompensated]

/-- The name a kind is written with. -/
def name : EventKind → String
  | .stateChanged => "SagaStateChanged"
  | .checkpoint => "SagaStateCheckpoint"
  | .stepStarted => "StepStarted"
  | .stepCompleted => "StepCompleted"
  | .stepFailed => "StepFailed"
  | .stepCompensating => "StepCompensating"
  | .stepCompensated => "StepCompensated"

/-- Whether events of the kind record one history entry. -/
def isStepEvent : EventKind → Bool
  | .stateChanged | .checkpoint => false
  | _ => true

/-- The kind with the given name. -/
def ofName? (s : String) : Option EventKind := all.find? (·.name == s)

/-- Reads a kind's name, or says it is unknown. -/
def parse (s : String) : Except String EventKind :=
  match ofName? s with
  | some k => .ok k
  | none => .error ("Unknown event type: " ++ s)

end EventKind

end Saga
