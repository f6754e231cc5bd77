import Saga.Step.Basic
import Saga.Chain

/-!
# Saga definitions and the registry

A definition is a named, non-empty list of steps with distinct names, an optional retry
policy for steps that have none, and an optional default time limit per attempt. Its chain
is compiled from the step names. Engine defaults fill only what the definition leaves unset.

The registry holds definitions by name; registering a name again replaces the definition,
and names are listed in sorted order.
-/

namespace Saga

/-- A saga definition. -/
structure Definition where
  name : String
  steps : List Step
  retryPolicy : Option Retry.Policy := none
  defaultStepTimeout : Option Span := none
  chain : Chain
  deriving Inhabited

namespace Definition

/-- The step names, in order. -/
def stepNames (d : Definition) : List String := d.steps.map Step.name

/-- Builds a definition, checking its name, that it has steps, and that their names are
not blank and distinct. -/
def build (name : String) (steps : List Step) (policy : Option Retry.Policy)
    (timeout : Option Span) : Outcome Definition :=
  if Text.isBlank name then .error (Error.validation "name" "saga name must not be empty")
  else if steps.isEmpty then
    .error ((Error.validation "steps" "saga must have at least one step").withContext "saga" name)
  else
    let rec check (seen : List String) : List Step → Outcome Unit
      | [] => .ok ()
      | s :: rest =>
        if Text.isBlank s.name then
          .error ((Error.validation "steps" "step name must not be empty").withContext "saga" name)
        else if seen.contains s.name then
          .error ((Error.validation "steps" ("duplicate step name '" ++ s.name ++ "'")).withContext
            "saga" name)
        else check (s.name :: seen) rest
    (check [] steps).map fun _ =>
      { name, steps, retryPolicy := policy, defaultStepTimeout := timeout,
        chain := Chain.compile (steps.map Step.name) }

/-- The debug text `SagaDefinition { name, steps, retry_policy, default_step_timeout }`, with
the steps by name. -/
def debugText (d : Definition) : String :=
  Debug.record "SagaDefinition"
    [("name", Debug.quote d.name), ("steps", Debug.list (d.stepNames.map Debug.quote)),
     ("retry_policy", Debug.option (d.retryPolicy.map Retry.Policy.debugText)),
     ("default_step_timeout", Debug.option (d.defaultStepTimeout.map Span.debugText))]

end Definition

/-- The definitions known by name. -/
structure Registry where
  entries : List (String × Definition) := []
  deriving Inhabited

namespace Registry

/-- The definition registered under `name`. -/
def get? (r : Registry) (name : String) : Option Definition := r.entries.lookup name

/-- Registers a definition under its name, replacing one of the same name. -/
def register (r : Registry) (d : Definition) : Registry :=
  if r.entries.any (·.1 == d.name) then
    ⟨r.entries.map fun (k, v) => if k == d.name then (k, d) else (k, v)⟩
  else ⟨r.entries ++ [(d.name, d)]⟩

/-- Inserts a name into a sorted list. -/
def insertSorted (n : String) : List String → List String
  | [] => [n]
  | m :: ms => if n ≤ m then n :: m :: ms else m :: insertSorted n ms

/-- The registered names, sorted. -/
def names (r : Registry) : List String := (r.entries.map (·.1)).foldr insertSorted []

end Registry

end Saga
