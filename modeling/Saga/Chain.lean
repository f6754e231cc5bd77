import Saga.Error

/-!
# The step chain

The state machine of a saga definition: states `initial` and `step_<name>` for every step,
and from each state exactly one event, `execute_<next step>`, leading to the next state.
A transition compiled later replaces an earlier one with the same state and event, so a
list with repeated names keeps the last target for each pair.
-/

namespace Saga

/-- The compiled state machine of a list of step names. -/
structure Chain where
  /-- `initial`, then one state per step, in order. -/
  states : List String
  /-- `((state, event), target)`, in compile order. -/
  transitions : List ((String × String) × String)
  deriving Repr, Inhabited

namespace Chain

/-- The state before the first step. -/
def initial : String := "initial"

/-- The state after step `name`. -/
def stateFor (name : String) : String := "step_" ++ name

/-- The event that runs step `name`. -/
def eventFor (name : String) : String := "execute_" ++ name

/-- The transitions from `prev` through `names`. -/
def links (prev : String) : List String → List ((String × String) × String)
  | [] => []
  | n :: ns => ((prev, eventFor n), stateFor n) :: links (stateFor n) ns

/-- Compiles the chain of a list of step names. -/
def compile (names : List String) : Chain :=
  ⟨initial :: names.map stateFor, links initial names⟩

/-- The target of `event` in `state`; the last compiled transition wins. -/
def target? (c : Chain) (state event : String) : Option String :=
  (c.transitions.reverse.find? (·.1 == (state, event))).map (·.2)

/-- Whether `event` is accepted in `state`. -/
def canFire (c : Chain) (state event : String) : Bool :=
  (c.target? state event).isSome

/-- The state `event` leads to from `state`, or the error that it is not allowed there. -/
def fire (c : Chain) (state event : String) : Outcome String :=
  match c.target? state event with
  | some t => .ok t
  | none => .error (((Error.invalidState ("event '" ++ event ++ "' is not allowed in state '" ++
      state ++ "'")).withContext "state" state).withContext "event" event)

end Chain

end Saga
