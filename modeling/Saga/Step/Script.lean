import Saga.Context.Basic

/-!
# Scripted actions and conditions

A scripted action plays one outcome per call: call `n` (from one) plays the `n`-th outcome
of its script, and calls past the end repeat the last one. An outcome succeeds, fails with a
step error, halts the task that runs it, or waits a number of virtual milliseconds and then
succeeds or fails with an error of a given kind. A failure without its own message says
which call failed: `exec b #3 failed`.

A `Condition` is a test of a saga context: constants, the presence of a key, a boolean,
integer, float, string or string-list value compared with a constant, and negation,
conjunction and disjunction of conditions. Every evaluation of a guard is one call, counted
and logged like a scripted action's.
-/

namespace Saga

/-- What one call of a scripted action does. -/
inductive Play where
  | succeed
  /-- Fails with a step error carrying the default message. -/
  | fail
  /-- Ends the task that runs the action abruptly. -/
  | halt
  /-- Waits `delayMs` virtual milliseconds, then succeeds or fails as `failure` says. -/
  | after (delayMs : Nat) (failure : Option (Kind × Option String))
  deriving Inhabited

/-- A scripted action: the counter that numbers its calls, and its outcomes. -/
structure Script where
  counter : Nat
  plays : List Play
  deriving Inhabited

/-- The outcome of call `n` (from one); past the end the last outcome repeats. -/
def Script.play (s : Script) (n : Nat) : Play :=
  match s.plays.drop (n - 1) with
  | p :: _ => p
  | [] => s.plays.getLast?.getD .succeed

/-- The message of a failed call that brings none: `<call> <name> #<n> failed`. -/
def Script.failureText (call name : String) (n : Nat) : String :=
  call ++ " " ++ name ++ " #" ++ toString n ++ " failed"

/-- Context changes made when an action succeeds: values set, then keys removed. -/
structure Effects where
  set : List (String × Context.Value) := []
  remove : List String := []
  deriving Inhabited

/-- A test of a saga context. -/
inductive Condition where
  | always (b : Bool)
  /-- The boolean value of the key; false when it is absent or not a boolean. -/
  | flag (key : String)
  | has (key : String)
  /-- The key's integer value is at least `bound`. -/
  | atLeast (key : String) (bound : Int)
  /-- The key's float value is below `bound`. -/
  | lessThan (key : String) (bound : Float)
  | textIs (key : String) (text : String)
  | listHas (key : String) (item : String)
  | not (c : Condition)
  | all (cs : List Condition)
  | any (cs : List Condition)
  deriving Inhabited

namespace Condition

mutual
/-- Evaluates a condition on a context. -/
def holds (ctx : SagaContext) : Condition → Bool
  | .always b => b
  | .flag k => ((ctx.get k).bind Context.Value.asBool?).getD false
  | .has k => ctx.contains k
  | .atLeast k n => match (ctx.get k).bind Context.Value.asInt? with
    | some i => decide (n ≤ i)
    | none => false
  | .lessThan k x => match (ctx.get k).bind Context.Value.asFloat? with
    | some f => f < x
    | none => false
  | .textIs k s => (ctx.get k).bind Context.Value.asString? == some s
  | .listHas k s => match (ctx.get k).bind Context.Value.asStringList? with
    | some l => l.contains s
    | none => false
  | .not c => !holds ctx c
  | .all cs => holdsAll ctx cs
  | .any cs => holdsAny ctx cs

/-- Whether every condition holds. -/
def holdsAll (ctx : SagaContext) : List Condition → Bool
  | [] => true
  | c :: cs => holds ctx c && holdsAll ctx cs

/-- Whether some condition holds. -/
def holdsAny (ctx : SagaContext) : List Condition → Bool
  | [] => false
  | c :: cs => holds ctx c || holdsAny ctx cs
end

end Condition

/-- A condition whose evaluations are counted and logged. -/
structure Guard where
  counter : Nat
  condition : Condition
  deriving Inhabited

end Saga
