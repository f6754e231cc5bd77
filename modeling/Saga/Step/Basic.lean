import Saga.Step.Script
import Saga.Retry

/-!
# Steps

A step is one unit of work of a saga, with the action that undoes it. Every step has a name,
and may have its own time limit per attempt, its own retry policy and a guard that must hold
before it runs. The kinds of steps:

* a scripted action with an optional scripted compensation, each changing the context when
  it succeeds;
* a parallel step, which runs its children side by side and undoes the ones that succeeded
  when another fails;
* a conditional step, which runs its inner step only when its condition holds, and takes
  its name, time limit and policy from the inner step unless it sets its own;
* a two-phase commit over participants: all prepare, then all commit, and the prepared ones
  abort when one refuses;
* a command step, which sends a command envelope to a command bus, and may send an undo
  command to compensate;
* a recording step, a test double that logs its calls, fails a set number of times and
  marks the context;
* a bare step, which has only a name and an action.

Building a step checks what its kind requires; the checks and their errors are the
`build` functions below.
-/

namespace Saga

/-- The settings every step kind shares. -/
structure StepConfig where
  name : String
  timeout : Option Span := none
  retryPolicy : Option Retry.Policy := none
  guard : Option Guard := none
  deriving Inhabited

/-- The debug text `StepConfig { name, timeout, retry_policy, guard }`; the guard shows only
whether there is one. -/
def StepConfig.debugText (c : StepConfig) : String :=
  Debug.record "StepConfig"
    [("name", Debug.quote c.name), ("timeout", Debug.option (c.timeout.map Span.debugText)),
     ("retry_policy", Debug.option (c.retryPolicy.map Retry.Policy.debugText)),
     ("guard", toString c.guard.isSome)]

/-- How a command step builds its command. -/
inductive CommandMode where
  /-- An envelope of the configured type whose payload holds the chosen context values. -/
  | envelope
  /-- The typed command `saga.typed` with the chosen values under `keys`. -/
  | typed
  /-- Building the command fails. -/
  | rejected
  deriving Repr, BEq, Inhabited

/-- What a command step sends. -/
structure CommandSpec where
  commandType : String
  payloadKeys : List String
  mode : CommandMode
  /-- Whether compensation sends the typed command `saga.undo`. -/
  undo : Bool
  deriving Inhabited

/-- A participant of a two-phase commit. -/
inductive Voter where
  /-- A participant whose three phases are scripted actions. -/
  | scripted (name : String) (prepare commit abort : Script)
  /-- The test participant: it records its calls and refuses to prepare when `rejecting`. -/
  | fixture (name : String) (rejecting : Bool)
  deriving Inhabited

/-- The participant's name. -/
def Voter.name : Voter → String
  | .scripted n _ _ _ => n
  | .fixture n _ => n

/-- The settings of a recording step. -/
structure Recorder where
  name : String
  /-- The counter of its attempts. -/
  counter : Nat
  /-- How many first attempts fail. -/
  failures : Nat := 0
  failCompensation : Bool := false
  delay : Option Span := none
  timeout : Option Span := none
  retryPolicy : Option Retry.Policy := none
  deriving Inhabited

/-- A step of a saga. -/
inductive Step where
  | scripted (config : StepConfig) (exec : Script) (comp : Option Script) (onExec onComp : Effects)
  | parallel (config : StepConfig) (children : List Step)
  | conditional (config : StepConfig) (condition : Guard) (inner : Step)
  | twoPhase (config : StepConfig) (participants : List Voter)
  | command (config : StepConfig) (spec : CommandSpec)
  | recording (spec : Recorder)
  | bare (name : String) (exec : Script)
  deriving Inhabited

namespace Step

/-- The step's name. -/
def name : Step → String
  | .scripted c .. | .parallel c _ | .conditional c .. | .twoPhase c _ | .command c _ => c.name
  | .recording r => r.name
  | .bare n _ => n

/-- The step's own limit per attempt. -/
def timeout : Step → Option Span
  | .scripted c .. | .parallel c _ | .conditional c .. | .twoPhase c _ | .command c _ => c.timeout
  | .recording r => r.timeout
  | .bare .. => none

/-- The step's own retry policy. -/
def retryPolicy : Step → Option Retry.Policy
  | .scripted c .. | .parallel c _ | .conditional c .. | .twoPhase c _ | .command c _ =>
    c.retryPolicy
  | .recording r => r.retryPolicy
  | .bare .. => none

/-- The kind's name in requests: `step`, `parallel`, `conditional`, `two_phase`, `command`,
`recording` or `bare`. -/
def kindName : Step → String
  | .scripted .. => "step"
  | .parallel .. => "parallel"
  | .conditional .. => "conditional"
  | .twoPhase .. => "two_phase"
  | .command .. => "command"
  | .recording _ => "recording"
  | .bare .. => "bare"

/-- The context key listing the children of parallel step `name` whose effects are in
place. -/
def succeededKey (name : String) : String := "_parallel:" ++ name ++ ":succeeded"

/-- The context key saying whether conditional step `name` was skipped. -/
def skippedKey (name : String) : String := "_conditional:" ++ name ++ ":skipped"

/-- The context key holding the transaction of two-phase step `name`. -/
def transactionKey (name : String) : String := "_2pc:" ++ name ++ ":transaction_id"

/-- The debug text of a step with a configuration: its configuration and what else tells it
apart (whether it can compensate, its children, its inner step or its participants).
Recording and bare steps have none. -/
def debugText? : Step → Option String
  | .scripted c _ comp _ _ =>
    some (Debug.record "SequentialStep" [("config", c.debugText), ("has_compensation", toString comp.isSome)])
  | .parallel c children =>
    some (Debug.record "ParallelStep"
      [("config", c.debugText), ("children", Debug.list (children.map fun s => Debug.quote s.name))])
  | .conditional c _ inner =>
    some (Debug.record "ConditionalStep" [("config", c.debugText), ("inner", Debug.quote inner.name)])
  | .twoPhase c voters =>
    some (Debug.record "TwoPhaseCommitStep"
      [("config", c.debugText), ("participants", Debug.list (voters.map fun v => Debug.quote v.name))])
  | .command c spec =>
    some (Debug.record "CommandStep" [("config", c.debugText), ("has_compensation", toString spec.undo)])
  | .recording _ | .bare .. => none

/-- The error of a blank step name. -/
def blankName : Error := Error.validation "name" "step name must not be empty"

/-- A scripted step; it needs a name that is not blank and an action. -/
def buildScripted (c : StepConfig) (exec : Option Script) (comp : Option Script)
    (onExec onComp : Effects) : Outcome Step :=
  if Text.isBlank c.name then .error blankName
  else match exec with
    | none => .error ((Error.validation "execute" "step requires an execute action").withContext
        "step" c.name)
    | some e => .ok (.scripted c e comp onExec onComp)

/-- The first name that occurs again later, in order of second occurrence. -/
def firstDuplicate (names : List String) : Option String :=
  let rec go (seen : List String) : List String → Option String
    | [] => none
    | n :: ns => if seen.contains n then some n else go (n :: seen) ns
  go [] names

/-- A parallel step; it needs at least one child and distinct child names. -/
def buildParallel (c : StepConfig) (children : List Step) : Outcome Step :=
  if children.isEmpty then
    .error ((Error.validation "children" "parallel step requires at least one child").withContext
      "step" c.name)
  else match firstDuplicate (children.map name) with
    | some n => .error ((Error.validation "children" ("duplicate child step name '" ++ n ++ "'")).withContext
        "step" c.name)
    | none => .ok (.parallel c children)

/-- A conditional step around `inner`: its name is the inner step's, and its limit and
policy are the inner step's unless given. -/
def buildConditional (inner : Step) (condition : Guard) (timeout : Option Span)
    (policy : Option Retry.Policy) : Step :=
  .conditional { name := inner.name, timeout := timeout.orElse fun _ => inner.timeout,
                 retryPolicy := policy.orElse fun _ => inner.retryPolicy } condition inner

/-- A two-phase commit step; it needs at least one participant. -/
def buildTwoPhase (c : StepConfig) (participants : List Voter) : Outcome Step :=
  if participants.isEmpty then
    .error ((Error.validation "participants"
      "two-phase commit step requires at least one participant").withContext "step" c.name)
  else .ok (.twoPhase c participants)

/-- A command step; it needs a name that is not blank and a command. -/
def buildCommand (c : StepConfig) (commandType : String) (payloadKeys : List String)
    (mode : Option CommandMode) (undo : Bool) : Outcome Step :=
  if Text.isBlank c.name then .error blankName
  else match mode with
    | none => .error ((Error.validation "command" "command step requires a command").withContext
        "step" c.name)
    | some m => .ok (.command c ⟨commandType, payloadKeys, m, undo⟩)

end Step

end Saga
