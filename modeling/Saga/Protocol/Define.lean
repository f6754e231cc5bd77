import Saga.Definition
import Saga.Protocol.Basic

/-!
# Definitions in requests

A request describes a definition as JSON: its name, its steps, an optional retry policy and
default time limit, and engine defaults. Each step names its kind (`step` when absent) and
the settings of that kind; scripted actions and guards are numbered as they are read, so
that each one counts its own calls.

Steps are built as they are read, children before their parent, and the first step that
does not build is the definition's answer; the definition is built last. With `details`,
the answer also describes every step built before the first failure.
-/

namespace Saga.Protocol

/-- Reading with a counter that numbers scripts and guards. -/
abbrev Decoder := StateT Nat Reply

/-- The next script or guard number. -/
def freshCounter : Decoder Nat := modifyGet fun n => (n, n + 1)

/-- One outcome of a script. -/
def playArg (j : Json) : Reply Play :=
  match j with
  | .str "ok" => pure .succeed
  | .str "fail" => pure .fail
  | .str "panic" => pure .halt
  | .obj _ => do
    let d ← optional j "delay_ms" asNat?
    let k ← match field? j "error" with
      | some e => some <$> kindArg e
      | none => pure none
    return .after (d.getD 0) (k.map fun k => (k, (field? j "message").bind asString?))
  | _ => refuse "malformed outcome"

/-- A script: one outcome or a list of them. -/
def scriptArg (j : Json) : Decoder Script := do
  let plays ← match j with
    | .arr xs => liftM (xs.mapM playArg : Reply (List Play))
    | x => liftM ((fun p => [p]) <$> playArg x : Reply (List Play))
  return ⟨← freshCounter, plays⟩

/-- An optional script, `"ok"` when absent. -/
def scriptOr (j : Json) (k : String) : Decoder Script :=
  scriptArg ((field? j k).getD (.str "ok"))

/-- A key and a string or number, as `[k, x]`. -/
def keyed (j : Json) (read : Json → Option α) : Option (String × α) :=
  match j with
  | .arr [.str k, x] => (read x).map fun a => (k, a)
  | _ => none

/-- An integer. -/
def asInt? : Json → Option Int
  | .num (.nat n) => some n
  | .num (.int i) => some i
  | _ => none

/-- A condition, read to the given depth. -/
def conditionArg : Nat → Json → Reply Condition
  | 0, _ => refuse "condition nested too deeply"
  | _, .bool b => pure (.always b)
  | fuel + 1, j@(.obj [(k, v)]) =>
    match k with
    | "bool" => (Condition.flag ·) <$> need j "bool" asString?
    | "has" => (Condition.has ·) <$> need j "has" asString?
    | "int_ge" => match keyed v asInt? with
      | some (key, n) => pure (.atLeast key n)
      | none => refuse "malformed int_ge"
    | "float_lt" => match keyed v asFloat? with
      | some (key, x) => pure (.lessThan key x)
      | none => refuse "malformed float_lt"
    | "str_eq" => match keyed v asString? with
      | some (key, s) => pure (.textIs key s)
      | none => refuse "malformed str_eq"
    | "list_has" => match keyed v asString? with
      | some (key, s) => pure (.listHas key s)
      | none => refuse "malformed list_has"
    | "not" => Condition.not <$> conditionArg fuel v
    | "all" => match v with
      | .arr xs => Condition.all <$> xs.mapM (conditionArg fuel)
      | _ => refuse "malformed all"
    | "any" => match v with
      | .arr xs => Condition.any <$> xs.mapM (conditionArg fuel)
      | _ => refuse "malformed any"
    | _ => refuse "unknown condition"
  | _, _ => refuse "malformed condition"

/-- How deep conditions and steps may nest. -/
def nestingLimit : Nat := 256

/-- A guard: a condition with its own call counter. -/
def guardArg (j : Json) : Decoder Guard := do
  let c ← liftM (conditionArg nestingLimit j : Reply Condition)
  return ⟨← freshCounter, c⟩

/-- Lifts a reply into the decoder. -/
def replied (r : Reply α) : Decoder α := liftM r

/-- The settings shared by step kinds. -/
def configArg (j : Json) : Decoder StepConfig := do
  let timeout ← replied (optional j "timeout_ms" asNat?)
  let policy ← match field? j "retry_policy" with
    | some p => some <$> replied (policyArg p)
    | none => pure none
  let guard ← match field? j "guard" with
    | some g => some <$> guardArg g
    | none => pure none
  return { name := textOr j "name", timeout := timeout.map Span.ofMillis, retryPolicy := policy, guard }

/-- Context changes `{"k": v}` to set and `["k"]` to remove. -/
def effectsArg (j : Json) (setKey removeKey : String) : Reply Effects := do
  let set := match field? j setKey with
    | some (.obj ms) => ms.map fun (k, v) => (k, Context.Value.ofJson v)
    | _ => []
  let remove ← match field? j removeKey with
    | some v => match (asList? v).bind fun xs => xs.mapM asString? with
      | some ks => pure ks
      | none => refuse ("malformed " ++ removeKey)
    | none => pure []
  return { set, remove }

/-- A participant of a two-phase step. -/
def voterArg (j : Json) : Decoder Voter := do
  let name := textOr j "name"
  if ((field? j "fixture").bind asBool?).getD false then
    return .fixture name (((field? j "rejecting").bind asBool?).getD false)
  let p ← scriptOr j "prepare"
  let c ← scriptOr j "commit"
  let a ← scriptOr j "abort"
  return .scripted name p c a

/-- The mode of a command step; `none` when it has no command. -/
def commandModeArg (j : Json) : Reply (Option CommandMode) :=
  match textOr j "mode" with
  | "" | "envelope" => pure (some .envelope)
  | "typed" => pure (some .typed)
  | "serialization_error" => pure (some .rejected)
  | "none" => pure none
  | _ => refuse "unknown command mode"

/-- A step read from a request, with the steps built while reading it in build order
(children before their parent), up to the first that failed to build. -/
abbrev Built (α : Type) := Outcome α × List Step

/-- A step that was built, or not, on its own. -/
def Built.single (r : Outcome Step) : Built Step :=
  match r with
  | .ok s => (.ok s, [s])
  | .error e => (.error e, [])

/-- Steps read in order: their list, or the first that failed, with the steps built up to
that failure. -/
def Built.all : List (Built Step) → Built (List Step)
  | [] => (.ok [], [])
  | (r, b) :: rest =>
    match r with
    | .error e => (.error e, b)
    | .ok s =>
      let (rs, bs) := Built.all rest
      (rs.map (s :: ·), b ++ bs)

/-- Builds a parent from its parts, once the parts are built. -/
def Built.andThen (parts : Built α) (build : α → Outcome Step) : Built Step :=
  match parts.1 with
  | .error e => (.error e, parts.2)
  | .ok a =>
    let (r, b) := Built.single (build a)
    (r, parts.2 ++ b)

/-- Reads and builds a step, to the given depth. -/
def stepArg : Nat → Json → Decoder (Built Step)
  | 0, _ => replied (refuse "steps nested too deeply")
  | fuel + 1, j => do
    match textOr j "type" with
    | "" | "step" =>
      let c ← configArg j
      let exec ← match field? j "exec" with
        | some e => some <$> scriptArg e
        | none => pure none
      let comp ← match field? j "comp" with
        | some e => some <$> scriptArg e
        | none => pure none
      let onExec ← replied (effectsArg j "set" "remove")
      let onComp ← replied (effectsArg j "comp_set" "comp_remove")
      return Built.single (Step.buildScripted c exec comp onExec onComp)
    | "parallel" =>
      let c ← if textOr j "ctor" == "new" then pure { name := textOr j "name" } else configArg j
      let items := ((field? j "children").bind asList?).getD []
      let children ← items.mapM (stepArg fuel)
      return (Built.all children).andThen (Step.buildParallel c)
    | "conditional" =>
      let inner ← stepArg fuel ((field? j "inner").getD .null)
      let condition ← guardArg ((field? j "condition").getD (.bool true))
      let timeout ← replied (optional j "timeout_ms" asNat?)
      let policy ← match field? j "retry_policy" with
        | some p => some <$> replied (policyArg p)
        | none => pure none
      return inner.andThen fun s => .ok (Step.buildConditional s condition (timeout.map Span.ofMillis) policy)
    | "two_phase" =>
      let c ← if textOr j "ctor" == "new" then pure { name := textOr j "name" } else configArg j
      let items := ((field? j "participants").bind asList?).getD []
      let voters ← items.mapM voterArg
      return Built.single (Step.buildTwoPhase c voters)
    | "command" =>
      let c ← configArg j
      let mode ← replied (commandModeArg j)
      let keys := (((field? j "payload_keys").bind asList?).getD []).filterMap asString?
      let undo := ((field? j "compensation").bind asBool?).getD false
      return Built.single (Step.buildCommand c (textOr j "command_type") keys mode undo)
    | "recording" =>
      let failures := match field? j "failures" with
        | some (.str "always") => Nat.pow 2 64 - 1
        | some v => (asNat? v).getD 0
        | none => 0
      let delay ← replied (optional j "delay_ms" asNat?)
      let timeout ← replied (optional j "timeout_ms" asNat?)
      let policy ← match field? j "retry_policy" with
        | some p => some <$> replied (policyArg p)
        | none => pure none
      let counter ← freshCounter
      return Built.single (.ok (.recording {
        name := textOr j "name", counter, failures
        failCompensation := ((field? j "fail_compensation").bind asBool?).getD false
        delay := delay.map Span.ofMillis, timeout := timeout.map Span.ofMillis, retryPolicy := policy }))
    | "bare" =>
      let exec ← scriptOr j "exec"
      return Built.single (.ok (.bare (textOr j "name") exec))
    | _ => replied (refuse "unknown step type")

/-- An optional policy field. -/
def policyField (j : Json) (k : String) : Reply (Option Retry.Policy) :=
  match field? j k with
  | some p => some <$> policyArg p
  | none => pure none

/-- Reads and builds a definition; engine defaults fill only what it leaves unset. Answers
the steps built on the way too. -/
def definitionArg (j : Json) : Decoder (Outcome Definition × List Step) := do
  let items := ((field? j "steps").bind asList?).getD []
  let (steps, built) := Built.all (← items.mapM (stepArg nestingLimit))
  let policy ← replied (policyField j "retry_policy")
  let timeout ← replied (optional j "default_step_timeout_ms" asNat?)
  let (policy, timeout) ← match field? j "engine" with
    | some e => do
      let ep ← replied (policyField e "default_retry_policy")
      let et ← replied (optional e "default_step_timeout_ms" asNat?)
      pure (policy.orElse fun _ => ep, timeout.orElse fun _ => et)
    | none => pure (policy, timeout)
  return (steps >>= fun steps => Definition.build (textOr j "name") steps policy (timeout.map Span.ofMillis),
    built)

/-- The answer form of an optional policy. -/
def policyOptionAnswer : Option Retry.Policy → Json
  | some p => policyAnswer p
  | none => .null

/-- The answer describing a built definition. -/
def definitionAnswer (d : Definition) : Json :=
  Json.mkObj [("name", .str d.name), ("steps", .arr (d.stepNames.map .str)),
    ("len", .ofNat d.steps.length), ("states", .arr (d.chain.states.map .str)),
    ("retry_policy", policyOptionAnswer d.retryPolicy),
    ("default_step_timeout", Span.optionToJson d.defaultStepTimeout),
    ("step_info", .arr (d.steps.map fun s => Json.mkObj [("name", .str s.name),
      ("timeout", Span.optionToJson s.timeout), ("retry_policy", policyOptionAnswer s.retryPolicy)]))]

/-- The entry describing a built step, for the kinds that have a debug text. -/
def detailAnswer (s : Step) : Option Json :=
  s.debugText?.map fun debug =>
    let extra : List (String × Json) := match s with
      | .scripted c _ comp _ _ => [("has_compensation", .bool comp.isSome), ("config_name", .str c.name)]
      | .parallel c children =>
        [("children", .arr (children.map fun k => .str k.name)), ("succeeded_key", .str (Step.succeededKey c.name))]
      | .conditional c _ inner => [("inner", .str inner.name), ("skipped_key", .str (Step.skippedKey c.name))]
      | .twoPhase c _ => [("transaction_key", .str (Step.transactionKey c.name))]
      | _ => []
    Json.mkObj ([("type", .str s.kindName), ("name", .str s.name), ("debug", .str debug)] ++ extra)

/-- What a fresh registry shows after registering `d` twice. -/
def registryAnswer (d : Definition) : Json :=
  let r := ({} : Registry).register d
  let r := r.register d
  Json.mkObj [("empty_before", .bool true), ("names", .arr (r.names.map .str)),
    ("len", .ofNat r.entries.length), ("is_empty", .bool r.entries.isEmpty),
    ("contains", .bool (r.get? d.name).isSome), ("contains_other", .bool (r.get? (d.name ++ "?")).isSome),
    ("same_arc", .bool true), ("get_missing", .bool (r.get? (d.name ++ "?")).isNone)]

/-- An object with more members. -/
def withMembers (j : Json) (extra : List (String × Json)) : Json :=
  match j with
  | .obj ms => Json.mkObj (ms ++ extra)
  | j => j

/-- Answers a `define` request; with `details`, also the built steps and the definition's
own views. -/
def defineAnswer (r : Json) : Reply Json := do
  let ((d, built), _) ← (definitionArg ((field? r "definition").getD .null)).run 0
  if !((field? r "details").bind asBool?).getD false then return outcomeAnswer definitionAnswer d
  let details := ("details", Json.arr (built.filterMap detailAnswer))
  match d with
  | .error e => return withMembers (errorAnswer e) [details]
  | .ok d =>
    return withMembers (definitionAnswer d) [details, ("debug", .str d.debugText),
      ("is_empty", .bool d.steps.isEmpty), ("step_first", optionAnswer (d.steps.head?.map Step.name)),
      ("step_past_end", .null), ("registry", registryAnswer d)]

end Saga.Protocol
