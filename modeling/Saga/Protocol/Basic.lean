import Saga.Error
import Saga.Retry
import Saga.Json.Render

/-!
# Requests and answers

The line protocol asks the library one question per JSON object and answers with one JSON
value. This module holds what all questions share: reading the fields of a request, and
writing the answer forms.

* An engine error is `{"error": kind, "message", "context": sorted map, "source"?}`.
* A refused deserialization is `{"error": "serde", "message"}`.
* A request the protocol does not allow is `{"error": "bad_input", "message"}`.
* A float answer is a JSON number when finite and otherwise the string `NaN`, `inf` or
  `-inf`; inside JSON the engine writes itself a non-finite float stays `null`.
-/

namespace Saga.Protocol

/-- The answer being built: a malformed request stops it with its `bad_input` answer. -/
abbrev Reply := Except Json

/-- The answer to a malformed request. -/
def badInput (message : String) : Json :=
  Json.mkObj [("error", .str "bad_input"), ("message", .str message)]

/-- Stops with a `bad_input` answer. -/
def refuse (message : String) : Reply α := throw (badInput message)

/-- The answer of a reply, the stopped one included. -/
def Reply.answer : Reply Json → Json
  | .ok j => j
  | .error j => j

/-- A field of a request, if present and not `null`. -/
def field? (r : Json) (k : String) : Option Json :=
  match r.get? k with
  | some .null => none
  | v => v

/-- A string. -/
def asString? : Json → Option String
  | .str s => some s
  | _ => none

/-- A non-negative integer. -/
def asNat? : Json → Option Nat
  | .num (.nat n) => some n
  | _ => none

/-- A boolean. -/
def asBool? : Json → Option Bool
  | .bool b => some b
  | _ => none

/-- An array's items. -/
def asList? : Json → Option (List Json)
  | .arr xs => some xs
  | _ => none

/-- A float: any number, or the strings `NaN`, `inf` and `-inf`. -/
def asFloat? : Json → Option Float
  | .num n => some n.toFloat
  | .str "NaN" => some (0.0 / 0.0)
  | .str "inf" => some (1.0 / 0.0)
  | .str "-inf" => some (-(1.0 / 0.0))
  | _ => none

/-- A required field read by `read`. -/
def need (r : Json) (k : String) (read : Json → Option α) : Reply α :=
  match (r.get? k).bind read with
  | some v => pure v
  | none => refuse ("missing or malformed field " ++ k)

/-- An optional field read by `read`; a present field that does not read is refused. -/
def optional (r : Json) (k : String) (read : Json → Option α) : Reply (Option α) :=
  match field? r k with
  | none => pure none
  | some v => match read v with
    | some x => pure (some x)
    | none => refuse ("malformed field " ++ k)

/-- A string field, empty when absent. -/
def textOr (r : Json) (k : String) : String := ((field? r k).bind asString?).getD ""

/-- The answer form of a float. -/
def floatAnswer (f : Float) : Json :=
  if f.isNaN then .str "NaN"
  else if f.isInf then .str (if f > 0 then "inf" else "-inf")
  else .num (.float f)

/-- The answer form of an optional string. -/
def optionAnswer : Option String → Json
  | some s => .str s
  | none => .null

/-- The answer form of a string-valued context: a sorted map. -/
def contextAnswer (ctx : List (String × String)) : Json :=
  Json.mkObj (ctx.map fun (k, v) => (k, .str v))

/-- The answer form of an engine error. -/
def errorAnswer (e : Error) : Json :=
  Json.mkObj ([("error", .str e.kind.name), ("message", .str e.message),
    ("context", contextAnswer e.context)] ++
    match e.source with
    | some s => [("source", .str s)]
    | none => [])

/-- The answer form of a refused deserialization. -/
def serdeAnswer (message : String) : Json :=
  Json.mkObj [("error", .str "serde"), ("message", .str message)]

/-- The answer form of an outcome. -/
def outcomeAnswer (f : α → Json) : Outcome α → Json
  | .ok v => f v
  | .error e => errorAnswer e

/-- The answer form of a policy: its serialized form with a non-finite multiplier written
as a string. -/
def policyAnswer (p : Retry.Policy) : Json :=
  Json.mkObj [("backoff_multiplier", floatAnswer p.multiplier),
    ("initial_delay", p.initialDelay.toJson), ("max_attempts", .ofNat p.maxAttempts),
    ("retryable_errors", match p.retryable with
      | some l => .arr (l.map .str)
      | none => .null)]

/-- An error kind by name. -/
def kindArg (j : Json) : Reply Kind :=
  match (asString? j).bind Kind.ofName? with
  | some k => pure k
  | none => refuse "unknown error kind"

/-- An error `{"kind", "message"}`. -/
def errorArg (j : Json) : Reply Error := do
  let k ← kindArg ((j.get? "kind").getD .null)
  return Error.new (textOr j "message") k

/-- A span `{"secs", "nanos"}`. -/
def spanArg? (j : Json) : Option Span :=
  match j.get? "secs", j.get? "nanos" with
  | some (.num (.nat s)), some (.num (.nat n)) => some (Span.ofNanos (s * Span.nanosPerSec + n))
  | _, _ => none

/-- One builder step of a policy. -/
def buildPolicy (p : Retry.Policy) (step : Json) : Reply Retry.Policy :=
  match step with
  | .arr [.str "max_attempts", .num (.nat n)] => pure { p with maxAttempts := n }
  | .arr [.str "initial_delay_ms", .num (.nat n)] => pure { p with initialDelay := Span.ofMillis n }
  | .arr [.str "backoff_multiplier", v] => match asFloat? v with
    | some f => pure { p with multiplier := f }
    | none => refuse "malformed multiplier"
  | .arr [.str "retry_on", .str s] => pure { p with retryable := some ((p.retryable.getD []) ++ [s]) }
  | _ => refuse "unknown policy builder step"

/-- A policy: `"default"`, `"no_retry"`, `{"builder": steps}`, or its fields with the
standard policy's values for those left out. -/
def policyArg (j : Json) : Reply Retry.Policy := do
  match j with
  | .str "default" => pure Retry.Policy.standard
  | .str "no_retry" => pure Retry.Policy.noRetry
  | .obj _ =>
    match j.get? "builder" with
    | some (.arr steps) => steps.foldlM buildPolicy Retry.Policy.standard
    | _ =>
      let std := Retry.Policy.standard
      let attempts ← optional j "max_attempts" asNat?
      let ms ← optional j "initial_delay_ms" asNat?
      let ns ← optional j "initial_delay_ns" asNat?
      let span ← optional j "initial_delay" spanArg?
      let mult ← optional j "backoff_multiplier" asFloat?
      let allowed ← optional j "retryable_errors" fun v =>
        (asList? v).bind fun xs => xs.mapM asString?
      let delay := match ms, ns, span with
        | some m, _, _ => Span.ofMillis m
        | _, some n, _ => Span.ofNanos n
        | _, _, some d => d
        | _, _, _ => std.initialDelay
      return { maxAttempts := attempts.getD std.maxAttempts, initialDelay := delay,
               multiplier := mult.getD std.multiplier, retryable := allowed }
  | _ => refuse "malformed policy"

end Saga.Protocol
