import Saga.Protocol.Basic
import Saga.Status
import Saga.Chain
import Saga.Event.Kind

/-!
# Questions about statuses and the step chain

`status` reads one name, of a saga status, a step status or a stored event kind, or one
serialized saga status, and describes it. `fsm` compiles the chain of a list of step names
and fires events on it.
-/

namespace Saga.Protocol

/-- Describes a saga status: terminal or not, and the statuses it may become. -/
def sagaStatusAnswer (display : Bool) (s : SagaStatus) : Json :=
  Json.mkObj ([("status", .str s.name), ("is_terminal", .bool s.isTerminal),
    ("transitions", Json.mkObj (SagaStatus.all.map fun t => (t.name, .bool (s.canBecome t)))),
    ("serde", .str s.name)] ++ if display then [("display", .str s.name)] else [])

/-- Describes a step status. -/
def stepStatusAnswer (display : Bool) (s : StepStatus) : Json :=
  Json.mkObj ([("status", .str s.name)] ++
    if display then [("display", .str s.name), ("serde", .str s.name)] else [])

/-- Answers a `status` request by the one field it has. -/
def statusAnswer (r : Json) : Reply Json := do
  let display := ((field? r "display").bind asBool?).getD false
  if let some s := field? r "saga" then
    let s ← (asString? s).elim (refuse "malformed saga status") pure
    return outcomeAnswer (sagaStatusAnswer display) (SagaStatus.parse s)
  if let some s := field? r "step" then
    let s ← (asString? s).elim (refuse "malformed step status") pure
    return outcomeAnswer (stepStatusAnswer display) (StepStatus.parse s)
  if let some s := field? r "event_type" then
    let s ← (asString? s).elim (refuse "malformed event type") pure
    return match EventKind.parse s with
      | .ok k => Json.mkObj [("event_type", .str k.name), ("is_step_event", .bool k.isStepEvent)]
      | .error m => Json.mkObj [("error", .str "parse"), ("message", .str m)]
  if let some v := r.get? "saga_serde" then
    return match SagaStatus.shape.readValue v with
      | .ok (.str s) => Json.mkObj [("status", .str s)]
      | .ok _ => serdeAnswer "invalid status"
      | .error e => serdeAnswer e.text
  refuse "unknown status question"

/-- Answers an `fsm` request: the compiled chain and one answer per `[state, event]`. -/
def chainAnswer (r : Json) : Reply Json := do
  let names ← need r "steps" fun j => (asList? j).bind (·.mapM asString?)
  let queries ← need r "queries" fun j => (asList? j).bind fun qs => qs.mapM fun q =>
    match q with
    | .arr [.str s, .str e] => some (s, e)
    | _ => none
  let c := Chain.compile names
  return Json.mkObj [
    ("states", .arr (c.states.map .str)),
    ("initial", .str Chain.initial),
    ("names", .arr (names.map fun n =>
      Json.mkObj [("state", .str (Chain.stateFor n)), ("event", .str (Chain.eventFor n))])),
    ("results", .arr (queries.map fun (s, e) =>
      Json.mkObj [("can_fire", .bool (c.canFire s e)),
        ("fire", outcomeAnswer .str (c.fire s e))]))]

end Saga.Protocol
