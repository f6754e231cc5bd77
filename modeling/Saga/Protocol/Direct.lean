import Saga.Protocol.Scenario

/-!
# Calling one step directly

A `step_direct` request builds one step and calls its operations one after another on one
context, outside any saga: execute (under a fresh token, which may be cancelled before the
call or after a delay), compensate, the check whether it may run, and its own settings.
After each call it reports the result, the scripted calls made, the commands sent and the
context's data; at the end, the whole recording log and participants' log.

The context is held by an instance of no definition: steps read and change only the context
of the instance they act on.
-/

namespace Saga.Protocol

open Saga.Act Saga.Engine

/-- The answer form of a command sent by a step called directly. -/
def sentAnswer (e : Envelope) : Json :=
  Json.mkObj [("type", .str e.commandType), ("payload", e.payload)]

/-- The settings a step reports: its name, time limit and retry policy. -/
def infoAnswer (s : Step) : Json :=
  Json.mkObj [("name", .str s.name), ("timeout", Span.optionToJson s.timeout),
    ("retry_policy", policyOptionAnswer s.retryPolicy)]

/-- Makes one call `{"do", ...}` of step `s` on the context of instance `i`. -/
def directCall (s : Step) (i : Nat) (c : Json) : Drive Json := do
  match textOr c "do" with
  | "execute" =>
    let tok ← perform rootToken
    if ((field? c "cancelled").bind asBool?).getD false then perform (cancel tok)
    let ms ← drive (optional c "cancel_after_ms" asNat?)
    let (_, r) ← perform (withTimer ms (cancel tok) (Engine.execute i tok s))
    return doneAnswer r
  | "compensate" => return doneAnswer (← perform (Engine.compensate i s))
  | "can_execute" => return .bool (← perform (Engine.canExecute i s))
  | "info" => return infoAnswer s
  | _ => stop "unknown call"

/-- Makes the calls in order, each reported with what it changed. -/
def directCalls (s : Step) (i : Nat) : List Json → Drive (List Json)
  | [] => pure []
  | c :: rest => do
    let before ← perform (Proc.read id)
    let result ← directCall s i c
    let after ← perform (Proc.read id)
    let report := Json.mkObj [("result", result),
      ("log", .arr ((after.calls.drop before.calls.length).map callAnswer)),
      ("commands", .arr ((after.sent.drop before.sent.length).map sentAnswer)),
      ("data", entriesAnswer (after.inst i).context.data)]
    return report :: (← directCalls s i rest)

/-- Builds the step and the context of a `step_direct` request and makes its calls. -/
def directRun (r : Json) (amb : Ambient) : Reply (Json × Ambient) := do
  let ((built, _), _) ← (stepArg nestingLimit ((field? r "step").getD .null)).run 0
  match built with
  | .error e => return (Json.mkObj [("build", errorAnswer e)], amb)
  | .ok s =>
    let (c, amb) := ((contextInit ((field? r "context").getD .null)).run).run amb
    match ← c with
    | .error e => return (errorAnswer e, amb)
    | .ok ctx =>
      let w : World := { ambient := amb, instances := [{ (default : Instance) with context := ctx }] }
      let calls := ((field? r "calls").bind asList?).getD []
      let (ending, w) := Proc.run clockOf setClock (directCalls s 0 calls).run w
      let results ← match ending with
        | .done (.ok reports) => pure (Json.arr reports)
        | .done (.error j) => throw j
        | .halted reason => throw (panicAnswer reason)
        | .stuck => throw (panicAnswer "every task waits and no timer is set")
        | .exhausted => throw (panicAnswer "the calls ran out of rounds")
      return (Json.mkObj [("results", results), ("recording", .arr (w.recording.map .str)),
        ("participants", .arr (w.participantCalls.map .str))], w.ambient)

/-- Answers a `step_direct` request. -/
def directAnswer (r : Json) : AmbientM Json := do
  match directRun r (← get) with
  | .ok (answer, amb) => set amb; pure answer
  | .error j => pure j

end Saga.Protocol
