import Saga.Protocol.Basic

/-!
# Questions about retry policies

`retry` builds a policy and answers questions about it: whether an attempt that failed with
an error is retried, whether the error is retryable at all, the wait after an attempt, and
the longest total wait. `retry_serde` reads a policy's serialized form and writes it again.
-/

namespace Saga.Protocol

/-- One question about a policy. -/
def retryQuery (p : Retry.Policy) (q : Json) : Reply Json := do
  if let some e := q.get? "should_retry" then
    let attempt ← need q "attempt" asNat?
    return .bool (p.shouldRetry (← errorArg e) attempt)
  if let some e := q.get? "is_retryable" then
    return .bool (p.isRetryable (← errorArg e))
  if let some a := q.get? "delay" then
    match asNat? a with
    | some n => return (p.delay n).toJson
    | none => refuse "malformed delay query"
  if (q.get? "max_total_delay").isSome then
    return p.maxTotalDelay.toJson
  refuse "unknown retry query"

/-- Answers `{"policy", "queries"}` with the policy and the answers in order. -/
def retryAnswer (r : Json) : Reply Json := do
  let p ← policyArg ((r.get? "policy").getD .null)
  let qs ← need r "queries" asList?
  let results ← qs.mapM (retryQuery p)
  return Json.mkObj [("policy", policyAnswer p), ("results", .arr results)]

/-- Answers `{"json"}` with the policy it reads as and its serialized form, or the refusal. -/
def retrySerdeAnswer (r : Json) : Reply Json :=
  match Retry.Policy.read ((r.get? "json").getD .null) with
  | .ok p => pure (Json.mkObj [("policy", policyAnswer p), ("serialized", p.toJson)])
  | .error e => pure (serdeAnswer e.text)

end Saga.Protocol
