import Saga.Store.RowId
import Saga.Protocol.Basic

/-!
# Row identifier requests

A `step_row_id` request names a saga, a step and a start time, and is answered with the
row identifier of that history entry in hexadecimal, without dashes, and its version.
-/

namespace Saga.Protocol

/-- Answers a `step_row_id` request `{"saga_id", "step_name", "started_at"}`. -/
def rowIdAnswer (r : Json) : Reply Json := do
  let sagaId ← need r "saga_id" asString?
  let step ← need r "step_name" asString?
  let text ← need r "started_at" asString?
  let startedAt ← match Instant.parseStrict text with
    | some t => pure t
    | none => refuse "malformed started_at"
  let id := stepRowId sagaId (HistoryEntry.new step .pending startedAt)
  return Json.mkObj [("hex", .str (NameUuid.hex id)), ("version", .ofNat (NameUuid.version id))]

end Saga.Protocol
