import Saga.Protocol.Retry
import Saga.Protocol.Status
import Saga.Protocol.Failure
import Saga.Protocol.Config
import Saga.Protocol.Normalize
import Saga.Protocol.Context
import Saga.Protocol.Codec
import Saga.Protocol.Define
import Saga.Protocol.Scenario
import Saga.Protocol.RowId
import Saga.Protocol.Direct
import Saga.Protocol.Event
import Saga.Protocol.Telemetry
import Saga.Json.Read

/-!
# Answering a request line

A request is one JSON object whose `op` names the question. The answer is one JSON value,
with clock times and random identifiers masked, written on one line.
-/

namespace Saga.Protocol

/-- The wall-clock time at which every request starts. -/
def requestStart : Instant := Instant.ofCivil 2026 1 1 0 0 0 0

/-- The answer to a request, before masking. -/
def answerRequest (r : Json) : AmbientM Json :=
  match r.get? "op" with
  | some (.str "retry") => pure (retryAnswer r).answer
  | some (.str "retry_serde") => pure (retrySerdeAnswer r).answer
  | some (.str "status") => pure (statusAnswer r).answer
  | some (.str "fsm") => pure (chainAnswer r).answer
  | some (.str "error") => pure (errorOpAnswer r).answer
  | some (.str "config") => pure (configAnswer r).answer
  | some (.str "snapshot") => pure (snapshotOpAnswer r).answer
  | some (.str "context") => contextOpAnswer r
  | some (.str "codec") => pure (codecAnswer r).answer
  | some (.str "define") => pure (defineAnswer r).answer
  | some (.str "saga") => sagaAnswer r
  | some (.str "step_row_id") => pure (rowIdAnswer r).answer
  | some (.str "step_direct") => directAnswer r
  | some (.str "event") => eventAnswer r
  | some (.str "telemetry") => pure (telemetryAnswer r)
  | _ => pure (badInput "unknown op")

/-- Answers one request line with one answer line. -/
def respond (line : String) : String :=
  match Json.parse line with
  | .error e => (badInput e.text).render
  | .ok r =>
    let (answer, after) := (answerRequest r).run (Ambient.beginAt requestStart)
    (mask ⟨requestStart, after.wall⟩ answer).render

end Saga.Protocol
