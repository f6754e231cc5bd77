import Saga.Protocol.Basic
import Saga.Telemetry

/-!
# Telemetry requests

A `telemetry` request builds telemetry settings (named, or the defaults, then a version and
a filter when given) and starts telemetry with them in a process that already has a
subscriber: the answer shows the settings, the defaults, whether the two agree, and the
failure of the start.
-/

namespace Saga.Protocol

/-- The answer form of telemetry settings. -/
def telemetrySettingsAnswer (s : TelemetrySettings) : Json :=
  Json.mkObj [("service_name", .str s.serviceName), ("service_version", .str s.serviceVersion),
    ("log_level", .str s.logLevel)]

/-- Answers a `telemetry` request. -/
def telemetryAnswer (r : Json) : Json :=
  let c := (field? r "config").getD (.obj [])
  let text (k : String) : Option String := (field? c k).bind asString?
  let s : TelemetrySettings := match text "service_name" with
    | some n => { serviceName := n }
    | none => {}
  let s := match text "service_version" with
    | some v => { s with serviceVersion := v }
    | none => s
  let s := match text "log_level" with
    | some l => { s with logLevel := l }
    | none => s
  Json.mkObj [("config", telemetrySettingsAnswer s), ("default", telemetrySettingsAnswer {}),
    ("is_default", .bool (s == {})),
    ("init", match Telemetry.start true s with
      | .ok () => .str "ok"
      | .error e => errorAnswer e)]

end Saga.Protocol
