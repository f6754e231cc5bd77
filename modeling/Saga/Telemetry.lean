import Saga.Error
import Saga.Telemetry.Directive

/-!
# Telemetry settings

A process that embeds the engine names itself to its tracing (service name and version) and
chooses what is recorded by a filter of directives (`Saga.Telemetry.Directive`).

Only one tracing subscriber can be installed per process: starting telemetry checks the
filter first, then fails when one is installed already.
-/

namespace Saga

/-- How a process names itself to tracing and what it records. -/
structure TelemetrySettings where
  serviceName : String := "saga-engine"
  serviceVersion : String := "0.1.0"
  /-- The filter, in directive syntax. -/
  logLevel : String := "info"
  deriving Inhabited, BEq

namespace Telemetry

/-- Checks a filter: each non-empty directive must be well formed. -/
def checkFilter (filter : String) : Outcome Unit :=
  match parseFilter filter with
  | .ok _ => .ok ()
  | .error e => .error (Error.configuration ("invalid log level '" ++ filter ++ "': " ++ e.text))

/-- Starts telemetry with settings `s` in a process where a subscriber may be installed
already. -/
def start (installed : Bool) (s : TelemetrySettings) : Outcome Unit := do
  checkFilter s.logLevel
  if installed then
    throw (Error.configuration
      "tracing already initialized: a global default trace dispatcher has already been set")

end Telemetry

end Saga
