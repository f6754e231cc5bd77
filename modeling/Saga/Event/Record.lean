import Saga.Event.Kind
import Saga.Json.Basic
import Saga.Time.Instant

/-!
# Stored events

A stored event belongs to one saga's stream. It has a kind, a version (its position in the
stream, from 1; zero until the store assigns one), a metadata map with sorted keys, an id and
a timestamp. The readers of the metadata are lenient: a missing key and a value of the
wrong shape both read as nothing. Times are written in UTC with nine fraction digits and
read back by the strict RFC 3339 grammar.
-/

namespace Saga

/-- An event of a saga's stream. -/
structure StoredEvent where
  id : String
  stream : String
  version : Nat := 0
  kind : EventKind
  /-- The metadata, as a key-sorted map. -/
  fields : List (String × Json) := []
  timestamp : Instant
  deriving Inhabited

namespace StoredEvent

/-- The largest number an unsigned 64-bit metadata value can hold, plus one. -/
def wordBound : Nat := Nat.pow 2 64

/-- A metadata value. -/
def get? (e : StoredEvent) (k : String) : Option Json := e.fields.lookup k

/-- A string metadata value. -/
def getStr? (e : StoredEvent) (k : String) : Option String :=
  match e.get? k with
  | some (.str s) => some s
  | _ => none

/-- A non-negative integer metadata value; floats and negative numbers read as nothing. -/
def getU64? (e : StoredEvent) (k : String) : Option Nat :=
  match e.get? k with
  | some (.num (.nat n)) => if n < wordBound then some n else none
  | _ => none

/-- A time metadata value, read by the strict RFC 3339 grammar. -/
def getTime? (e : StoredEvent) (k : String) : Option Instant :=
  (e.getStr? k).bind Instant.parseStrict

/-- Sets a metadata value. -/
def put (e : StoredEvent) (k : String) (v : Json) : StoredEvent :=
  { e with fields := Json.insertMember k v e.fields }

/-- Sets a time metadata value, written in UTC with nine fraction digits. -/
def putTime (e : StoredEvent) (k : String) (t : Instant) : StoredEvent :=
  e.put k (.str t.writeNanos)

/-- Sets a metadata value when there is one. -/
def putSome (e : StoredEvent) (k : String) : Option Json → StoredEvent
  | some v => e.put k v
  | none => e

end StoredEvent

/-! The metadata keys the engine writes. -/
namespace MetaKey

def status : String := "status"
def step : String := "step"
def context : String := "context"
def definitionName : String := "definition_name"
def savedHistoryCount : String := "saved_history_count"
def lastSavedVersion : String := "last_saved_version"
def sagaStartedAt : String := "saga_started_at"
def sagaCompletedAt : String := "saga_completed_at"
def sagaCreatedAt : String := "saga_created_at"
def stepName : String := "step_name"
def stepStatus : String := "step_status"
def startedAt : String := "started_at"
def completedAt : String := "completed_at"
def durationMs : String := "duration_ms"
def retryAttempt : String := "retry_attempt"
def error : String := "error"
def errorMessage : String := "error_message"

end MetaKey

end Saga
