import Saga.Context.Value
import Saga.Retry
import Saga.Time.Instant

/-!
# Saga contexts

A context is the data every step of a saga reads and writes: a map of values, a
correlation id, and metadata (a time budget for the whole saga, a retry policy that
overrides the definition's, creation and update times, and a second map of custom values).
Every change refreshes the update time.

A context is written as the map `{"data", "correlation_id", "metadata"}` (`toMap`) and read
back from it by `ofMap`, which checks the parts in the order correlation id, data,
metadata; within the metadata, the retry policy comes before the times. A time budget is
written in whole milliseconds.
-/

namespace Saga.Context

/-- Execution metadata of a context. -/
structure Metadata where
  /-- The time budget of the whole saga. -/
  timeout : Option Span := none
  /-- A retry policy that overrides the definition's. -/
  retryPolicy : Option Retry.Policy := none
  createdAt : Instant
  updatedAt : Instant
  custom : Entries := []
  deriving Inhabited

namespace Metadata

/-- Fresh metadata created at `now`. -/
def fresh (now : Instant) : Metadata := { createdAt := now, updatedAt := now }

/-- Equality of every part. -/
def beq (a b : Metadata) : Bool :=
  a.timeout == b.timeout && a.retryPolicy == b.retryPolicy && a.createdAt == b.createdAt &&
    a.updatedAt == b.updatedAt && a.custom.beq b.custom

instance : BEq Metadata := ⟨beq⟩

/-- The written form: the budget in milliseconds, times in RFC 3339, custom values as JSON. -/
def toJson (m : Metadata) : Json :=
  Json.mkObj [("timeout", match m.timeout with
      | some d => .ofNat d.toMillis
      | none => .null),
    ("retry_policy", match m.retryPolicy with
      | some p => p.toJson
      | none => .null),
    ("created_at", m.createdAt.toJson), ("updated_at", m.updatedAt.toJson),
    ("custom", m.custom.toJson)]

/-- Builds metadata from the fields of its serialized record, in declaration order. -/
def ofFields : List Json → Except String Json
  | [t, p, c, u, x] => .ok (.obj [("timeout", t), ("retry_policy", p), ("created_at", c),
      ("updated_at", u), ("custom", x)])
  | _ => .error "invalid metadata"

/-- The serialized form: both times required, unknown keys ignored. -/
def shape : Json.Shape :=
  .record "SagaMetadata"
    [("timeout", .option (.unsigned "u64" (Nat.pow 2 64 - 1)), .default .null),
     ("retry_policy", .option Retry.Policy.shape, .default .null),
     ("created_at", Instant.shape, .required),
     ("updated_at", Instant.shape, .required),
     ("custom", .map, .default (.obj []))]
    false "struct SagaMetadata with 5 elements" ofFields

/-- The metadata of a value read by `shape`; custom values are classified in order. -/
def ofShape (j : Json) : Metadata :=
  { timeout := match j.get? "timeout" with
      | some (.num (.nat n)) => some (Span.ofMillis n)
      | _ => none
    retryPolicy := match j.get? "retry_policy" with
      | some .null | none => none
      | some p => some (Retry.Policy.ofJson p)
    createdAt := Instant.ofShape ((j.get? "created_at").getD .null)
    updatedAt := Instant.ofShape ((j.get? "updated_at").getD .null)
    custom := match j.get? "custom" with
      | some (.obj ms) => Entries.ofList (ms.map fun (k, v) => (k, Value.ofUntagged v))
      | _ => [] }

/-- Reads serialized metadata, or says why not. -/
def read (j : Json) : Except Json.ReadError Metadata := ofShape <$> shape.readValue j

/-- A time of the map form: `now` when absent, else read, refused on its field. -/
def timeField (fields : List (String × Json)) (key : String) (now : Instant) : Outcome Instant :=
  match fields.lookup key with
  | none => .ok now
  | some v => match Instant.shape.readValue v with
    | .ok t => .ok (Instant.ofShape t)
    | .error e => .error (Error.validation key e.text)

/-- Metadata from its map form, or the validation error of the first part that does not
read. -/
def ofMapForm (j : Json) (now : Instant) : Outcome Metadata := do
  let fields ← match j with
    | .obj ms => pure ms
    | _ => throw (Error.validation "metadata" "metadata must be an object")
  let policy ← match fields.lookup "retry_policy" with
    | none | some .null => pure none
    | some v => match Retry.Policy.read v with
      | .ok p => pure (some p)
      | .error e => throw (Error.validation "retry_policy" e.text)
  let custom := match fields.lookup "custom" with
    | some (.obj ms) => Entries.ofList (ms.map fun (k, v) => (k, Value.ofJson v))
    | _ => []
  let timeout := match fields.lookup "timeout" with
    | some (.num (.nat n)) => if n < Nat.pow 2 64 then some (Span.ofMillis n) else none
    | _ => none
  let created ← timeField fields "created_at" now
  let updated ← timeField fields "updated_at" now
  return { timeout, retryPolicy := policy, createdAt := created, updatedAt := updated, custom }

end Metadata

end Saga.Context

namespace Saga

/-- A saga context. -/
structure SagaContext where
  data : Context.Entries := []
  correlationId : String
  metadata : Context.Metadata
  deriving Inhabited

namespace SagaContext

open Context

/-- An empty context with the given correlation id, created at `now`. -/
def withCorrelationId (id : String) (now : Instant) : SagaContext :=
  { correlationId := id, metadata := Metadata.fresh now }

/-- The value under `key`. -/
def get (c : SagaContext) (key : String) : Option Value := c.data.lookup key

/-- Whether a value is stored under `key`. -/
def contains (c : SagaContext) (key : String) : Bool := (c.get key).isSome

/-- Marks the context changed at `now`. -/
def touch (c : SagaContext) (now : Instant) : SagaContext :=
  { c with metadata := { c.metadata with updatedAt := now } }

/-- Stores `v` under `key`. -/
def set (c : SagaContext) (key : String) (v : Value) (now : Instant) : SagaContext :=
  { c with data := c.data.insert key v }.touch now

/-- Removes the value under `key`, answering it; only a removal counts as a change. -/
def remove (c : SagaContext) (key : String) (now : Instant) : Option Value × SagaContext :=
  match c.get key with
  | some v => (some v, { c with data := c.data.filter (·.1 != key) }.touch now)
  | none => (none, c)

/-- Sets the time budget. -/
def setTimeout (c : SagaContext) (t : Option Span) (now : Instant) : SagaContext :=
  { c with metadata := { c.metadata with timeout := t, updatedAt := now } }

/-- Sets the overriding retry policy. -/
def setRetryPolicy (c : SagaContext) (p : Option Retry.Policy) (now : Instant) : SagaContext :=
  { c with metadata := { c.metadata with retryPolicy := p, updatedAt := now } }

/-- Stores a custom value. -/
def setCustom (c : SagaContext) (key : String) (v : Value) (now : Instant) : SagaContext :=
  { c with metadata := { c.metadata with custom := c.metadata.custom.insert key v,
                                         updatedAt := now } }

/-- The custom value under `key`. -/
def getCustom (c : SagaContext) (key : String) : Option Value := c.metadata.custom.lookup key

/-- The map form `{"data", "correlation_id", "metadata"}`. -/
def toMap (c : SagaContext) : List (String × Json) :=
  Json.ofMembers [("data", c.data.toJson), ("correlation_id", .str c.correlationId),
    ("metadata", c.metadata.toJson)]

/-- Reads a context from its map form. A missing correlation id is `freshId`, missing
metadata is created at `now`. -/
def ofMap (m : List (String × Json)) (now : Instant) (freshId : String) : Outcome SagaContext := do
  let id ← match m.lookup "correlation_id" with
    | some (.str s) => pure s
    | some _ => throw (Error.validation "correlation_id" "correlation id must be a string")
    | none => pure freshId
  let data ← match m.lookup "data" with
    | some (.obj ms) => pure (Entries.ofList (ms.map fun (k, v) => (k, Value.ofJson v)))
    | some .null | none => pure []
    | some _ => throw (Error.validation "data" "data must be an object")
  let metadata ← match m.lookup "metadata" with
    | some .null | none => pure (Metadata.fresh now)
    | some v => Metadata.ofMapForm v now
  return { data, correlationId := id, metadata }

end SagaContext

end Saga
