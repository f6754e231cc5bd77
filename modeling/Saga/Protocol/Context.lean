import Saga.Protocol.Basic
import Saga.Context.Basic
import Saga.Ambient
import Saga.Json.Read

/-!
# Questions about contexts

`context` builds a context and applies a list of operations to it, answering each: reads
with their coercions, writes, the map form and its round trip through JSON text, deep
copies, and the serialized metadata.

Context values are answered tagged by kind: `{"bool": b}`, `{"int": i}`, `{"float": f}`,
`{"string": s}`, `{"string_list": [..]}`, `{"opaque": json}`.
-/

namespace Saga.Protocol

open Context

/-- The tagged answer form of a context value. -/
def valueAnswer : Value → Json
  | .bool b => Json.mkObj [("bool", .bool b)]
  | .int i => Json.mkObj [("int", .ofInt i)]
  | .float f => Json.mkObj [("float", floatAnswer f)]
  | .string s => Json.mkObj [("string", .str s)]
  | .stringList l => Json.mkObj [("string_list", .arr (l.map .str))]
  | .document j => Json.mkObj [("opaque", j)]

/-- The tagged answer form of an optional value. -/
def optionValueAnswer : Option Value → Json
  | some v => valueAnswer v
  | none => .null

/-- The tagged answer form of a map of values. -/
def entriesAnswer (e : Entries) : Json := .obj (e.map fun (k, v) => (k, valueAnswer v))

/-- An integer within 64 bits. -/
def asInt64? : Json → Option Int
  | .num (.nat n) => if (n : Int) ≤ Value.i64Max then some n else none
  | .num (.int i) => if Value.i64Min ≤ i then some i else none
  | _ => none

/-- A value given with its kind: `{"type", "value"}`; a document is taken as it is. -/
def typedArg (j : Json) : Reply Value := do
  let v := (j.get? "value").getD .null
  let bad {α : Type} : Reply α := refuse "malformed typed value"
  match j.get? "type" with
  | some (.str "bool") => (asBool? v).elim bad (pure ∘ .bool)
  | some (.str "int") => (asInt64? v).elim bad (pure ∘ .int)
  | some (.str "float") => (asFloat? v).elim bad (pure ∘ .float)
  | some (.str "string") => (asString? v).elim bad (pure ∘ .string)
  | some (.str "string_list") =>
    ((asList? v).bind (·.mapM asString?)).elim bad (pure ∘ .stringList)
  | some (.str "opaque") => pure (.document v)
  | _ => bad

/-- The value of an operation: `typed`, or the untyped `value` classified. -/
def valueArg (op : Json) : Reply Value :=
  match op.get? "typed" with
  | some t => typedArg t
  | none => pure (Value.ofJson ((op.get? "value").getD .null))

/-- A value converted from a native type named by `as`. -/
def convertedArg (as : String) (v : Json) : Reply Value := do
  let bad {α : Type} : Reply α := refuse "malformed converted value"
  match as with
  | "bool" => (asBool? v).elim bad (pure ∘ .bool)
  | "i64" => (asInt64? v).elim bad (pure ∘ .int)
  | "i32" => match asInt64? v with
    | some i => if -(Int.pow 2 31) ≤ i && i < Int.pow 2 31 then pure (.int i) else bad
    | none => bad
  | "u32" => match asNat? v with
    | some n => if n < Nat.pow 2 32 then pure (.int n) else bad
    | none => bad
  | "f64" => (asFloat? v).elim bad (pure ∘ .float)
  | "str" | "string" => (asString? v).elim bad (pure ∘ .string)
  | "string_list" => ((asList? v).bind (·.mapM asString?)).elim bad (pure ∘ .stringList)
  | "value" => pure (Value.ofJson v)
  | _ => bad

/-- Context operations: they read the clock and draw identifiers, and may stop the
answer as malformed. -/
abbrev ContextM := StateT SagaContext (ExceptT Json AmbientM)

/-- Reads the clock. -/
def contextNow : ContextM Instant := liftM readClock

/-- Stops with a `bad_input` answer. -/
def contextRefuse (message : String) : ContextM α := throw (badInput message)

/-- Lifts a reply. -/
def liftReply (r : Reply α) : ContextM α :=
  match r with
  | .ok a => pure a
  | .error j => throw j

/-- The round trip of the map form through JSON text: the context read back, compared. -/
def roundtripAnswer (c : SagaContext) : ContextM Json := do
  let map := Json.obj c.toMap
  match Json.parse map.render with
  | .error e => return serdeAnswer e.text
  | .ok (.obj ms) =>
    let now ← contextNow
    let id ← liftM drawId
    match SagaContext.ofMap ms now id with
    | .error e => return errorAnswer e
    | .ok back =>
      return Json.mkObj [("data", entriesAnswer back.data),
        ("same_data", .bool (back.data.beq c.data)),
        ("same_metadata", .bool (back.metadata == c.metadata)),
        ("same_map", .bool (Json.obj back.toMap == map))]
  | .ok _ => return serdeAnswer "not a map"

/-- Reads serialized metadata and describes it. -/
def metadataFromAnswer (v : Json) : Json :=
  match Metadata.read v with
  | .error e => serdeAnswer e.text
  | .ok m => Json.mkObj [
      ("timeout", Span.optionToJson m.timeout),
      ("retry_policy", match m.retryPolicy with
        | some p => policyAnswer p
        | none => .null),
      ("created_at", .str m.createdAt.writeNanos), ("updated_at", .str m.updatedAt.writeNanos),
      ("custom", entriesAnswer m.custom), ("reserialized", m.toJson)]

/-- Whether a text has the form of a UUID. -/
def isUuidText (s : String) : Bool :=
  let cs := s.toList
  cs.length == 36 && (cs.zip (List.range 36)).all fun (c, i) =>
    if i = 8 || i = 13 || i = 18 || i = 23 then c = '-'
    else c.isDigit || ('a' ≤ c && c ≤ 'f')

/-- Applies one operation and answers it. -/
def contextStep (op : Json) : ContextM Json := do
  let key := textOr op "key"
  let c ← get
  match textOr op "do" with
  | "set" =>
    let v ← liftReply (valueArg op)
    set (c.set key v (← contextNow)); return .str "ok"
  | "get" => return optionValueAnswer (c.get key)
  | "get_string" => return optionAnswer ((c.get key).bind Value.asString?)
  | "get_int" => return ((c.get key).bind Value.asInt?).elim .null Json.ofInt
  | "get_float" => return ((c.get key).bind Value.asFloat?).elim .null floatAnswer
  | "get_bool" => return ((c.get key).bind Value.asBool?).elim .null .bool
  | "get_string_list" =>
    return ((c.get key).bind Value.asStringList?).elim .null fun l => .arr (l.map .str)
  | "contains" => return .bool (c.contains key)
  | "remove" =>
    let (old, c') := c.remove key (← contextNow)
    set c'; return optionValueAnswer old
  | "data" => return entriesAnswer c.data
  | "correlation_id" => return .str c.correlationId
  | "set_timeout" =>
    let ms ← liftReply (optional op "ms" asNat?)
    set (c.setTimeout (ms.map Span.ofMillis) (← contextNow)); return .str "ok"
  | "timeout" => return Span.optionToJson c.metadata.timeout
  | "set_retry_policy" =>
    let p ← match field? op "policy" with
      | some p => some <$> liftReply (policyArg p)
      | none => pure none
    set (c.setRetryPolicy p (← contextNow)); return .str "ok"
  | "retry_policy" => return c.metadata.retryPolicy.elim .null policyAnswer
  | "set_custom" =>
    let v ← liftReply (valueArg op)
    set (c.setCustom key v (← contextNow)); return .str "ok"
  | "get_custom" => return optionValueAnswer (c.getCustom key)
  | "to_map" => return .obj c.toMap
  | "roundtrip" => roundtripAnswer c
  | "deep_clone_set" =>
    let v ← liftReply (valueArg op)
    let copy := c.set key v (← contextNow)
    return Json.mkObj [("clone", entriesAnswer copy.data), ("original", entriesAnswer c.data)]
  | "from_json" =>
    let v := Value.ofJson ((op.get? "value").getD .null)
    return Json.mkObj [("value", valueAnswer v), ("type_name", .str v.typeName),
      ("to_json", v.toJson)]
  | "set_from" =>
    let v ← liftReply (convertedArg (textOr op "as") ((op.get? "value").getD .null))
    set (c.set key v (← contextNow)); return valueAnswer v
  | "metadata" => return c.metadata.toJson
  | "metadata_from" => return metadataFromAnswer ((op.get? "value").getD .null)
  | "fresh" =>
    let a ← liftM drawId
    let b ← liftM drawId
    let fresh := SagaContext.withCorrelationId a (← contextNow)
    return Json.mkObj [("new_is_uuid", .bool (isUuidText a)),
      ("default_is_uuid", .bool (isUuidText b)), ("differ", .bool (a != b)),
      ("empty", .bool fresh.data.isEmpty), ("timeout", Span.optionToJson fresh.metadata.timeout)]
  | other => contextRefuse ("unknown context operation " ++ other)

/-- Applies the operations in order. -/
def contextSteps : List Json → ContextM (List Json)
  | [] => pure []
  | op :: ops => do
    let r ← contextStep op
    return r :: (← contextSteps ops)

/-- Builds the initial context. -/
def contextInit (init : Json) : ExceptT Json AmbientM (Outcome SagaContext) := do
  match init with
  | .null => return .ok (SagaContext.withCorrelationId "corr-1" (← readClock))
  | .obj _ =>
    if let some m := init.get? "from_map" then
      match m with
      | .obj ms => return SagaContext.ofMap ms (← readClock) (← drawId)
      | _ => throw (badInput "malformed from_map")
    let id := ((field? init "correlation_id").bind asString?).getD "corr-1"
    let mut c := SagaContext.withCorrelationId id (← readClock)
    if let some (.obj ms) := field? init "data" then
      for (k, v) in ms do
        c := c.set k (Value.ofJson v) (← readClock)
    if let some ms := field? init "timeout_ms" then
      match asNat? ms with
      | some n => c := c.setTimeout (some (Span.ofMillis n)) (← readClock)
      | none => throw (badInput "malformed timeout")
    if let some p := field? init "retry_policy" then
      match policyArg p with
      | .ok p => c := c.setRetryPolicy (some p) (← readClock)
      | .error j => throw j
    if let some (.obj ms) := field? init "custom" then
      for (k, v) in ms do
        c := c.setCustom k (Value.ofJson v) (← readClock)
    return .ok c
  | _ => throw (badInput "malformed context init")

/-- Answers a `context` request. -/
def contextOpAnswer (r : Json) : AmbientM Json := do
  let run : ExceptT Json AmbientM Json := do
    match ← contextInit ((r.get? "init").getD .null) with
    | .error e => return Json.mkObj [("init", errorAnswer e)]
    | .ok c =>
      let ops := ((field? r "ops").bind asList?).getD []
      let (results, _) ← (contextSteps ops).run c
      return Json.mkObj [("init", .str "ok"), ("results", .arr results)]
  match ← run.run with
  | .ok j => return j
  | .error j => return j

end Saga.Protocol
