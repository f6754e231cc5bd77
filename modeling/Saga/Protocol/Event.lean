import Saga.Protocol.Basic
import Saga.Protocol.Normalize
import Saga.Event.Record
import Saga.Event.Lifecycle
import Saga.Ambient

/-!
# Questions about events

An `event` request asks about the two families of events, each present field adding one
part to the answer: the kinds of both families with their names and whether they are about
a step; the reading of stored kinds' names; fresh and nil identifiers; a stored event built
from metadata, times and a timestamp, and the values its lenient readers find; the nine-digit
time text; a lifecycle event built and written, and one read from text and written again.
-/

namespace Saga.Protocol

/-- The text of the nil identifier. -/
def nilUuid : String := "00000000-0000-0000-0000-000000000000"

/-- Whether a text is exactly one identifier `8-4-4-4-12`. -/
def isUuid (s : String) : Bool := s.length == 36 && startsWithUuid s.toList

/-- Whether a text is an identifier of version 4. -/
def isUuidV4 (s : String) : Bool := isUuid s && s.toList[14]? == some '4'

/-- The answer entry of a kind: its name, display text, whether it is about a step, and
serialized form. -/
def kindEntry (name : String) (isStep : Bool) : Json :=
  Json.mkObj [("as_str", .str name), ("display", .str name), ("is_step_event", .bool isStep),
    ("serde", .str name)]

/-- The reading of a stored kind's name. -/
def kindParseAnswer (s : String) : Json :=
  match EventKind.parse s with
  | .ok k => Json.mkObj [("ok", .str k.name)]
  | .error m => Json.mkObj [("error", .str m)]

/-- A time argument, read as RFC 3339 with any offset. -/
def instantArg (what : String) (j : Json) : Reply Instant :=
  match asString? j with
  | some t => match Instant.parseLoose t with
    | .ok i => pure i
    | .error _ => refuse ("malformed " ++ what)
  | none => refuse ("malformed " ++ what)

/-- The members of an object argument, or the pairs `[k, v]` of an array argument, in order. -/
def pairsArg (j : Option Json) : List (String × Json) :=
  match j with
  | some (.obj ms) => ms
  | some (.arr xs) => xs.filterMap fun x => match x with
    | .arr [.str k, v] => some (k, v)
    | _ => none
  | _ => []

/-- What fresh and nil identifiers show. -/
def idsAnswer : AmbientM Json := do
  let a ← drawId
  let b ← drawId
  let c ← drawId
  let s ← drawId
  let s' ← drawId
  return Json.mkObj [("new_is_uuid", .bool (isUuid a)), ("new_differs", .bool (a != b)),
    ("default_is_uuid", .bool (isUuid c)), ("nil", .str nilUuid),
    ("nil_hex", .str (String.ofList (nilUuid.toList.filter (· != '-')))),
    ("from_string", .str "s-1"), ("subscription_default_differs", .bool (s != s')),
    ("subscription_nil", .str nilUuid)]

/-- One reading of a stored event's metadata `{"get", "key"}`. -/
def queryAnswer (e : StoredEvent) (q : Json) : Reply Json := do
  let key := textOr q "key"
  match textOr q "get" with
  | "value" => return (e.get? key).getD .null
  | "str" => return Json.ofOption (e.getStr? key)
  | "u64" => return ((e.getU64? key).map Json.ofNat).getD .null
  | "time" => return ((e.getTime? key).map fun t => Json.str t.writeNanos).getD .null
  | _ => refuse "unknown query"

/-- Builds a stored event: values, optional values and times in that order, then the
timestamp (the wall clock when absent). -/
def builtEventAnswer (b : Json) : ExceptT Json AmbientM Json := do
  let kindName := textOr b "type"
  let kind ← match EventKind.parse kindName with
    | .ok k => pure k
    | .error m => throw (Json.mkObj [("error", .str "parse"), ("message", .str m)])
  let id ← drawId
  let stream := ((field? b "stream").bind asString?).getD "s-1"
  let e : StoredEvent := { id, stream, kind, timestamp := default }
  let e := (pairsArg (field? b "with")).foldl (fun e (k, v) => e.put k v) e
  let e := (pairsArg (b.get? "with_opt")).foldl (fun e (k, v) => e.putSome k (match v with
    | .null => none
    | v => some v)) e
  let mut timed := e
  for (k, t) in pairsArg (field? b "with_time") do
    timed := timed.putTime k (← liftExcept (instantArg "time" t))
  let timestamp ← match field? b "timestamp" with
    | some t => liftExcept (instantArg "timestamp" t)
    | none => readClock
  let e := { timed with timestamp }
  let queries ← liftExcept ((((field? b "queries").bind asList?).getD []).mapM (queryAnswer e))
  return Json.mkObj [("stream", .str e.stream), ("version", .ofNat e.version),
    ("type", .str e.kind.name), ("meta", .obj e.fields), ("timestamp", .str e.timestamp.writeNanos),
    ("event_id_is_v4", .bool (isUuidV4 e.id)), ("queries", .arr queries)]
where
  liftExcept {α : Type} (r : Reply α) : ExceptT Json AmbientM α := ExceptT.mk (pure r)

/-- Builds a lifecycle event now, writes it, and says whether reading the text back gives
the same record. -/
def lifecycleEventAnswer (a : Json) : ExceptT Json AmbientM Json := do
  let kind ← match LifecycleKind.shape.readValue ((a.get? "type").getD .null) with
    | .ok (.str n) => pure ((LifecycleKind.ofName? n).getD .sagaStarted)
    | .ok _ => throw (badInput "malformed type")
    | .error e => throw (serdeAnswer e.text)
  let text (k d : String) : String := ((field? a k).bind asString?).getD d
  let now ← readClock
  let e : LifecycleEvent :=
    { kind, sagaId := text "saga_id" "s-1", correlationId := text "correlation_id" "corr-1"
      definitionName := text "definition_name" "order", step := (field? a "step").bind asString?
      durationMs := ((field? a "duration_us").bind asNat?).map (· / 1000)
      error := (field? a "error").bind asString?
      retryAttempt := (field? a "retry_attempt").bind asNat?, occurredAt := now }
  let written := e.toJson
  let again := (LifecycleEvent.shape.readText written.render).toOption.map fun j =>
    (LifecycleEvent.ofShape j).toJson
  return match written with
    | .obj ms => Json.mkObj (ms ++ [("roundtrip_equal", .bool (again == some written))])
    | j => j

/-- Reads a lifecycle event from text and writes it again. -/
def lifecycleTextAnswer (text : String) : Json :=
  match LifecycleEvent.shape.readText text with
  | .ok j => (LifecycleEvent.ofShape j).toJson
  | .error e => serdeAnswer e.text

/-- Answers an `event` request. -/
def eventAnswer (r : Json) : AmbientM Json := do
  let go : ExceptT Json AmbientM (List (String × Json)) := do
    let mut parts : List (String × Json) := []
    if ((field? r "types").bind asBool?).getD false then
      parts := parts ++ [("event_types", .arr (EventKind.all.map fun k => kindEntry k.name k.isStepEvent)),
        ("saga_event_types", .arr (LifecycleKind.all.map fun k => kindEntry k.name k.isStepEvent))]
    if let some ps := (field? r "parse").bind asList? then
      parts := parts ++ [("parse", .arr (ps.map fun p => kindParseAnswer ((asString? p).getD "")))]
    if ((field? r "saga_ids").bind asBool?).getD false then
      parts := parts ++ [("saga_ids", ← idsAnswer)]
    if let some b := field? r "build" then
      parts := parts ++ [("event", ← builtEventAnswer b)]
    if let some t := field? r "format_time" then
      let t ← ExceptT.mk (pure (instantArg "time" t))
      parts := parts ++ [("format_time", .str t.writeNanos)]
    if let some a := field? r "saga_event" then
      parts := parts ++ [("saga_event", ← lifecycleEventAnswer a)]
    if let some t := (field? r "saga_event_json").bind asString? then
      parts := parts ++ [("saga_event_parsed", lifecycleTextAnswer t)]
    return parts
  match ← go.run with
  | .ok parts => return Json.mkObj parts
  | .error j => return j

end Saga.Protocol
