import Saga.Engine.Orchestrator
import Saga.Protocol.Define
import Saga.Protocol.Context
import Saga.Protocol.Config

/-!
# Scenarios: what is set up and what is observed

A scenario runs a list of actions against one world: the registered definitions, a current
instance, an optional persistence (event store and snapshot store, with an orchestrator
over them), an optional bus and a command bus.

A persistence keeps its data in memory, in an event and snapshot store of a database (kept
here as the in-memory stores), or as the rows of a relational store. The relational store
serves the scenario's own saves, loads and status reads; runs of the engine keep saving
through the event store. Stores in a database run on the real clock, so their scenarios log
calls without times.

After every action the scenario reports what changed: the current instance's status, step,
history and context data; the calls of scripted actions since the last report; the new
entries of the recording log, the participants' log and the command bus (once they have
any); the new bus events (when a bus listens); and, with a persistence, how many sagas the
orchestrator runs and the stored data of the saga it looks at: its stream (its length and
the events appended since the last report), the reads the store served and its snapshot,
or with rows its saga row and entry rows.
-/

namespace Saga.Protocol

/-- Where a scenario's persistence keeps its data. -/
inductive Backend where
  /-- In-memory event and snapshot stores. -/
  | memory
  /-- An event and snapshot store in a database. -/
  | events
  /-- A relational store: one row per saga and one per history entry. -/
  | rows
  deriving DecidableEq, Inhabited

/-- The fixed parts of a scenario. -/
structure Scene where
  keeping : Option Persist.Settings
  bus : Bool
  backend : Backend := .memory
  deriving Inhabited

/-- The orchestrator of a scene with a persistence. -/
def Scene.orchestrator? (s : Scene) : Option Engine.Orchestrator :=
  s.keeping.map fun k => { keeping := k, bus := s.bus }

/-- What a scenario carries from one action to the next. -/
structure Cursor where
  /-- The current instance. -/
  current : Option Nat := none
  /-- The saga whose stream is reported. -/
  sagaId : String
  /-- The next script or guard number for definitions registered later. -/
  counter : Nat := 0
  seenCalls : Nat := 0
  seenRecording : Nat := 0
  seenParticipants : Nat := 0
  seenSent : Nat := 0
  seenPublished : Nat := 0
  seenStream : Nat := 0
  /-- The handles of runs started in the background and not yet waited for, oldest first. -/
  handles : List Nat := []
  deriving Inhabited

/-- The answer form of a history entry. -/
def entryAnswer (e : HistoryEntry) : Json := e.toJson

/-- The answer form of a logged call. -/
def callAnswer (c : Call) : Json :=
  Json.mkObj [("call", .str c.call), ("name", .str c.name), ("n", .ofNat c.number), ("t", .ofNat c.atMs)]

/-- The answer form of a logged call in a scene; on the real clock a call has no time. -/
def sceneCallAnswer (scene : Scene) (c : Call) : Json :=
  if scene.backend = .memory then callAnswer c
  else Json.mkObj [("call", .str c.call), ("name", .str c.name), ("n", .ofNat c.number)]

/-- The answer form of a sent command. -/
def envelopeAnswer (e : Envelope) : Json :=
  Json.mkObj [("type", .str e.commandType), ("payload", e.payload), ("correlation_id", .str e.correlationId)]

/-- The answer form of a lifecycle event. -/
def lifecycleAnswer (e : LifecycleEvent) : Json :=
  Json.mkObj [("type", .str e.kind.name), ("saga_id", .str e.sagaId),
    ("correlation_id", .str e.correlationId), ("definition", .str e.definitionName),
    ("step", optionAnswer e.step), ("error", optionAnswer e.error),
    ("retry_attempt", match e.retryAttempt with
      | some n => .ofNat n
      | none => .null),
    ("has_duration", .bool e.durationMs.isSome)]

/-- The answer form of an appended event. -/
def appendedAnswer (e : StoredEvent) : Json :=
  Json.mkObj [("v", .ofNat e.version), ("type", .str e.kind.name), ("meta", .obj e.fields)]

/-- The summary of a stored snapshot. -/
def snapshotSummary (s : Snapshot) : Json :=
  Json.mkObj [("definition_name", .str s.definitionName),
    ("last_saved_version", .ofNat s.lastSavedVersion),
    ("saved_history_count", .ofNat s.savedHistoryCount),
    ("has_state", .bool s.state.isSome), ("state_version", .ofNat s.stateVersion),
    ("state_completed_count", .ofNat s.stateCompletedCount),
    ("has_checksum", .bool s.checksum.isSome), ("verify_integrity", .bool s.verifyIntegrity),
    ("verified", .bool s.verifiedState.isSome)]

/-- The answer form of a saga row; a context that reads as JSON is shown as read. -/
def sagaRowAnswer (r : SagaRow) : Json :=
  Json.mkObj [("id", .str r.id), ("definition_name", .str r.definitionName),
    ("status", .str r.status), ("current_step", .ofInt r.currentStep),
    ("context", match Json.parse r.context with
      | .ok j => j
      | .error _ => .str r.context),
    ("created_at", .str r.createdAt), ("started_at", .ofOption r.startedAt),
    ("completed_at", .ofOption r.completedAt), ("updated_at", .str r.updatedAt)]

/-- The answer form of a history entry's row. -/
def stepRowAnswer (r : StepRow) : Json :=
  Json.mkObj [("id", .str r.id), ("position", .ofInt r.position), ("step_name", .str r.stepName),
    ("status", .str r.status), ("started_at", .str r.startedAt),
    ("completed_at", .ofOption r.completedAt), ("error", .ofOption r.error),
    ("retry_attempt", .ofInt r.retryAttempt)]

/-- An absent text sorts before every present one, as a database's `NULL` does. -/
def compareNullsFirst : Option String → Option String → Ordering
  | none, none => .eq
  | none, some _ => .lt
  | some _, none => .gt
  | some a, some b => compare a b

/-- The order in which a scenario reports entry rows: position, step name, status, retry
attempt, error, ended rows before unended ones, start. -/
def stepRowOrder (a b : StepRow) : Ordering :=
  (compare a.position b.position).then <| (compare a.stepName b.stepName).then <|
    (compare a.status b.status).then <| (compare a.retryAttempt b.retryAttempt).then <|
    (compareNullsFirst a.error b.error).then <|
    (compare a.completedAt.isNone b.completedAt.isNone).then (compare a.startedAt b.startedAt)

/-- The reported rows of saga `id`: its saga row and its entry rows in report order. -/
def rowsPart (t : Tables) (id : String) : List (String × Json) :=
  let steps := (t.steps.filter (·.sagaId == id)).mergeSort fun a b => stepRowOrder a b != .gt
  [("row", match t.sagaRow? id with
     | some r => sagaRowAnswer r
     | none => .null),
   ("step_rows", .arr (steps.map stepRowAnswer))]

/-- The report after an action, and the cursor moved past what it reported. -/
def observe (scene : Scene) (cur : Cursor) (name : String) (result : Json) (w : World) :
    Json × Cursor × World :=
  let instancePart := match cur.current with
    | some i =>
      let inst := w.inst i
      [("status", .str inst.status.name), ("current_step", .ofNat inst.currentStep),
       ("history", .arr (inst.history.map entryAnswer)), ("data", entriesAnswer inst.context.data)]
    | none => []
  let fresh {α : Type} (l : List α) (seen : Nat) (f : α → Json) : Json := .arr ((l.drop seen).map f)
  let shown {α : Type} (key : String) (l : List α) (seen : Nat) (f : α → Json) : List (String × Json) :=
    if l.isEmpty then [] else [(key, fresh l seen f)]
  let busPart := if scene.bus then [("bus", fresh w.published cur.seenPublished lifecycleAnswer)] else []
  let stream := w.events.stream cur.sagaId
  let storePart := match scene.keeping with
    | some _ =>
      let reads := Json.mkObj [("events", .ofNat w.events.eventsRead), ("full", .ofNat w.events.fullReads)]
      (if scene.backend = .rows then rowsPart w.tables cur.sagaId else
        [("stream_len", .ofNat stream.length),
         ("appended", .arr ((stream.filter (·.version > cur.seenStream)).map appendedAnswer)),
         ("snapshot", match w.snapshots.get? cur.sagaId with
           | some s => snapshotSummary s
           | none => .null)] ++
        -- a database serves its reads uncounted
        if scene.backend = .memory then [("reads", reads)] else []) ++
      [("running", .ofNat w.running.length)]
    | none => []
  let report := Json.mkObj ([("do", .str name), ("result", result)] ++ instancePart ++
    [("log", fresh w.calls cur.seenCalls (sceneCallAnswer scene))] ++
    shown "recording" w.recording cur.seenRecording .str ++
    shown "participants" w.participantCalls cur.seenParticipants .str ++
    shown "commands" w.sent cur.seenSent envelopeAnswer ++ busPart ++ storePart)
  let cur := { cur with
    seenCalls := w.calls.length, seenRecording := w.recording.length
    seenParticipants := w.participantCalls.length, seenSent := w.sent.length
    seenPublished := w.published.length, seenStream := stream.length }
  (report, cur, { w with events := w.events.resetCounters })

/-- A preloaded or raw event `{"type", "metadata", "timestamp"?, "stream"?}`; the stream
defaults to `stream` and the timestamp to the wall clock. -/
def eventArg (stream : String) (j : Json) : StateT World Reply StoredEvent := do
  let kind ← match (field? j "type").bind asString? with
    | some t => match EventKind.parse t with
      | .ok k => pure k
      | .error m => throw (badInput m)
    | none => throw (badInput "missing event type")
  let fields := match field? j "metadata" with
    | some (.obj ms) => Json.ofMembers ms
    | _ => []
  let id ← modifyGet World.drawId
  let now ← modifyGet World.readWall
  let timestamp ← match (field? j "timestamp").bind asString? with
    | some t => match Instant.parseLoose t with
      | .ok i => pure i
      | .error _ => throw (badInput "malformed timestamp")
    | none => pure now
  return { id, stream := ((field? j "stream").bind asString?).getD stream, kind, fields, timestamp }

/-- The backend a persistence names under `backend`, in memory by default. -/
def backendArg (j : Json) : Reply Backend :=
  match textOr j "backend" with
  | "" | "memory" => pure .memory
  | "sqlite_events" => pure .events
  | "sqlite_rows" => pure .rows
  | _ => refuse "unknown backend"

/-- The persistence settings `{"snapshot_frequency", "checksum", "codec"}`. -/
def keepingArg (j : Json) : Reply Persist.Settings := do
  let freq ← optional j "snapshot_frequency" asNat?
  let sum ← optional j "checksum" asBool?
  let codec ← match textOr j "codec" with
    | "" | "json" => pure Persist.CodecMode.standard
    | "fail_encode" => pure .refuseEncode
    | "fail_decode" => pure .refuseDecode
    | _ => refuse "unknown codec"
  return { snapshots := ⟨freq.getD 10, sum.getD true⟩, codec }

end Saga.Protocol
