import Saga.Protocol.Scene

/-!
# Running a scenario

A `saga` request sets up a scene (definitions, persistence, bus, command failures, a current
instance) and runs its actions one after another on one virtual clock, reporting after each.
All actions run inside one main process, so detached tasks (children of a parallel step
whose parent gave up, runs started in the background) keep running across actions.

An action with `cancel_after_ms` runs beside a timer that cancels it after that many
virtual milliseconds, and ends only when both have ended. The two take turns at going
first, the run at the start, so a timer of no time lets the run go as far as it can before
the cancellation lands. `concurrent` runs its branches side by side, the first asked first,
each after its own delay.
-/

namespace Saga.Protocol

open Saga.Act Saga.Engine

/-- Processes of a scenario that stop at a malformed request. -/
abbrev Drive := ExceptT Json Act

/-- Stops with a malformed-request answer. -/
def stop (message : String) : Drive α := throw (badInput message)

/-- Lifts a reply. -/
def drive (r : Reply α) : Drive α := ExceptT.mk (pure r)

/-- Lifts a process. -/
def perform (p : Act α) : Drive α := ExceptT.lift p

/-- The answer form of an outcome without a value. -/
def doneAnswer : Outcome Unit → Json
  | .ok () => .str "ok"
  | .error e => errorAnswer e

/-- The current instance. -/
def currentOf (cur : Cursor) : Drive Nat :=
  match cur.current with
  | some i => pure i
  | none => stop "no current instance"

/-- The persistence of the scene. -/
def keepingOf (scene : Scene) : Drive Persist.Settings :=
  match scene.keeping with
  | some k => pure k
  | none => stop "no persistence"

/-- The orchestrator of the scene. -/
def orchestratorOf (scene : Scene) : Drive Orchestrator :=
  match scene.orchestrator? with
  | some o => pure o
  | none => stop "no orchestrator"

/-- Stops unless the scene keeps its sagas as rows. -/
def rowsOf (scene : Scene) : Drive Unit :=
  if scene.backend = .rows then pure () else stop "no relational store"

/-- Saves a state as rows of the relational store, stamped with the wall clock. -/
def saveRows (st : SagaState) : Act Unit := do
  let now ← wall
  Proc.modify fun w => { w with tables := w.tables.save st now }

/-- Loads saga `id` from the relational store under the world's registry. A stored context
without correlation id gets a fresh one, and one without metadata gets metadata of now. -/
def loadRows (id : String) : Act (Outcome Instance) := do
  let t ← Proc.read (·.tables)
  match t.state? id with
  | .error e => pure (.error e)
  | .ok st =>
    let registry ← Proc.read (·.registry)
    let now ← wall
    let fresh ← if (st.context.lookup "correlation_id").isSome then pure "" else freshId
    pure (t.load registry id now fresh)

/-- Loads saga `id` from the scene's persistence. -/
def loadSaga (scene : Scene) (k : Persist.Settings) (id : String) : Act (Outcome Instance) :=
  if scene.backend = .rows then loadRows id else state (Persist.load k id)

/-- A runtime with a fresh token. -/
def freshRuntime (scene : Scene) : Act Runtime := do
  let tok ← rootToken
  pure { keeping := scene.keeping, bus := scene.bus, token := tok }

/-- The saga an action names, by default the one the scenario looks at. -/
def idArg (cur : Cursor) (a : Json) : String := ((field? a "id").bind asString?).getD cur.sagaId

/-- The context an action gives under `context`, built on the world's clock. -/
def contextArg (a : Json) : Drive (Outcome SagaContext) := do
  let amb ← perform (Proc.read (·.ambient))
  let (c, amb) := ((contextInit ((field? a "context").getD .null)).run).run amb
  perform (Proc.modify fun w => { w with ambient := amb })
  drive c

/-- The failure of a background run that halted instead of ending. -/
def haltedRun (id : String) (reason : Option String) : Error :=
  let text := "task <id> panicked with message \"" ++ reason.getD "" ++ "\""
  (Error.withSource ("saga task failed: " ++ text) .unknown text).withContext "saga_id" id

/-- Whether `t` is a reading of the world's wall clock. -/
def isWallTime (w : World) (t : Instant) : Bool := w.ambient.start ≤ t && t ≤ w.ambient.wall

/-- The answer form of a history entry's key and duration; a duration between wall clock
readings is `<dur>`. -/
def keyedEntryAnswer (w : World) (e : HistoryEntry) : Json :=
  let duration := match e.completedAt with
    | none => Json.null
    | some c => match Instant.spanBetween e.startedAt c with
      | none => .null
      | some d => if isWallTime w e.startedAt || isWallTime w c then .str "<dur>" else d.toJson
  Json.mkObj [("key", .arr [.str e.stepName, e.startedAt.toJson]), ("duration", duration)]

/-- What the current instance's accessors show, with the debug texts of the instance, its
definition, a fresh runtime and the orchestrator. -/
def inspectAnswer (scene : Scene) (w : World) (inst : Instance) : Json :=
  let rt : Runtime := { keeping := scene.keeping, bus := scene.bus, token := 0 }
  let orchestrator := match scene.orchestrator? with
    | some o =>
      [("orchestrator_debug", Json.str (Debug.record "SagaOrchestrator"
        [("definitions", Debug.list (w.registry.names.map Debug.quote)),
         ("running", toString w.running.length), ("event_bus", toString o.bus)]))]
    | none => []
  Json.mkObj ([("id", .str inst.id), ("definition", .str inst.definition.name),
    ("created_at", inst.createdAt.toJson), ("started_at", Instant.optionToJson inst.startedAt),
    ("completed_at", Instant.optionToJson inst.completedAt), ("history_len", .ofNat inst.history.length),
    ("entries", .arr (inst.history.map (keyedEntryAnswer w))), ("debug", .str inst.debugText),
    ("definition_debug", .str inst.definition.debugText), ("runtime_debug", .str (rt.debugText false))] ++
    orchestrator)

/-- Runs `p` beside a timer that runs `cancelling` after `ms` virtual milliseconds, and waits
for both. The two take turns at going first, `p` at the start: so a timer of no time lets `p`
run until it first waits, and a timer that ends with a wait of `p` goes first or second by
the number of times the pair was woken before. -/
def withTimer (ms : Option Nat) (cancelling : Act β) (p : Act α) : Act (Option β × α) :=
  match ms with
  | none => do
    let a ← p
    pure (none, a)
  | some ms => do
    let (a, b) ← Proc.fair p (do sleepFor (Span.ofMillis ms); cancelling) false
    pure (some b, a)

/-- A switch of an action: `on`, true when absent. -/
def switchArg (a : Json) : Bool := ((field? a "on").bind asBool?).getD true

/-- Changes the snapshot of saga `id`, when there is one. -/
def changeSnapshot (id : String) (f : Snapshot → Option Snapshot) : Act Bool :=
  Proc.update fun w =>
    match w.snapshots.get? id with
    | some s => match f s with
      | some s => (true, { w with snapshots := w.snapshots.put s })
      | none => (false, w)
    | none => (false, w)

/-- Flips every bit of byte `k` of a snapshot's state. -/
def corruptByte (k : Nat) (s : Snapshot) : Option Snapshot :=
  match s.state with
  | some data =>
    if k < data.size then some { s with state := some (data.set! k (data.get! k ^^^ 0xff)) } else none
  | none => none

/-- A hand-built snapshot of saga `id` from an action's fields. -/
def snapshotArg (id : String) (a : Json) : Reply Snapshot := do
  let s := (Snapshot.new id (textOr a "definition_name")).setCheckpoint
    (((field? a "last_saved_version").bind asNat?).getD 0) (((field? a "saved_history_count").bind asNat?).getD 0)
  let blob ← match field? a "state", (field? a "state_text").bind asString? with
    | some st, _ => match SagaState.ofValue st with
      | .ok st => pure (some (Codec.encode st))
      | .error e => refuse e.text
    | none, some text =>
      pure (some (ByteArray.mk #[(((field? a "state_version_byte").bind asNat?).getD 1).toUInt8] ++ text.toUTF8))
    | none, none => pure none
  match blob with
  | none => return s
  | some data =>
    let version := ((field? a "state_version").bind asNat?).getD 0
    let completed := ((field? a "state_completed_count").bind asNat?).getD 0
    match textOr a "checksum" with
    | "none" => return s.setState data version completed false
    | "bad" => return { s.setState data version completed true with checksum := some (List.replicate 32 0) }
    | _ => return s.setState data version completed true

/-- The serialized form of a stored event. -/
def storedEventAnswer (e : StoredEvent) : Json :=
  Json.mkObj [("event_id", .str e.id), ("stream_id", .str e.stream), ("version", .ofNat e.version),
    ("event_type", .str e.kind.name), ("metadata", .obj e.fields), ("timestamp", e.timestamp.toJson)]

/-- An event kind named by an action. -/
def kindArg' (a : Json) : Drive EventKind :=
  match EventKind.parse (textOr a "type") with
  | .ok k => pure k
  | .error m => stop m

/-- Runs an event store operation. -/
def onStore (f : EventLog → α × EventLog) : Act α :=
  Proc.update fun w => let (x, l) := f w.events; (x, { w with events := l })

/-- Runs one action other than `concurrent`. -/
def basicAction (scene : Scene) (cur : Cursor) (a : Json) : Drive (Json × Cursor) := do
  let name := textOr a "do"
  let ms := (field? a "cancel_after_ms").bind asNat?
  match name with
  | "execute" | "resume" =>
    let i ← currentOf cur
    let rt ← perform (freshRuntime scene)
    let run := (if name == "execute" then executeInstance rt i else resumeInstance rt i).run
    let (_, r) ← perform (withTimer ms (cancel rt.token) run)
    return (doneAnswer r, cur)
  | "compensate" =>
    let i ← currentOf cur
    let rt ← perform (freshRuntime scene)
    let r ← perform (compensateInstance rt i).run
    return (doneAnswer r, cur)
  | "orch_execute" | "orch_resume" =>
    let o ← orchestratorOf scene
    let id := idArg cur a
    let i ← if name == "orch_execute" then currentOf cur else pure 0
    let run := if name == "orch_execute" then (o.execute i).run else (o.resume id).run
    let cancelling : Act (Bool × Outcome Unit) := do
      let was ← Orchestrator.isRunning id
      let c ← (Orchestrator.cancel id).run
      pure (was, c)
    let (c, r) ← perform (withTimer ms cancelling run)
    match c with
    | none => return (doneAnswer r, cur)
    | some (was, c) =>
      return (Json.mkObj [("run", doneAnswer r), ("cancel", doneAnswer c), ("was_running", .bool was)], cur)
  | "orch_compensate" =>
    let o ← orchestratorOf scene
    let i ← currentOf cur
    return (doneAnswer (← perform (o.compensate i).run), cur)
  | "orch_status" | "status" =>
    let _ ← keepingOf scene
    let r ← if scene.backend = .rows then perform (Proc.read fun w => w.tables.status (idArg cur a))
      else perform (Orchestrator.status (idArg cur a)).run
    return (outcomeAnswer (fun s => .str s.name) r, cur)
  | "orch_cancel" =>
    let _ ← orchestratorOf scene
    return (doneAnswer (← perform (Orchestrator.cancel (idArg cur a)).run), cur)
  | "orch_is_running" =>
    return (.bool (← perform (Orchestrator.isRunning (idArg cur a))), cur)
  | "save" =>
    let k ← keepingOf scene
    let i ← currentOf cur
    let st := (← perform (Act.inst i)).toState
    if scene.backend = .rows then
      perform (saveRows st)
      return (.str "ok", cur)
    return (doneAnswer (← perform (state (Persist.save k st))), cur)
  | "load" =>
    let k ← keepingOf scene
    match ← perform (loadSaga scene k (idArg cur a)) with
    | .error e => return (errorAnswer e, cur)
    | .ok inst =>
      let i ← perform (Proc.update (·.addInst inst))
      return (Json.mkObj [("loaded", inst.toState.toJson)], { cur with current := some i })
  | "load_unregistered" =>
    let k ← keepingOf scene
    let saved ← perform (Proc.read (·.registry))
    perform (Proc.modify fun w => { w with registry := {} })
    let r ← perform (loadSaga scene k (idArg cur a))
    perform (Proc.modify fun w => { w with registry := saved })
    return (outcomeAnswer (fun inst => Json.mkObj [("loaded", inst.toState.toJson)]) r, cur)
  | "delete" =>
    rowsOf scene
    let r ← perform (Proc.update fun w =>
      let (b, t) := w.tables.delete (idArg cur a)
      (b, { w with tables := t }))
    return (.bool r, cur)
  | "list_by_status" =>
    rowsOf scene
    match SagaStatus.parse (textOr a "status") with
    | .error e => return (errorAnswer e, cur)
    | .ok s =>
      let ids ← perform (Proc.read fun w => w.tables.listByStatus s)
      return (.arr (ids.map .str), cur)
  | "migrate" =>
    -- the tables are made when the store opens, so making them again changes nothing
    if scene.backend = .memory then stop "no database"
    return (.str "ok", cur)
  | "from_state" =>
    match SagaState.ofValue ((field? a "state").getD .null) with
    | .error e => return (serdeAnswer e.text, cur)
    | .ok st =>
      let defName := ((field? a "definition").bind asString?).getD st.definitionName
      match ← perform (Proc.read fun w => w.registry.get? defName) with
      | none => return (errorAnswer (Error.definitionNotFound defName), cur)
      | some d =>
        let now ← perform wall
        let fresh ← if (st.context.lookup "correlation_id").isSome then pure "" else perform freshId
        match Instance.fromState st d now fresh with
        | .error e => return (errorAnswer e, cur)
        | .ok inst =>
          let i ← perform (Proc.update (·.addInst inst))
          return (.str "ok", { cur with current := some i })
  | "new_instance" =>
    let defName := textOr a "definition"
    match ← perform (Proc.read fun w => w.registry.get? defName) with
    | none => return (errorAnswer (Error.definitionNotFound defName), cur)
    | some d =>
      match ← contextArg a with
      | .error e => return (errorAnswer e, cur)
      | .ok ctx =>
        let now ← perform wall
        let inst := Instance.create (idArg cur a) d ctx now
        let i ← perform (Proc.update (·.addInst inst))
        return (.str "ok", { cur with current := some i })
  | "to_state" =>
    let i ← currentOf cur
    return ((← perform (Act.inst i)).toState.toJson, cur)
  | "ctx_set" =>
    let i ← currentOf cur
    let v ← drive (valueArg a)
    perform (setValue i (textOr a "key") v)
    return (.str "ok", cur)
  | "ctx_remove" =>
    let i ← currentOf cur
    let old := (← perform (context i)).get (textOr a "key")
    perform (removeValue i (textOr a "key"))
    return (optionValueAnswer old, cur)
  | "ctx_timeout" =>
    let i ← currentOf cur
    let t := ((field? a "ms").bind asNat?).map Span.ofMillis
    perform (changeContext i fun c now => c.setTimeout t now)
    return (.str "ok", cur)
  | "ctx_retry_policy" =>
    let i ← currentOf cur
    let p ← match field? a "policy" with
      | some p => some <$> drive (policyArg p)
      | none => pure none
    perform (changeContext i fun c now => c.setRetryPolicy p now)
    return (.str "ok", cur)
  | "register" =>
    let ((d, _), counter) ← drive ((definitionArg ((field? a "definition").getD .null)).run cur.counter)
    let cur := { cur with counter }
    match d with
    | .error e => return (errorAnswer e, cur)
    | .ok d =>
      perform (Proc.modify fun w => { w with registry := w.registry.register d })
      return (.str "ok", cur)
  | "clear_snapshots" =>
    perform (Proc.modify fun w => { w with snapshots := w.snapshots.clear })
    return (.str "ok", cur)
  | "remove_snapshot" =>
    let r ← perform (Proc.update fun w =>
      let (b, s) := w.snapshots.remove (idArg cur a)
      (b, { w with snapshots := s }))
    return (.bool r, cur)
  | "corrupt_snapshot" =>
    let k := ((field? a "byte").bind asNat?).getD 1
    return (.bool (← perform (changeSnapshot (idArg cur a) (corruptByte k))), cur)
  | "drop_checksum" =>
    let r ← perform (changeSnapshot (idArg cur a) fun s =>
      if s.checksum.isSome then some { s with checksum := none } else none)
    return (.bool r, cur)
  | "put_snapshot" =>
    let s ← drive (snapshotArg (idArg cur a) a)
    perform (Proc.modify fun w => { w with snapshots := w.snapshots.put s })
    return (.str "ok", cur)
  | "save_snapshot" =>
    let s ← drive (snapshotArg (idArg cur a) a)
    let r ← perform (Proc.update fun w =>
      let (r, shelf) := w.snapshots.save s
      (r, { w with snapshots := shelf }))
    return (match r with
      | .ok () => .str "ok"
      | .error f => errorAnswer (Error.ofSnapshot f), cur)
  | "get_snapshot" =>
    let s ← perform (Proc.read fun w => w.snapshots.get? (idArg cur a))
    return ((s.map snapshotSummary).getD .null, cur)
  | "strip" =>
    let k ← kindArg' a
    perform (Proc.modify fun w => { w with events := w.events.strip cur.sagaId k })
    return (.str "ok", cur)
  | "truncate" =>
    let len := ((field? a "len").bind asNat?).getD 0
    perform (Proc.modify fun w => { w with events := w.events.truncate cur.sagaId len })
    return (.str "ok", cur)
  | "fail_reads" =>
    perform (Proc.modify fun w => { w with events := { w.events with failReads := switchArg a } })
    return (.str "ok", cur)
  | "fail_snapshot_saves" =>
    perform (Proc.modify fun w => { w with snapshots := { w.snapshots with failSaves := switchArg a } })
    return (.str "ok", cur)
  | "bus_fail" =>
    perform (Proc.modify fun w => { w with busFails := switchArg a })
    return (.str "ok", cur)
  | "command_fail" =>
    let ty := textOr a "type"
    let m := textOr a "message"
    perform (Proc.modify fun w =>
      { w with commandFailures := (ty, m) :: w.commandFailures.filter (·.1 != ty) })
    return (.str "ok", cur)
  | "command_ok" =>
    let ty := textOr a "type"
    perform (Proc.modify fun w => { w with commandFailures := w.commandFailures.filter (·.1 != ty) })
    return (.str "ok", cur)
  | "append_raw" =>
    let expected := ((field? a "expected_version").bind asNat?).getD 0
    let items := ((field? a "events").bind asList?).getD []
    let w ← perform (Proc.read id)
    let (events, w) ← drive ((items.mapM (eventArg cur.sagaId)).run w)
    perform (Proc.modify fun _ => w)
    let r ← perform (onStore (·.append cur.sagaId expected events))
    return (match r with
      | .ok v => Json.mkObj [("version", .ofNat v)]
      | .error f => errorAnswer (Error.ofStore f), cur)
  | "read" =>
    let start := ((field? a "from_version").bind asNat?).getD 0
    let r ← perform (onStore (·.getEvents cur.sagaId start))
    return (match r with
      | .ok es => .arr (es.map storedEventAnswer)
      | .error f => errorAnswer (Error.ofStore f), cur)
  | "last_of_type" =>
    let k ← kindArg' a
    let r ← perform (onStore (·.lastOfKind cur.sagaId k))
    return (match r with
      | .ok e => (e.map storedEventAnswer).getD .null
      | .error f => errorAnswer (Error.ofStore f), cur)
  | "current_version" =>
    return (.ofNat (← perform (Proc.read fun w => w.events.currentVersion (idArg cur a))), cur)
  | "by_type" =>
    let k ← kindArg' a
    let since ← match (field? a "since").bind asString? with
      | some t => match Instant.parseLoose t with
        | .ok i => pure i
        | .error _ => stop "malformed since"
      | none => pure (Instant.ofCivil 1970 1 1 0 0 0 0)
    let r ← perform (onStore (·.getEventsByKind k since))
    return (match r with
      | .ok es => .arr (es.map storedEventAnswer)
      | .error f => errorAnswer (Error.ofStore f), cur)
  | "orch_start" =>
    let o ← orchestratorOf scene
    let names ← perform (Proc.read (·.registry.names))
    let name := ((field? a "definition").bind asString?).getD (names.head?.getD "")
    match ← contextArg a with
    | .error e => return (errorAnswer e, cur)
    | .ok ctx =>
      match ← perform (Orchestrator.createInstance name ctx).run with
      | .error e => return (errorAnswer e, cur)
      | .ok i =>
        let id := (← perform (Act.inst i)).id
        let cur := { cur with current := some i, sagaId := id, seenStream := 0 }
        match ← perform (o.start i).run with
        | .error e => return (errorAnswer e, cur)
        | .ok k =>
          let finished := (← perform (Proc.read (·.handle k))).ended
          let running ← perform (Orchestrator.isRunning id)
          return (Json.mkObj [("id", .str id), ("same_instance", .bool true),
            ("is_finished", .bool finished), ("running", .bool running)],
            { cur with handles := cur.handles ++ [k] })
  | "orch_wait" =>
    match cur.handles with
    | [] => stop "no background run to wait for"
    | k :: rest =>
      let before := (← perform (Proc.read (·.handle k))).ended
      perform (Proc.await fun w => (w.handle k).ended)
      let h ← perform (Proc.read (·.handle k))
      let result := match h.result with
        | some r => doneAnswer r
        | none => errorAnswer (haltedRun h.sagaId h.haltedWith)
      return (Json.mkObj [("finished_before", .bool before), ("result", result)], { cur with handles := rest })
  | "orch_create" =>
    let _ ← orchestratorOf scene
    match ← contextArg a with
    | .error e => return (errorAnswer e, cur)
    | .ok ctx =>
      match ← perform (Orchestrator.createInstance (textOr a "definition") ctx).run with
      | .error e => return (errorAnswer e, cur)
      | .ok i =>
        let inst ← perform (Act.inst i)
        return (Json.mkObj [("id", .str inst.id), ("status", .str inst.status.name)],
          { cur with current := some i, sagaId := inst.id, seenStream := 0 })
  | "orch_register" =>
    let _ ← orchestratorOf scene
    let ((d, _), counter) ← drive ((definitionArg ((field? a "definition").getD .null)).run cur.counter)
    let cur := { cur with counter }
    match d with
    | .error e => return (errorAnswer e, cur)
    | .ok d =>
      perform (Proc.modify fun w => { w with registry := w.registry.register d })
      return (Json.mkObj [("name", .str d.name), ("same_registry", .bool true)], cur)
  | "registry" =>
    let reg ← perform (Proc.read (·.registry))
    let contains := match (field? a "name").bind asString? with
      | some n => Json.bool (reg.get? n).isSome
      | none => .null
    return (Json.mkObj [("names", .arr (reg.names.map .str)), ("len", .ofNat reg.entries.length),
      ("is_empty", .bool reg.entries.isEmpty), ("contains", contains)], cur)
  | "inspect" =>
    let i ← currentOf cur
    let w ← perform (Proc.read id)
    return (inspectAnswer scene w (w.inst i), cur)
  | "sleep" =>
    perform (sleepFor (Span.ofMillis (((field? a "ms").bind asNat?).getD 0)))
    return (.str "ok", cur)
  | _ => stop ("unknown action " ++ name)

/-- Runs branches side by side, the first asked first. -/
def allBranches : List (Act (Except Json Json)) → Act (List (Except Json Json))
  | [] => pure []
  | b :: bs => do
    let (r, rs) ← Proc.both b (allBranches bs)
    pure (r :: rs)

/-- Runs one action. -/
def runAction (scene : Scene) (cur : Cursor) (a : Json) : Drive (Json × Cursor) := do
  if textOr a "do" != "concurrent" then return ← basicAction scene cur a
  let branches := ((field? a "branches").bind asList?).getD []
  let runs := branches.map fun b =>
    let wait := ((field? b "after_ms").bind asNat?).getD 0
    (do
      sleepFor (Span.ofMillis wait)
      match ← (basicAction scene cur ((field? b "action").getD .null)).run with
      | .ok (r, _) => pure (.ok r)
      | .error j => pure (.error j) : Act (Except Json Json))
  let results ← perform (allBranches runs)
  let results ← drive (results.mapM id)
  return (.arr results, cur)

/-- Runs the actions in order, reporting after each. -/
def runActions (scene : Scene) : Cursor → List Json → Drive (List Json)
  | _, [] => pure []
  | cur, a :: rest => do
    let (result, cur) ← runAction scene cur a
    let (report, cur) ← perform (Proc.update fun w =>
      let (report, cur, w) := observe scene cur (textOr a "do") result w
      ((report, cur), w))
    let reports ← runActions scene cur rest
    return report :: reports

/-- The virtual clock of a world. -/
def clockOf (w : World) : Nat := w.clock

/-- Sets the virtual clock of a world. -/
def setClock (t : Nat) (w : World) : World := { w with clock := t }

/-- The answer of a run that ended without an answer of its own. -/
def panicAnswer (message : String) : Json :=
  Json.mkObj [("error", .str "panic"), ("message", .str message)]

/-- Sets up the scene of a `saga` request and runs its actions. -/
def sagaRun (r : Json) (amb : Ambient) : Reply (Json × Ambient) := do
  let items := ((field? r "definitions").bind asList?).getD []
  let (read, counter) ← (items.mapM definitionArg).run 0
  let built := read.map (·.1)
  let registry := built.foldl (fun reg d => match d with
    | .ok d => reg.register d
    | .error _ => reg) {}
  let sagaId := ((field? r "saga_id").bind asString?).getD "saga-1"
  let persistence := field? r "persistence"
  let keeping ← match persistence with
    | some p => some <$> keepingArg p
    | none => pure none
  let backend ← match persistence with
    | some p => backendArg p
    | none => pure .memory
  let failures := match field? r "command_fail" with
    | some (.obj ms) => ms.filterMap fun (k, v) => (asString? v).map fun m => (k, m)
    | _ => []
  let w : World := { ambient := amb, registry, commandFailures := failures }
  let preload := ((persistence.bind (field? · "events")).bind asList?).getD []
  let (events, w) ← (preload.mapM (eventArg sagaId)).run w
  let delegating := (persistence.bind (field? · "store")).bind asString? == some "delegating"
  let w := { w with events := { EventLog.preload events with delegating } }
  let create := ((field? r "create").bind asBool?).getD true
  let (instanceAnswer, current, w) ← if !create then pure (none, none, w) else do
    let name := ((field? r "definition").bind asString?).orElse fun _ => registry.names.head?
    match name.bind registry.get? with
    | none => pure (some (Json.mkObj [("error", .str "no_definition")]), none, w)
    | some d =>
      let (c, amb) := ((contextInit ((field? r "context").getD .null)).run).run w.ambient
      let w := { w with ambient := amb }
      match ← c with
      | .error e => pure (some (errorAnswer e), none, w)
      | .ok ctx =>
        let (now, w) := w.readWall
        let (i, w) := w.addInst (Instance.create sagaId d ctx now)
        pure (some (.str "ok"), some i, w)
  let scene : Scene := { keeping, bus := ((field? r "bus").bind asBool?).getD false, backend }
  let cursor : Cursor := { current, sagaId, counter, seenStream := (w.events.stream sagaId).length }
  let actions := ((field? r "actions").bind asList?).getD []
  let (ending, w) := Proc.run clockOf setClock (runActions scene cursor actions).run w
  let steps ← match ending with
    | .done (.ok reports) => pure (Json.arr reports)
    | .done (.error j) => throw j
    | .halted reason => throw (panicAnswer reason)
    | .stuck => throw (panicAnswer "every task waits and no timer is set")
    | .exhausted => throw (panicAnswer "the scenario ran out of rounds")
  let instancePart := match instanceAnswer with
    | some j => [("instance", j)]
    | none => []
  -- the persistence is built over the very stores and registry of the scene
  let accessorPart := if ((persistence.bind (field? · "accessors")).bind asBool?).getD false then
      [("accessors", Json.mkObj [("event_store", .bool true), ("snapshot_store", .bool true),
        ("registry", .bool true)])]
    else []
  return (Json.mkObj ([("definitions", .arr (built.map (outcomeAnswer definitionAnswer)))] ++
    instancePart ++ accessorPart ++ [("steps", steps)]), w.ambient)

/-- Answers a `saga` request. -/
def sagaAnswer (r : Json) : AmbientM Json := do
  match sagaRun r (← get) with
  | .ok (answer, amb) => set amb; pure answer
  | .error j => pure j

end Saga.Protocol
