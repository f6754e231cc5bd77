import Saga.Protocol.Basic
import Saga.Config

/-!
# Questions about configuration and snapshots

`config` reads the engine and store settings from `SAGA_*` values, or builds them step by
step. `snapshot` answers when snapshot states fall due, computes checksums, and follows one
snapshot through a list of changes.
-/

namespace Saga.Protocol

/-- The answer form of a snapshot configuration. -/
def snapshotConfigAnswer (c : SnapshotConfig) : Json :=
  Json.mkObj [("frequency", .ofNat c.frequency), ("enable_checksum", .bool c.checksum),
    ("is_enabled", .bool c.isEnabled)]

/-- The answer form of the engine defaults. -/
def engineAnswer (c : EngineConfig) : Json :=
  Json.mkObj [("snapshot_frequency", .ofNat c.snapshotFrequency),
    ("enable_snapshot_checksum", .bool c.snapshotChecksum),
    ("default_retry_policy", match c.defaultRetryPolicy with
      | some p => policyAnswer p
      | none => .null),
    ("default_step_timeout", Span.optionToJson c.defaultStepTimeout),
    ("snapshot_config", snapshotConfigAnswer c.snapshotConfig)]

/-- The answer form of the store settings. -/
def storeAnswer (c : StoreConfig) : List (String × Json) :=
  [("database_url", .str c.databaseUrl), ("max_connections", .ofNat c.maxConnections),
   ("create_if_missing", .bool c.createIfMissing)]

/-- Engine defaults built from `{snapshot_frequency, checksum, default_retry_policy,
default_step_timeout_ms}`. -/
def buildEngine (b : Json) : Reply EngineConfig := do
  let freq ← optional b "snapshot_frequency" asNat?
  let sum ← optional b "checksum" asBool?
  let policy ← match field? b "default_retry_policy" with
    | some p => some <$> policyArg p
    | none => pure none
  let timeout ← optional b "default_step_timeout_ms" asNat?
  let c : EngineConfig := {}
  return { c with
    snapshotFrequency := freq.getD c.snapshotFrequency
    snapshotChecksum := sum.getD c.snapshotChecksum
    defaultRetryPolicy := policy.orElse fun _ => c.defaultRetryPolicy
    defaultStepTimeout := (timeout.map Span.ofMillis).orElse fun _ => c.defaultStepTimeout }

/-- Store settings built from a base and optional URL and connection count. -/
def buildStore (b : Json) : Reply StoreConfig := do
  let base ← match textOr b "base" with
    | "default" | "new" => pure ({} : StoreConfig)
    | "in_memory" => pure StoreConfig.inMemory
    | _ => refuse "unknown store base"
  let url ← optional b "database_url" asString?
  let conns ← optional b "max_connections" asNat?
  return { base with
    databaseUrl := url.getD base.databaseUrl
    maxConnections := conns.getD base.maxConnections }

/-- Answers a `config` request. -/
def configAnswer (r : Json) : Reply Json := do
  if let some env := r.get? "env" then
    let vars ← match env with
      | .obj ms => ms.mapM fun (k, v) => match v with
        | .str s => pure (k, s)
        | _ => refuse "malformed setting"
      | _ => refuse "malformed settings"
    let engine := Settings.engine vars
    return Json.mkObj [("engine", engineAnswer engine), ("is_default", .bool (engine == {})),
      ("sqlite", Json.mkObj (storeAnswer (Settings.store vars)))]
  if let some b := r.get? "builder" then
    return engineAnswer (← buildEngine b)
  if let some b := r.get? "sqlite_builder" then
    let c ← buildStore b
    return Json.mkObj (storeAnswer c ++ [("is_default", .bool (c == {})),
      ("is_in_memory", .bool (Text.contains c.databaseUrl ":memory:"))])
  refuse "unknown config question"

/-- A snapshot configuration: `"default"`, `"disabled"` or `{"frequency", "checksum"}`. -/
def snapshotConfigArg : Option Json → Reply SnapshotConfig
  | none | some (.str "default") => pure SnapshotConfig.standard
  | some (.str "disabled") => pure SnapshotConfig.disabled
  | some j => do
    let f ← need j "frequency" asNat?
    let c ← need j "checksum" asBool?
    return ⟨f, c⟩

/-- The text of stored bytes. -/
def bytesText (b : ByteArray) : String := (String.fromUTF8? b).getD ""

/-- Applies one change to a snapshot. -/
def snapshotStep (s : Snapshot) (op : Json) : Reply Snapshot := do
  match textOr op "do" with
  | "set_state" =>
    let data ← need op "data" asString?
    let v ← need op "version" asNat?
    let c ← need op "completed" asNat?
    let sum ← need op "checksum" asBool?
    return s.setState data.toUTF8 v c sum
  | "set_checkpoint" =>
    return s.setCheckpoint (← need op "version" asNat?) (← need op "count" asNat?)
  | "tamper" => return { s with state := some (← need op "data" asString?).toUTF8 }
  | "clear_state" => return { s with state := none }
  | "clear_checksum" => return { s with checksum := none }
  | _ => refuse "unknown snapshot change"

/-- Describes a snapshot. -/
def snapshotAnswer (s : Snapshot) : Json :=
  Json.mkObj [("definition_name", .str s.definitionName),
    ("last_saved_version", .ofNat s.lastSavedVersion),
    ("saved_history_count", .ofNat s.savedHistoryCount),
    ("has_state", .bool s.state.isSome), ("state_version", .ofNat s.stateVersion),
    ("state_completed_count", .ofNat s.stateCompletedCount),
    ("has_checksum", .bool s.checksum.isSome), ("verify_integrity", .bool s.verifyIntegrity),
    ("verified", .bool s.verifiedState.isSome),
    ("verified_state", optionAnswer (s.verifiedState.map bytesText)),
    ("checksum", optionAnswer (s.checksum.map Sha256.hex))]

/-- The snapshots after each change, in order. -/
def snapshotTrail (s : Snapshot) : List Json → Reply (List Json)
  | [] => pure []
  | op :: ops => do
    let s ← snapshotStep s op
    return snapshotAnswer s :: (← snapshotTrail s ops)

/-- Answers a `snapshot` request. -/
def snapshotOpAnswer (r : Json) : Reply Json := do
  let c ← snapshotConfigArg (field? r "config")
  let due ← optional r "is_due" fun j => (asList? j).bind fun ps => ps.mapM fun p =>
    match p with
    | .arr [.num (.nat a), .num (.nat b)] => some (Json.bool (c.isDue a b))
    | _ => none
  let sum ← optional r "checksum_of" asString?
  let ops ← optional r "ops" asList?
  let trail ← match ops with
    | some ops => some <$> snapshotTrail (Snapshot.new "snap-1" "def") ops
    | none => pure none
  return Json.mkObj ([("config", snapshotConfigAnswer c)] ++
    (due.map fun d => [("is_due", Json.arr d)]).getD [] ++
    (sum.map fun t => [("checksum", Json.str (Sha256.hex (Sha256.digest t.toUTF8)))]).getD [] ++
    (trail.map fun t => [("ops", Json.arr t)]).getD [])

end Saga.Protocol
