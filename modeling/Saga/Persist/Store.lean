import Saga.Persist.Replay
import Saga.Codec

/-!
# Event-sourced persistence

Saving a saga appends a batch to its stream (see `Persist.Stream`) after finding where the
stream stands. The position is looked up in tiers, each reading only the events after the
version it knows, and falling through to the next when it is stale (beyond the stream), its
tail has gaps, or its tail ends short of the stream:

1. the snapshot's checkpoint metadata;
2. the last checkpoint event;
3. the last state event of the saga among all state events written since the saga was
   created, taken from one version before it;
4. a full replay, which must end at the stream's version.

After the append, the snapshot's checkpoint is moved to the new position, and its state is
taken again when enough entries completed since the last one or the saga reached a terminal
status. Snapshot failures never fail a save.

Loading takes a verified snapshot state and replays the events after it when they line up
with the stream; otherwise it replays the whole stream. The instance is rebuilt under the
registered definition the state names.
-/

namespace Saga

namespace Persist

/-- How states are encoded in snapshots: the state codec, or one that refuses a direction. -/
inductive CodecMode where
  | standard
  | refuseEncode
  | refuseDecode
  deriving Repr, BEq, Inhabited

/-- How a persistence keeps sagas. -/
structure Settings where
  snapshots : SnapshotConfig := SnapshotConfig.standard
  codec : CodecMode := .standard
  deriving Inhabited

/-- Encodes a state for a snapshot. -/
def encodeState (s : Settings) (st : SagaState) : Except CodecFault ByteArray :=
  match s.codec with
  | .refuseEncode => .error .empty
  | _ => .ok (Codec.encode st)

/-- Decodes a snapshot's state. -/
def decodeState (s : Settings) (data : ByteArray) : Except CodecFault SagaState :=
  match s.codec with
  | .refuseDecode => .error (.version 9 ((data.toList.head?.map (·.toNat)).getD 0))
  | _ => Codec.decode data

/-- Runs an event store operation on the world's store. -/
def onEvents (f : EventLog → α × EventLog) : StateM World α :=
  modifyGet fun w => let (a, l) := f w.events; (a, { w with events := l })

/-- The known position, brought up to the stream's version by reading the tail after it;
nothing when it is stale, the tail has gaps, or the tail ends short. -/
def refine (id : String) (known : Position) (current : Nat) : StateM World (Option Position) := do
  if known.version > current then return none
  if known.version == current then return some known
  match ← onEvents (·.getEvents id (known.version + 1)) with
  | .error _ => return none
  | .ok tail =>
    if !isContiguous tail known.version then return none
    let p := scan tail known
    return if p.version == current then some p else none

/-- The last event of a list with the highest version. -/
def latest (events : List StoredEvent) : Option StoredEvent :=
  events.foldl (fun acc e => match acc with
    | some a => if e.version ≥ a.version then some e else some a
    | none => some e) none

/-- Tier 1: the snapshot's checkpoint metadata, when it has any. -/
def fromSnapshotMeta (id : String) (snap : Option Snapshot) (current : Nat) :
    StateM World (Option Position) :=
  match snap with
  | some s => if s.lastSavedVersion > 0 then refine id ⟨s.lastSavedVersion, s.savedHistoryCount⟩ current
    else pure none
  | none => pure none

/-- Tier 2: the last checkpoint event. -/
def fromCheckpoint (id : String) (current : Nat) : StateM World (Option Position) := do
  match ← onEvents (·.lastOfKind id .checkpoint) with
  | .ok (some c) =>
    match c.getU64? MetaKey.savedHistoryCount with
    | some count => refine id ⟨c.version, count⟩ current
    | none => pure none
  | _ => pure none

/-- Tier 3: the last state event of the saga among those written since `createdAt`, taken
from one version before it. -/
def fromStateEvent (id : String) (createdAt : Instant) (current : Nat) :
    StateM World (Option Position) := do
  match ← onEvents (·.getEventsByKind .stateChanged createdAt) with
  | .ok changes =>
    match latest (changes.filter (·.stream == id)) with
    | some change =>
      refine id ⟨change.version - 1, (change.getU64? MetaKey.savedHistoryCount).getD 0⟩ current
    | none => pure none
  | .error _ => pure none

/-- Tier 4: a full replay, which must end at the stream's version. -/
def fromReplay (id : String) (current : Nat) : StateM World (Outcome Position) := do
  match ← onEvents (·.getEvents id 0) with
  | .error f => return .error (Error.ofStore f)
  | .ok events =>
    let p := scan events ⟨0, 0⟩
    if p.version != current then
      return .error ((Error.new ("stream " ++ id ++ " is at version " ++ toString current ++
        " but replay ended at " ++ toString p.version) .concurrency).withContext "saga_id" id)
    return .ok p

/-- Where saga `id`'s stream stands: the first tier that knows. -/
def resolvePosition (id : String) (snap : Option Snapshot) (createdAt : Instant) :
    StateM World (Outcome Position) := do
  let current := (← get).events.currentVersion id
  if current == 0 then return .ok ⟨0, 0⟩
  if let some p ← fromSnapshotMeta id snap current then return .ok p
  if let some p ← fromCheckpoint id current then return .ok p
  if let some p ← fromStateEvent id createdAt current then return .ok p
  fromReplay id current

/-- The snapshot after a save that reached `version` with `saved` entries saved: its
checkpoint moved there, and its state taken again when it is due. -/
def refreshed (s : Settings) (snap : Option Snapshot) (st : SagaState) (version saved : Nat) :
    Snapshot :=
  let snapshot := (snap.getD (Snapshot.new st.id st.definitionName)).setCheckpoint version saved
  let completed := (st.history.filter (·.status == .completed)).length
  let due := s.snapshots.isDue completed snapshot.stateCompletedCount
  if s.snapshots.isEnabled && (due || st.status.isTerminal) then
    match encodeState s st with
    | .ok blob => snapshot.setState blob version completed s.snapshots.checksum
    | .error _ => snapshot
  else snapshot

/-- Moves the snapshot's checkpoint, and takes the state again when it is due. -/
def refreshSnapshot (s : Settings) (snap : Option Snapshot) (st : SagaState) (version saved : Nat) :
    StateM World Unit :=
  modify fun w => { w with snapshots := (w.snapshots.save (refreshed s snap st version saved)).2 }

/-- Saves a saga's state. -/
def save (s : Settings) (st : SagaState) : StateM World (Outcome Unit) := do
  let snap := (← get).snapshots.get? st.id
  match ← resolvePosition st.id snap st.createdAt with
  | .error e => return .error e
  | .ok pos =>
    if pos.savedCount > st.history.length then
      return .error ((Error.persistence ("persisted history (" ++ toString pos.savedCount ++
        ") is ahead of the instance (" ++ toString st.history.length ++ ")")).withContext "saga_id" st.id)
    let tail := st.history.drop pos.savedCount
    let saved := Nat.max (settledLength st.history) pos.savedCount
    let head ← stateChanged st pos
    let steps ← tail.mapM (stepEvent st.id)
    let close ← checkpoint st.id (pos.version + (1 + tail.length) + 1) saved
    match ← onEvents (·.append st.id pos.version (head :: steps ++ [close])) with
    | .error f => return .error ((Error.ofStore f).withContext "saga_id" st.id)
    | .ok version =>
      refreshSnapshot s snap st version saved
      return .ok ()

/-- The state a verified snapshot gives together with the events after it, when they line
up with the stream. -/
def fromSnapshot (s : Settings) (id : String) (snap : Snapshot) : StateM World (Option SagaState) := do
  let some blob := snap.verifiedState | return none
  let .ok st := decodeState s blob | return none
  let current := (← get).events.currentVersion id
  if current < snap.stateVersion then return none
  let .ok tail ← onEvents (·.getEvents id (snap.stateVersion + 1)) | return none
  let last := (tail.getLast?.map (·.version)).getD snap.stateVersion
  if !isContiguous tail snap.stateVersion || last != current then return none
  let now ← modifyGet World.readWall
  match (Replay.ofState st).applyAll tail >>= fun r => r.finish id (some snap.definitionName) now with
  | .ok st => return some st
  | .error _ => return none

/-- Rebuilds an instance from a state under the registered definition it names. -/
def instantiate (st : SagaState) : StateM World (Outcome Instance) := do
  match (← get).registry.get? st.definitionName with
  | none => return .error ((Error.definitionNotFound st.definitionName).withContext "saga_id" st.id)
  | some d =>
    let now ← modifyGet World.readWall
    let fresh ← if (st.context.lookup "correlation_id").isSome then pure ""
      else modifyGet World.drawId
    return Instance.fromState st d now fresh

/-- Loads saga `id`. -/
def load (s : Settings) (id : String) : StateM World (Outcome Instance) := do
  let snap := (← get).snapshots.get? id
  if let some sn := snap then
    if let some st ← fromSnapshot s id sn then
      return ← instantiate st
  match ← onEvents (·.getEvents id 0) with
  | .error f => return .error ((Error.ofStore f).withContext "saga_id" id)
  | .ok events =>
    if events.isEmpty then
      return .error ((Error.notFound ("saga " ++ id ++ " not found")).withContext "saga_id" id)
    let now ← modifyGet World.readWall
    match (({} : Replay).applyAll events) >>= fun r => r.finish id (snap.map (·.definitionName)) now with
    | .error e => return .error e
    | .ok st => instantiate st

/-- The status of saga `id`, from its last state event. -/
def status (id : String) : StateM World (Outcome SagaStatus) := do
  match ← onEvents (·.lastOfKind id .stateChanged) with
  | .error f => return .error ((Error.ofStore f).withContext "saga_id" id)
  | .ok none => return .error ((Error.notFound ("saga " ++ id ++ " not found")).withContext "saga_id" id)
  | .ok (some e) =>
    match e.getStr? MetaKey.status with
    | none => return .error (Error.persistence "state event without status")
    | some text => return SagaStatus.parse text

end Persist

end Saga
