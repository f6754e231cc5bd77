import Saga.Digest.Sha256

/-!
# Snapshots

A snapshot of one saga carries two independent things:

* checkpoint metadata (`lastSavedVersion`, `savedHistoryCount`), refreshed on every save so
  that a writer finds the stream position with a short read;
* an optional encoded state taken at `stateVersion`, with the number of completed history
  entries it held and, optionally, the SHA-256 checksum of the encoded bytes.

`Snapshot.verifiedState` is the state when it has no checksum or its checksum matches.
A `SnapshotConfig` says how often the state is refreshed: every `frequency` newly completed
entries; a frequency of zero disables state snapshots.
-/

namespace Saga

/-- How often snapshot states are taken, and whether they carry a checksum. -/
structure SnapshotConfig where
  frequency : Nat
  checksum : Bool
  deriving Repr, BEq, DecidableEq, Inhabited

namespace SnapshotConfig

/-- Every ten completed entries, with a checksum. -/
def standard : SnapshotConfig := ⟨10, true⟩

/-- No state snapshots. -/
def disabled : SnapshotConfig := ⟨0, false⟩

/-- Whether state snapshots are taken at all. -/
def isEnabled (c : SnapshotConfig) : Bool := c.frequency > 0

/-- Whether a state is due: `completed` entries now, `last` when the state was taken. -/
def isDue (c : SnapshotConfig) (completed last : Nat) : Bool :=
  c.isEnabled && completed > last && completed - last ≥ c.frequency

end SnapshotConfig

/-- The snapshot of one saga. -/
structure Snapshot where
  sagaId : String
  definitionName : String
  lastSavedVersion : Nat := 0
  savedHistoryCount : Nat := 0
  /-- The encoded state, if one was taken. -/
  state : Option ByteArray := none
  stateVersion : Nat := 0
  stateCompletedCount : Nat := 0
  /-- SHA-256 of the encoded state when it was taken with a checksum. -/
  checksum : Option (List UInt8) := none
  deriving Inhabited

namespace Snapshot

/-- A snapshot with no checkpoint and no state. -/
def new (sagaId definitionName : String) : Snapshot := { sagaId, definitionName }

/-- Records a state taken at `version` with `completed` completed entries. -/
def setState (s : Snapshot) (data : ByteArray) (version completed : Nat) (withChecksum : Bool) :
    Snapshot :=
  { s with
    checksum := if withChecksum then some (Sha256.digest data) else none
    state := some data
    stateVersion := version
    stateCompletedCount := completed }

/-- Records the stream position after a save. -/
def setCheckpoint (s : Snapshot) (version count : Nat) : Snapshot :=
  { s with lastSavedVersion := version, savedHistoryCount := count }

/-- Whether a checksum matches the bytes. -/
def checksumMatches (sum : List UInt8) (data : ByteArray) : Bool :=
  sum == Sha256.digest data

/-- The state, unless a checksum is present and does not match it. -/
def verifiedState (s : Snapshot) : Option ByteArray :=
  match s.state, s.checksum with
  | some d, some sum => if checksumMatches sum d then some d else none
  | some d, none => some d
  | none, _ => none

/-- False only when both a state and a checksum are present and disagree. -/
def verifyIntegrity (s : Snapshot) : Bool :=
  match s.state, s.checksum with
  | some d, some sum => checksumMatches sum d
  | _, _ => true

end Snapshot

end Saga
