import Saga.World

/-!
# What a save writes to the stream

Every save appends one batch to the saga's stream:

1. a state event with the status, current step, context map, definition name, creation,
   start and finish times, and the stream position before the batch (its version and the
   number of history entries saved by then);
2. one step event per history entry not yet saved, whose kind follows the entry's status;
3. a checkpoint with its own version and the number of entries now saved. A trailing
   running entry is written but not counted as saved, so the next save writes it again.

`scan` reads a stream (or a tail of it) forward and recovers the position: the last
version, and the saved count, which state events and checkpoints set and step events
advance; a step event that only started does not count once the scan ends.
-/

namespace Saga

namespace Persist

/-- A stream position: the last version and the number of history entries saved. -/
structure Position where
  version : Nat
  savedCount : Nat
  deriving Repr, BEq, Inhabited

/-- A fresh event of a stream, stamped with a new id and the wall clock. -/
def newEvent (stream : String) (kind : EventKind) : StateM World StoredEvent := do
  let id ← modifyGet World.drawId
  let now ← modifyGet World.readWall
  return { id, stream, kind, timestamp := now }

/-- The kind of the step event that records an entry. -/
def stepKind : StepStatus → EventKind
  | .pending | .running => .stepStarted
  | .completed => .stepCompleted
  | .failed => .stepFailed
  | .compensating => .stepCompensating
  | .compensated => .stepCompensated

/-- The status an entry has when its step event does not say. -/
def statusOfKind : EventKind → StepStatus
  | .stepCompleted => .completed
  | .stepFailed => .failed
  | .stepCompensating => .compensating
  | .stepCompensated => .compensated
  | _ => .running

/-- How long an entry took, when it finished no earlier than it started. -/
def entryDuration (e : HistoryEntry) : Option Span :=
  e.completedAt.bind fun c => Instant.spanBetween e.startedAt c

/-- The state event of a save from `pos`. -/
def stateChanged (st : SagaState) (pos : Position) : StateM World StoredEvent := do
  let e ← newEvent st.id .stateChanged
  let e := (((((e.put MetaKey.status (.str st.status.name)).put MetaKey.step (.ofNat st.currentStep)).put
    MetaKey.context (.obj st.context)).put MetaKey.definitionName (.str st.definitionName)).put
    MetaKey.savedHistoryCount (.ofNat pos.savedCount)).put MetaKey.lastSavedVersion (.ofNat pos.version)
  let e := e.putTime MetaKey.sagaCreatedAt st.createdAt
  let e := match st.startedAt with
    | some t => e.putTime MetaKey.sagaStartedAt t
    | none => e
  return match st.completedAt with
    | some t => e.putTime MetaKey.sagaCompletedAt t
    | none => e

/-- The step event of a history entry. -/
def stepEvent (id : String) (entry : HistoryEntry) : StateM World StoredEvent := do
  let e ← newEvent id (stepKind entry.status)
  let e := (((e.put MetaKey.stepName (.str entry.stepName)).put MetaKey.stepStatus
    (.str entry.status.name)).putTime MetaKey.startedAt entry.startedAt).put MetaKey.retryAttempt
    (.ofNat entry.retryAttempt)
  let e := match entry.completedAt with
    | some t => e.putTime MetaKey.completedAt t
    | none => e
  let e := match entryDuration entry with
    | some d => e.put MetaKey.durationMs (.ofNat d.toMillis)
    | none => e
  return match entry.error with
    | some text => (e.put MetaKey.error (.str text)).put MetaKey.errorMessage (.str text)
    | none => e

/-- The checkpoint closing a batch. -/
def checkpoint (id : String) (version count : Nat) : StateM World StoredEvent := do
  let e ← newEvent id .checkpoint
  return (e.put MetaKey.lastSavedVersion (.ofNat version)).put MetaKey.savedHistoryCount (.ofNat count)

/-- The history entries that count as saved: all but a trailing running one. -/
def settledLength (history : List HistoryEntry) : Nat :=
  match history.getLast? with
  | some e => if e.status == .running then history.length - 1 else history.length
  | none => 0

/-- Whether the events carry the versions following `after`, in order. -/
def isContiguous (events : List StoredEvent) (after : Nat) : Bool :=
  (events.zipIdx).all fun (e, i) => e.version == after + 1 + i

/-- One event of a scan: the position it reaches, and whether the last step event only
started. -/
def scanStep (acc : Position × Bool) (e : StoredEvent) : Position × Bool :=
  let (p, open_) := acc
  let (count, open_) :=
    if e.kind.isStepEvent then (p.savedCount + 1, e.kind == .stepStarted)
    else match e.getU64? MetaKey.savedHistoryCount with
      | some c => (c, false)
      | none => (p.savedCount, open_)
  ({ version := e.version, savedCount := count }, open_)

/-- The position after reading `events` forward from `pos`. -/
def scan (events : List StoredEvent) (pos : Position) : Position :=
  let (p, open_) := events.foldl scanStep (pos, false)
  if open_ then { p with savedCount := p.savedCount - 1 } else p

end Persist

end Saga
