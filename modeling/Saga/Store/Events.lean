import Saga.Event.Record
import Saga.Failure

/-!
# An event store in memory

`EventLog` keeps one stream of events per saga, streams in the order they were first
written to. Appending checks the expected version (the stream's length) and numbers the new
events on from it, so a stream's versions are always `1, 2, …, n`; removing all events of a
kind numbers the rest again from one.

Reads can be switched off, which makes every read fail. The log counts what it returned:
`eventsRead` adds up the events of every read by stream and by kind, and `fullReads` counts
reads by stream that start at the first version. Asking for the last event of a kind is not
counted, unless the log serves it through a full read of the stream (`delegating`), as a
store that knows only the basic reads does.
-/

namespace Saga

/-- An event store held in memory. -/
structure EventLog where
  streams : List (String × List StoredEvent) := []
  eventsRead : Nat := 0
  fullReads : Nat := 0
  failReads : Bool := false
  /-- Whether the last event of a kind is found through a full read of the stream. -/
  delegating : Bool := false
  deriving Inhabited

namespace EventLog

/-- The events of a stream; an unknown stream is empty. -/
def stream (l : EventLog) (id : String) : List StoredEvent := (l.streams.lookup id).getD []

/-- Replaces a stream's events, creating the stream at the end if it is new. -/
def setStream (l : EventLog) (id : String) (events : List StoredEvent) : EventLog :=
  if l.streams.any (·.1 == id) then
    { l with streams := l.streams.map fun (k, v) => if k == id then (k, events) else (k, v) }
  else
    { l with streams := l.streams ++ [(id, events)] }

/-- The stream's version: the number of its events. -/
def currentVersion (l : EventLog) (id : String) : Nat := (l.stream id).length

/-- Events numbered on from the end of `stream`; the first event of another stream stops
the append, after the ones before it were added. -/
def pushAll (id : String) : List StoredEvent → List StoredEvent → Except StoreFault (List StoredEvent) × List StoredEvent
  | stream, [] => (.ok stream, stream)
  | stream, e :: rest =>
    if e.stream != id then (.error (StoreFault.wrongStream e.stream), stream)
    else pushAll id (stream ++ [{ e with version := stream.length + 1 }]) rest

/-- Appends events to a stream expected to be at version `expected`; answers the new
version. -/
def append (l : EventLog) (id : String) (expected : Nat) (events : List StoredEvent) :
    Except StoreFault Nat × EventLog :=
  let current := l.stream id
  let l := l.setStream id current
  if current.length != expected then (.error (.conflict expected current.length), l)
  else
    let (r, stream) := pushAll id current events
    (r.map fun s => s.length, l.setStream id stream)

/-- The failure of a read while reads are off. -/
def readsOff : StoreFault := StoreFault.internal "reads disabled"

/-- The events of a stream from version `start` on. -/
def getEvents (l : EventLog) (id : String) (start : Nat) : Except StoreFault (List StoredEvent) × EventLog :=
  if l.failReads then (.error readsOff, l)
  else
    let events := (l.stream id).filter (·.version ≥ start)
    (.ok events, { l with fullReads := l.fullReads + (if start ≤ 1 then 1 else 0),
                          eventsRead := l.eventsRead + events.length })

/-- The events of a kind in every stream with a timestamp at or after `since`. -/
def getEventsByKind (l : EventLog) (kind : EventKind) (since : Instant) :
    Except StoreFault (List StoredEvent) × EventLog :=
  if l.failReads then (.error readsOff, l)
  else
    let events := (l.streams.flatMap (·.2)).filter fun e => e.kind == kind && since ≤ e.timestamp
    (.ok events, { l with eventsRead := l.eventsRead + events.length })

/-- The last event of a kind in a stream. -/
def lastOfKind (l : EventLog) (id : String) (kind : EventKind) :
    Except StoreFault (Option StoredEvent) × EventLog :=
  if l.delegating then
    match l.getEvents id 0 with
    | (.ok events, l) => (.ok ((events.filter (·.kind == kind)).getLast?), l)
    | (.error e, l) => (.error e, l)
  else if l.failReads then (.error readsOff, l)
  else (.ok (((l.stream id).filter (·.kind == kind)).getLast?), l)

/-- Numbers events from one. -/
def renumber (events : List StoredEvent) : List StoredEvent :=
  (List.range events.length).zipWith (fun i e => { e with version := i + 1 }) events

/-- Removes every event of a kind from a stream and numbers the rest again. -/
def strip (l : EventLog) (id : String) (kind : EventKind) : EventLog :=
  if l.streams.any (·.1 == id) then l.setStream id (renumber ((l.stream id).filter (·.kind != kind)))
  else l

/-- Keeps the first `len` events of a stream. -/
def truncate (l : EventLog) (id : String) (len : Nat) : EventLog :=
  if l.streams.any (·.1 == id) then l.setStream id ((l.stream id).take len) else l

/-- Sets the read counters to zero. -/
def resetCounters (l : EventLog) : EventLog := { l with eventsRead := 0, fullReads := 0 }

/-- A log holding the given events, each appended to its own stream in order. -/
def preload (events : List StoredEvent) : EventLog :=
  events.foldl (fun l e =>
    let s := l.stream e.stream
    l.setStream e.stream (s ++ [{ e with version := s.length + 1 }])) {}

end EventLog

end Saga
