import Saga.Error

/-!
# Failures of the engine's collaborators

Each collaborator of the engine (event store, snapshot store, event bus, command bus, state
codec, relational store) fails in a few ways of its own. A failure has a text and becomes
an engine `Error` of a fixed kind whose message and source are that text.
-/

namespace Saga

/-- How the relational store fails. -/
inductive TableFault where
  /-- The database driver failed; the text is the driver's. -/
  | backend (text : String)
  /-- Stored JSON did not read; the text is the reader's. -/
  | serialization (text : String)
  /-- Stored data is unusable. -/
  | invalid (text : String)
  deriving Repr, BEq, Inhabited

/-- The text of a relational store failure. -/
def TableFault.text : TableFault → String
  | .backend t => "Backend error: " ++ t
  | .serialization t => "Serialization error: " ++ t
  | .invalid t => "Invalid stored data: " ++ t

/-- The kind of a relational store failure: a driver failure is one of persistence, bad
data one of decoding. -/
def TableFault.kind : TableFault → Kind
  | .backend _ => .persistence
  | _ => .codec

/-- How an event store fails. -/
inductive StoreFault where
  /-- An append expected another stream version. -/
  | conflict (expected actual : Nat)
  | streamNotFound (stream : String)
  /-- The store's own failure, by its text. -/
  | backend (text : String)
  | codec (text : String)
  deriving Repr, BEq, Inhabited

/-- The text of an event store failure. -/
def StoreFault.text : StoreFault → String
  | .conflict e a => "Conflict: expected version " ++ toString e ++ ", but current is " ++ toString a
  | .streamNotFound s => "Stream not found: " ++ s
  | .backend t => "Backend error: " ++ t
  | .codec t => "Codec error: " ++ t

/-- Whether the failure is a version conflict. -/
def StoreFault.isConflict : StoreFault → Bool
  | .conflict _ _ => true
  | _ => false

/-- The kind of an event store failure. -/
def StoreFault.kind : StoreFault → Kind
  | .conflict _ _ => .concurrency
  | .streamNotFound _ => .notFound
  | .codec _ => .codec
  | .backend _ => .eventStore

/-- The in-memory event store's own failures. -/
def StoreFault.wrongStream (stream : String) : StoreFault := .backend ("Event belongs to stream " ++ stream)

/-- A failure inside the in-memory event store. -/
def StoreFault.internal (text : String) : StoreFault := .backend ("Internal error: " ++ text)

/-- How a snapshot store fails. -/
inductive SnapshotFault where
  | backend (text : String)
  | serialization (text : String)
  deriving Repr, BEq, Inhabited

/-- The text of a snapshot store failure. -/
def SnapshotFault.text : SnapshotFault → String
  | .backend t => "Backend error: " ++ t
  | .serialization t => "Serialization error: " ++ t

/-- The in-memory snapshot store refusing a save. -/
def SnapshotFault.unavailable : SnapshotFault := .backend "Snapshot store unavailable"

/-- How an event bus fails. -/
inductive BusFault where
  | publish (text : String)
  | subscription (text : String)
  | subscriptionNotFound (id : String)
  | handler (text : String)
  | connectionLost (text : String)
  deriving Repr, BEq, Inhabited

/-- The text of an event bus failure. -/
def BusFault.text : BusFault → String
  | .publish t => "Publish error: " ++ t
  | .subscription t => "Subscription error: " ++ t
  | .subscriptionNotFound i => "Subscription not found: " ++ i
  | .handler t => "Handler error: " ++ t
  | .connectionLost t => "Connection lost: " ++ t

/-- How a command bus fails. -/
inductive CommandFault where
  | timeout (text : String)
  | handlerNotFound (text : String)
  | execution (text : String)
  | serialization (text : String)
  | cancelled
  deriving Repr, BEq, Inhabited

/-- The text of a command bus failure. -/
def CommandFault.text : CommandFault → String
  | .timeout t => "Timeout executing command: " ++ t
  | .handlerNotFound t => "Handler not found for command: " ++ t
  | .execution t => "Command execution error: " ++ t
  | .serialization t => "Serialization error: " ++ t
  | .cancelled => "Command was cancelled"

/-- The kind of a command bus failure: a cancelled command is a cancellation, a timed-out
one a timeout. -/
def CommandFault.kind : CommandFault → Kind
  | .cancelled => .cancelled
  | .timeout _ => .timeout
  | _ => .commandBus

/-- How the state codec fails. -/
inductive CodecFault where
  /-- The JSON reader failed; the text is its error. -/
  | json (text : String)
  | version (expected actual : Nat)
  | empty
  deriving Repr, BEq, Inhabited

/-- The text of a codec failure. -/
def CodecFault.text : CodecFault → String
  | .json t => "JSON serialization/deserialization error: " ++ t
  | .version e a => "Invalid codec version: expected " ++ toString e ++ ", got " ++ toString a
  | .empty => "Empty state blob"

namespace Error

/-- The engine error of a relational store failure. -/
def ofTable (f : TableFault) : Error := ofFailure f.text f.kind

/-- The engine error of an event store failure. -/
def ofStore (f : StoreFault) : Error := ofFailure f.text f.kind

/-- The engine error of a snapshot store failure. -/
def ofSnapshot (f : SnapshotFault) : Error := ofFailure f.text .snapshot

/-- The engine error of an event bus failure. -/
def ofBus (f : BusFault) : Error := ofFailure f.text .eventBus

/-- The engine error of a command bus failure. -/
def ofCommand (f : CommandFault) : Error := ofFailure f.text f.kind

/-- The engine error of a codec failure. -/
def ofCodec (f : CodecFault) : Error := ofFailure f.text .codec

end Error

end Saga
