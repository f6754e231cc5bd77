/-!
# Errors

Every failure that crosses a component boundary is an `Error`: a message, a `Kind` that
classifies it, string context (`saga_id`, `step`, ...) and, when it wraps another failure,
that failure's text as its source.

The constructors below fix the wording of the engine's common failures; the other
components build their own messages with `Error.new` and the kind that fits.
-/

namespace Saga

/-- What kind of failure an error is. -/
inductive Kind where
  | stepExecution
  | guardRejected
  | compensation
  | persistence
  | eventStore
  | snapshot
  | codec
  | definitionNotFound
  | notFound
  | concurrency
  | cancelled
  | timeout
  | invalidState
  | validation
  | eventBus
  | commandBus
  | configuration
  | unknown
  deriving Repr, BEq, DecidableEq, Inhabited

namespace Kind

/-- Every kind, in declaration order. -/
def all : List Kind :=
  [.stepExecution, .guardRejected, .compensation, .persistence, .eventStore, .snapshot, .codec,
    .definitionNotFound, .notFound, .concurrency, .cancelled, .timeout, .invalidState,
    .validation, .eventBus, .commandBus, .configuration, .unknown]

/-- The kind's name in snake case. -/
def name : Kind → String
  | .stepExecution => "step_execution"
  | .guardRejected => "guard_rejected"
  | .compensation => "compensation"
  | .persistence => "persistence"
  | .eventStore => "event_store"
  | .snapshot => "snapshot"
  | .codec => "codec"
  | .definitionNotFound => "definition_not_found"
  | .notFound => "not_found"
  | .concurrency => "concurrency"
  | .cancelled => "cancelled"
  | .timeout => "timeout"
  | .invalidState => "invalid_state"
  | .validation => "validation"
  | .eventBus => "event_bus"
  | .commandBus => "command_bus"
  | .configuration => "configuration"
  | .unknown => "unknown"

/-- The kind with the given snake-case name. -/
def ofName? (s : String) : Option Kind :=
  all.find? (·.name = s)

end Kind

/-- A failure: message, kind, context and the text of the failure it wraps. -/
structure Error where
  message : String
  kind : Kind
  /-- Context entries, sorted by key, one per key. -/
  context : List (String × String) := []
  /-- The text of the wrapped failure, if any. -/
  source : Option String := none
  deriving Repr, BEq, Inhabited

namespace Error

/-- An error with a message and a kind. -/
def new (message : String) (kind : Kind) : Error := { message, kind }

/-- An error that wraps a failure whose text is `source`. -/
def withSource (message : String) (kind : Kind) (source : String) : Error :=
  { message, kind, source := some source }

/-- Inserts a key into a sorted context, replacing its value. -/
def insertContext (k v : String) : List (String × String) → List (String × String)
  | [] => [(k, v)]
  | (k', v') :: rest =>
    if k = k' then (k, v) :: rest
    else if k < k' then (k, v) :: (k', v') :: rest
    else (k', v') :: insertContext k v rest

/-- Adds a context entry, replacing one with the same key. -/
def withContext (e : Error) (k v : String) : Error :=
  { e with context := insertContext k v e.context }

/-- The value of a context entry. -/
def getContext (e : Error) (k : String) : Option String :=
  e.context.lookup k

/-- Whether the error is of the kind. -/
def is (e : Error) (k : Kind) : Bool := e.kind == k

/-- Wraps the error in an outer message, keeping kind and context; the error becomes the
source. -/
def wrap (e : Error) (message : String) : Error :=
  { message, kind := e.kind, context := e.context, source := some e.message }

/-- A step's forward action failed. -/
def stepExecution (m : String) : Error := new m .stepExecution

/-- A step's guard refused it. -/
def guardRejected (step : String) : Error :=
  (new ("guard rejected execution of step '" ++ step ++ "'") .guardRejected).withContext "step" step

/-- A compensating action failed. -/
def compensation (m : String) : Error := new m .compensation

/-- State could not be saved or loaded. -/
def persistence (m : String) : Error := new m .persistence

/-- The event store failed. -/
def eventStore (m : String) : Error := new m .eventStore

/-- No definition is registered under the name. -/
def definitionNotFound (name : String) : Error :=
  (new ("saga definition not found: " ++ name) .definitionNotFound).withContext "definition" name

/-- Something looked up is missing. -/
def notFound (m : String) : Error := new m .notFound

/-- A time limit passed. -/
def timeout (m : String) : Error := new m .timeout

/-- A run was cancelled. -/
def cancelled (m : String) : Error := new m .cancelled

/-- The operation is not allowed in the current status. -/
def invalidState (m : String) : Error := new m .invalidState

/-- The configuration is unusable. -/
def configuration (m : String) : Error := new m .configuration

/-- A value failed validation. -/
def validation (field message : String) : Error :=
  (new ("Validation error on field '" ++ field ++ "': " ++ message) .validation).withContext
    "field" field

/-- An error whose message and source are the text of a wrapped failure. -/
def ofFailure (text : String) (kind : Kind) : Error := withSource text kind text

end Error

/-- The outcome of an engine operation. -/
abbrev Outcome (α : Type) := Except Error α

end Saga
