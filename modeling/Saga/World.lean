import Saga.Instance
import Saga.Ambient
import Saga.Event.Lifecycle
import Saga.Store.Events
import Saga.Store.Snapshots
import Saga.Store.Tables

/-!
# The world of a scenario

Everything a scenario's processes share, as one value:

* the virtual clock (nanoseconds since the scenario began) and the ambient wall clock and
  identifiers;
* cancellation tokens, each cancelled by itself or through its parent: cancelling a token
  cancels every token below it, and a token created below a cancelled one starts cancelled;
* inboxes through which parallel children report to their parent, with the number of
  children still able to report;
* the instances in play, each with its own context;
* the event store, the snapshot store, the relational saga store, the lifecycle events
  published on the bus and the commands sent to the command bus, with the switches that make
  them fail;
* the call counters of scripted actions and guards, and the logs of the test doubles;
* the orchestrator's running sagas, the registry of definitions, and the handles of runs
  started in the background.
-/

namespace Saga

/-- A cancellation token. -/
structure Token where
  parent : Option Nat
  cancelled : Bool := false
  deriving Inhabited

/-- The results of parallel children, in arrival order, and how many can still report. -/
structure Inbox where
  queue : List (Nat × Outcome Unit) := []
  senders : Nat
  deriving Inhabited

/-- A command as sent to the command bus. -/
structure Envelope where
  commandType : String
  payload : Json
  correlationId : String
  issuedAt : Instant
  deriving Inhabited

/-- One logged call of a scripted action or guard; `at` is in virtual milliseconds. -/
structure Call where
  call : String
  name : String
  number : Nat
  atMs : Nat
  deriving Inhabited

/-- A saga the orchestrator runs, with the run's generation and cancellation token. -/
structure Tracked where
  sagaId : String
  generation : Nat
  token : Nat
  deriving Inhabited

/-- A saga run started in the background: its saga, and once the run ended, its result or
the reason it halted. -/
structure Handle where
  sagaId : String
  ended : Bool := false
  result : Option (Outcome Unit) := none
  haltedWith : Option String := none
  deriving Inhabited

/-- The shared state of a scenario. -/
structure World where
  clock : Nat := 0
  ambient : Ambient
  tokens : List Token := []
  inboxes : List Inbox := []
  instances : List Instance := []
  events : EventLog := {}
  snapshots : SnapshotShelf := {}
  tables : Tables := {}
  published : List LifecycleEvent := []
  busFails : Bool := false
  sent : List Envelope := []
  commandFailures : List (String × String) := []
  counters : List (Nat × Nat) := []
  calls : List Call := []
  recording : List String := []
  participantCalls : List String := []
  running : List Tracked := []
  generations : Nat := 0
  registry : Registry := {}
  handles : List Handle := []
  deriving Inhabited

namespace World

/-- Nanoseconds in a millisecond. -/
def nanosPerMs : Nat := 1000000

/-- Reads the wall clock. -/
def readWall (w : World) : Instant × World :=
  let (t, a) := w.ambient.read
  (t, { w with ambient := a })

/-- Draws a fresh identifier. -/
def drawId (w : World) : String × World :=
  let (i, a) := w.ambient.draw
  (i, { w with ambient := a })

/-- Whether token `t` is cancelled. -/
def isCancelled (w : World) (t : Nat) : Bool := (w.tokens[t]?.map (·.cancelled)).getD false

/-- A new token below `parent`; it starts cancelled when the parent is. -/
def newToken (w : World) (parent : Option Nat) : Nat × World :=
  let c := match parent with
    | some p => w.isCancelled p
    | none => false
  (w.tokens.length, { w with tokens := w.tokens ++ [{ parent, cancelled := c }] })

/-- Marks the tokens whose parent is marked, in creation order; parents come first. -/
def spread : List Token → List Bool → List Bool
  | [], marks => marks
  | tok :: rest, marks =>
    let mine := tok.cancelled || (match tok.parent with
      | some p => marks[p]?.getD false
      | none => false)
    spread rest (marks ++ [mine])

/-- Cancels token `t` and every token below it. -/
def cancel (w : World) (t : Nat) : World :=
  let marked := w.tokens.mapIdx fun i tok => if i == t then { tok with cancelled := true } else tok
  let flags := spread marked []
  { w with tokens := (marked.zip flags).map fun (tok, f) => { tok with cancelled := f } }

/-- Counts a call of counter `c`; answers its number, from one. -/
def countCall (w : World) (c : Nat) : Nat × World :=
  let n := (w.counters.lookup c).getD 0 + 1
  (n, { w with counters := (c, n) :: w.counters.filter (·.1 != c) })

/-- Logs a call at the current virtual time. -/
def logCall (w : World) (call name : String) (n : Nat) : World :=
  { w with calls := w.calls ++ [⟨call, name, n, w.clock / nanosPerMs⟩] }

/-- The instance `i`. -/
def inst (w : World) (i : Nat) : Instance := w.instances[i]?.getD default

/-- Changes instance `i`. -/
def modifyInst (w : World) (i : Nat) (f : Instance → Instance) : World :=
  { w with instances := w.instances.modify i f }

/-- Adds an instance; answers its number. -/
def addInst (w : World) (inst : Instance) : Nat × World :=
  (w.instances.length, { w with instances := w.instances ++ [inst] })

/-- Opens an inbox for `senders` children; answers its number. -/
def openInbox (w : World) (senders : Nat) : Nat × World :=
  (w.inboxes.length, { w with inboxes := w.inboxes ++ [{ senders }] })

/-- Delivers a child's result. -/
def deliver (w : World) (box : Nat) (child : Nat) (r : Outcome Unit) : World :=
  { w with inboxes := w.inboxes.modify box fun b => { b with queue := b.queue ++ [(child, r)] } }

/-- A child can no longer report. -/
def dropSender (w : World) (box : Nat) : World :=
  { w with inboxes := w.inboxes.modify box fun b => { b with senders := b.senders - 1 } }

/-- Whether the parent can take a result or knows that none will come. -/
def inboxReady (w : World) (box : Nat) : Bool :=
  match w.inboxes[box]? with
  | some b => !b.queue.isEmpty || b.senders == 0
  | none => true

/-- Takes the oldest result, if any. -/
def receive (w : World) (box : Nat) : Option (Nat × Outcome Unit) × World :=
  match w.inboxes[box]? with
  | some { queue := r :: rest, senders } =>
    (some r, { w with inboxes := w.inboxes.set box { queue := rest, senders } })
  | _ => (none, w)

/-- Opens the handle of a background run of saga `id`; answers its number. -/
def openHandle (w : World) (id : String) : Nat × World :=
  (w.handles.length, { w with handles := w.handles ++ [{ sagaId := id }] })

/-- The handle `k`. -/
def handle (w : World) (k : Nat) : Handle := w.handles[k]?.getD default

/-- Records the result of the run of handle `k`. -/
def settleHandle (w : World) (k : Nat) (r : Outcome Unit) : World :=
  { w with handles := w.handles.modify k fun h => { h with result := some r } }

/-- Marks the run of handle `k` ended, with the reason when it halted. -/
def endHandle (w : World) (k : Nat) (reason : Option String) : World :=
  { w with handles := w.handles.modify k fun h => { h with ended := true, haltedWith := reason } }

end World

end Saga
