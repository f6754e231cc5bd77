import Saga.Proc.Schedule
import Saga.Persist.Store

/-!
# Processes of the engine

The engine's processes run over the world of a scenario (`Act`), and those that can fail
carry an engine error (`Flow`). This module holds the primitives they are built from: reading
the clocks, sleeping, waiting for a cancellation, time limits, tokens, and changing an
instance and its context.

A time limit races the limited process against a sleep to the deadline, the process first:
a process that finishes at the deadline has made it.
-/

namespace Saga

/-- A process over the world of a scenario. -/
abbrev Act := Proc World

/-- A process over the world that can fail with an engine error. -/
abbrev Flow := ExceptT Error Act

namespace Act

/-- Runs a state computation on the world. -/
def state (f : StateM World α) : Act α := .update fun w => f.run w

/-- The virtual clock, in nanoseconds. -/
def now : Act Nat := Proc.read (·.clock)

/-- Reads the wall clock. -/
def wall : Act Instant := .update World.readWall

/-- Draws a fresh identifier. -/
def freshId : Act String := .update World.drawId

/-- Sleeps for a span of virtual time. -/
def sleepFor (d : Span) : Act Unit := do
  let t ← now
  .sleepUntil (t + d.toNanos)

/-- Waits until token `t` is cancelled. -/
def whenCancelled (t : Nat) : Act Unit := .await (·.isCancelled t)

/-- Whether token `t` is cancelled. -/
def isCancelled (t : Nat) : Act Bool := Proc.read (·.isCancelled t)

/-- Cancels token `t` and the tokens below it. -/
def cancel (t : Nat) : Act Unit := Proc.modify (·.cancel t)

/-- A new token below `t`. -/
def childToken (t : Nat) : Act Nat := .update (·.newToken (some t))

/-- A new token with no parent. -/
def rootToken : Act Nat := .update (·.newToken none)

/-- Runs `p` within `limit`; nothing when the limit passed first. -/
def within (limit : Span) (p : Act α) : Act (Option α) := do
  let t ← now
  match ← Proc.race p (.sleepUntil (t + limit.toNanos)) with
  | .inl a => pure (some a)
  | .inr () => pure none

/-- Runs `p` unless token `t` is cancelled first; a cancellation already made wins. -/
def unlessCancelled (t : Nat) (p : Act α) : Act (Option α) := do
  match ← Proc.race (whenCancelled t) p with
  | .inl () => pure none
  | .inr a => pure (some a)

/-- Instance `i`. -/
def inst (i : Nat) : Act Instance := Proc.read (·.inst i)

/-- Changes instance `i`. -/
def modifyInst (i : Nat) (f : Instance → Instance) : Act Unit := Proc.modify (·.modifyInst i f)

/-- The context of instance `i`. -/
def context (i : Nat) : Act SagaContext := Proc.read fun w => (w.inst i).context

/-- Changes the context of instance `i` at the wall clock's time. -/
def changeContext (i : Nat) (f : SagaContext → Instant → SagaContext) : Act Unit := do
  let t ← wall
  modifyInst i fun inst => { inst with context := f inst.context t }

/-- Sets a context value of instance `i`. -/
def setValue (i : Nat) (k : String) (v : Context.Value) : Act Unit :=
  changeContext i fun c t => c.set k v t

/-- Removes a context value of instance `i`. -/
def removeValue (i : Nat) (k : String) : Act Unit :=
  changeContext i fun c t => (c.remove k t).2

/-- Counts and logs a call of a scripted action or guard; answers its number. -/
def noteCall (counter : Nat) (call name : String) : Act Nat := do
  let n ← .update (·.countCall counter)
  Proc.modify (·.logCall call name n)
  pure n

end Act

/-- What an instance runs with: a persistence (when there is one), whether a bus listens, and
the run's cancellation token. -/
structure Runtime where
  keeping : Option Persist.Settings := none
  bus : Bool := false
  token : Nat
  deriving Inhabited

/-- The debug text `SagaRuntime { persistence, event_bus, cancelled }`, given whether the
runtime's token is cancelled. -/
def Runtime.debugText (rt : Runtime) (cancelled : Bool) : String :=
  Debug.record "SagaRuntime"
    [("persistence", toString rt.keeping.isSome), ("event_bus", toString rt.bus),
     ("cancelled", toString cancelled)]

end Saga
