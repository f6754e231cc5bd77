/-!
# Processes

A `Proc σ α` is a computation over a shared state `σ` that may wait: for a point of
virtual time, or for a condition on the state. Several processes run together on one
scheduler: a process can race two processes (the first to finish wins, the first one is
asked first), run two side by side (always the first asked first, or taking turns after
every poll in which either moved), or start a detached task that outlives it.

`Proc.poll` runs a process as far as it can go without time passing: it applies state
updates, continues after finished parts, and stops at the first wait that is not yet
over. It reports whether anything happened, so that a scheduler knows when only the clock
can make progress. A process may also halt, which ends the task that runs it.
-/

namespace Saga

/-- A computation over the state `σ` that may wait for time or for the state. -/
inductive Proc (σ : Type) : Type → Type 1 where
  | pure {α : Type} (a : α) : Proc σ α
  | bind {α β : Type} (m : Proc σ β) (k : β → Proc σ α) : Proc σ α
  /-- An update of the state that takes no time. -/
  | update {α : Type} (f : σ → α × σ) : Proc σ α
  /-- Waits until the virtual clock reaches `deadline`. -/
  | sleepUntil (deadline : Nat) : Proc σ Unit
  /-- Waits until `ready` holds of the state. -/
  | await (ready : σ → Bool) : Proc σ Unit
  /-- Runs both until one finishes; the first is asked first and wins a tie. -/
  | race {α β : Type} (first : Proc σ α) (second : Proc σ β) : Proc σ (α ⊕ β)
  /-- Runs both to their ends, the first asked first. -/
  | both {α β : Type} (first : Proc σ α) (second : Proc σ β) : Proc σ (α × β)
  /-- Runs both to their ends, taking turns at being asked first: after every poll in which
  either of them moved, the other one is asked first. `swapped` says the second is asked
  first at the next poll. -/
  | fair {α β : Type} (first : Proc σ α) (second : Proc σ β) (swapped : Bool) : Proc σ (α × β)
  /-- Starts a detached task; `finish` is applied to the state when the task ends, with the
  reason when it halted. -/
  | spawn (task : Proc σ Unit) (finish : Option String → σ → σ) : Proc σ Unit
  /-- Ends the running task abruptly. -/
  | halt {α : Type} (reason : String) : Proc σ α

namespace Proc

instance : Monad (Proc σ) where
  pure := .pure
  bind := .bind

/-- Reads the state. -/
def read (f : σ → α) : Proc σ α := .update fun s => (f s, s)

/-- Changes the state. -/
def modify (f : σ → σ) : Proc σ Unit := .update fun s => ((), f s)

/-- What is left of a process after a poll. -/
inductive Polled (σ α : Type) : Type 1 where
  | done (a : α)
  | pending (rest : Proc σ α)
  | halted (reason : String)

/-- The process a poll left: a finished one is its value. -/
def Polled.rest : Polled σ α → Proc σ α
  | .done a => .pure a
  | .pending p => p
  | .halted r => .halt r

/-- What a poll carries along: the state, the tasks started (in order), and whether
anything happened. -/
structure Trace (σ : Type) : Type 1 where
  state : σ
  spawned : List (Proc σ Unit × (Option String → σ → σ)) := []
  moved : Bool := false

/-- Runs a process as far as it goes without time passing; `now` reads the virtual clock.
`fuel` bounds the steps taken; a process that uses it up halts. -/
def poll (now : σ → Nat) : {α : Type} → Nat → Proc σ α → Trace σ → Polled σ α × Trace σ
  | _, 0, _, t => (.halted "step budget exhausted", t)
  | _, fuel + 1, p, t =>
    match p with
    | .pure a => (.done a, t)
    | .update f =>
      let (a, s) := f t.state
      (.done a, { t with state := s, moved := true })
    | .sleepUntil d =>
      if d ≤ now t.state then (.done (), { t with moved := true }) else (.pending (.sleepUntil d), t)
    | .await ready =>
      if ready t.state then (.done (), { t with moved := true }) else (.pending (.await ready), t)
    | .race l r =>
      match poll now fuel l t with
      | (.done a, t) => (.done (.inl a), t)
      | (.halted m, t) => (.halted m, t)
      | (.pending l', t) =>
        match poll now fuel r t with
        | (.done b, t) => (.done (.inr b), t)
        | (.halted m, t) => (.halted m, t)
        | (.pending r', t) => (.pending (.race l' r'), t)
    | .both l r =>
      match poll now fuel l t with
      | (.halted m, t) => (.halted m, t)
      | (pl, t) =>
        match poll now fuel r t with
        | (.halted m, t) => (.halted m, t)
        | (pr, t) =>
          match pl, pr with
          | .done a, .done b => (.done (a, b), t)
          | _, _ => (.pending (.both pl.rest pr.rest), t)
    | .fair l r swapped =>
      let start := { t with moved := false }
      let (pl, pr, t') := if swapped then
          match poll now fuel r start with
          | (.halted m, t') => (Polled.halted m, Polled.halted m, t')
          | (pr, t1) =>
            let (pl, t2) := poll now fuel l t1
            (pl, pr, t2)
        else
          match poll now fuel l start with
          | (.halted m, t') => (Polled.halted m, Polled.halted m, t')
          | (pl, t1) =>
            let (pr, t2) := poll now fuel r t1
            (pl, pr, t2)
      let t'' := { t' with moved := t.moved || t'.moved }
      match pl, pr with
      | .halted m, _ | _, .halted m => (.halted m, t'')
      | .done a, .done b => (.done (a, b), t'')
      | _, _ => (.pending (.fair pl.rest pr.rest (swapped != t'.moved)), t'')
    | .spawn task fin =>
      (.done (), { t with spawned := t.spawned ++ [(task, fin)], moved := true })
    | .halt m => (.halted m, t)
    | .bind m k =>
      match poll now fuel m t with
      | (.done b, t) => poll now fuel (k b) { t with moved := true }
      | (.pending m', t) => (.pending (.bind m' k), t)
      | (.halted m, t) => (.halted m, t)

/-- The earliest point of time a waiting process waits for, if it waits for time. -/
def deadline? : Proc σ α → Option Nat
  | .sleepUntil d => some d
  | .bind m _ => m.deadline?
  | .race l r | .both l r | .fair l r _ =>
    match l.deadline?, r.deadline? with
    | some a, some b => some (Nat.min a b)
    | some a, none => some a
    | none, b => b
  | _ => none

end Proc

end Saga
