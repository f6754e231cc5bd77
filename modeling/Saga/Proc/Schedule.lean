import Saga.Proc.Basic

/-!
# Running processes on a virtual clock

One main process and the detached tasks it starts run in rounds. A round polls the main
process first and then every task in the order it was started, tasks started during the
round included. Rounds repeat while anything happens. When nothing can happen any more, the
virtual clock jumps to the earliest point some process sleeps until, rounded up to a whole
millisecond, the resolution of the timers. The run ends when the main process ends; tasks
still waiting then are dropped.
-/

namespace Saga.Proc

/-- A detached task and what its end does to the state, given the reason when it halted. -/
structure Task (σ : Type) : Type 1 where
  body : Proc σ Unit
  finish : Option String → σ → σ

/-- How a run ends. -/
inductive Ending (α : Type) where
  | done (a : α)
  | halted (reason : String)
  /-- Nothing can happen and no process waits for time. -/
  | stuck
  /-- The round budget ran out. -/
  | exhausted

/-- The steps one poll may take. -/
def stepBudget : Nat := 1000000

/-- Nanoseconds in a millisecond. -/
def tick : Nat := 1000000

/-- The first whole millisecond at or after `t`. -/
def ceilTick (t : Nat) : Nat := (t + tick - 1) / tick * tick

/-- Polls each task once, in order; a task that ends leaves the list and applies its
finish. Returns the tasks still waiting. -/
def pollEach (now : σ → Nat) : List (Task σ) → Trace σ → List (Task σ) × Trace σ
  | [], tr => ([], tr)
  | task :: rest, tr =>
    let (kept, tr) := match poll now stepBudget task.body tr with
      | (.pending body, tr) => ([{ task with body := body }], tr)
      | (.done (), tr) => ([], { tr with state := task.finish none tr.state, moved := true })
      | (.halted r, tr) => ([], { tr with state := task.finish (some r) tr.state, moved := true })
    let (later, tr) := pollEach now rest tr
    (kept ++ later, tr)

/-- Polls the given tasks and then, within the same round, the tasks started meanwhile;
`batches` bounds how many generations of new tasks are reached. -/
def pollRound (now : σ → Nat) : Nat → List (Task σ) → Trace σ → List (Task σ) × Trace σ
  | 0, tasks, tr =>
    (tasks ++ tr.spawned.map (fun (b, f) => ⟨b, f⟩), { tr with spawned := [] })
  | batches + 1, tasks, tr =>
    let (kept, tr) := pollEach now tasks tr
    match tr.spawned with
    | [] => (kept, tr)
    | fresh =>
      let (more, tr) := pollRound now batches (fresh.map fun (b, f) => ⟨b, f⟩) { tr with spawned := [] }
      (kept ++ more, tr)

/-- The earliest deadline among waiting processes. -/
def earliest : List (Option Nat) → Option Nat
  | [] => none
  | some d :: rest => some (match earliest rest with
    | some e => Nat.min d e
    | none => d)
  | none :: rest => earliest rest

/-- Runs `main` with its tasks for at most `rounds` rounds. `now` reads the clock and
`setNow` sets it. -/
def runRounds (now : σ → Nat) (setNow : Nat → σ → σ) :
    Nat → Proc σ α → List (Task σ) → σ → Ending α × σ
  | 0, _, _, s => (.exhausted, s)
  | rounds + 1, main, tasks, s =>
    match poll now stepBudget main { state := s } with
    | (.done a, tr) => (.done a, tr.state)
    | (.halted r, tr) => (.halted r, tr.state)
    | (.pending main, tr) =>
      let (tasks, tr) := pollRound now 64 tasks tr
      if tr.moved then runRounds now setNow rounds main tasks tr.state
      else
        match earliest (main.deadline? :: tasks.map fun t => t.body.deadline?) with
        | none => (.stuck, tr.state)
        | some d =>
          let s := tr.state
          runRounds now setNow rounds main tasks (setNow (Nat.max (now s) (ceilTick d)) s)

/-- The rounds a run may take. -/
def roundBudget : Nat := 1000000

/-- Runs `main` and the tasks it starts on the virtual clock. -/
def run (now : σ → Nat) (setNow : Nat → σ → σ) (main : Proc σ α) (s : σ) : Ending α × σ :=
  runRounds now setNow roundBudget main [] s

end Saga.Proc
