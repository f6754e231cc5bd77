import Saga.Proofs.Proc.Logic

/-!
# Ghost state beside a process

A property of the whole path of a run, such as how often some change happened, is not a
property of the state a run ends in. It becomes one with ghost state: `Proc.ghost g p` runs
`p` with a value of type `γ` beside the state, and every change of the state that a process
makes, by an update or by the end of a detached task, moves the ghost by `g` of the states
before and after. Waits and reads see the state alone, so the ghost never changes what runs.

`poll_ghost` and `runRounds_ghost` say that the scheduler runs the ghost process exactly as it
runs the process: forgetting the ghost gives the same outcome and state. `wp_ghost` carries a
process's precondition over to the ghost process when a fact `J` of state and ghost together
is kept by every move the mode allows, and `Guarantee.runRounds_ghost` puts the two together:
every run of a sound process, cut after any number of rounds, ends with `J` of its state and
its ghost when it started with `J`.

A ghost that only the main process moves, by updates of its own, needs no promise of the state:
`Pact.ghostAside` asks nothing of it and has the tasks keep the ghost, and `Pact.wp_aside` says
that a process run with the ghost aside (`aside p`) reaches whatever holds wherever the others
may move the state.
-/

namespace Saga.Proc

variable {σ γ : Type} (g : σ → σ → γ → γ)

/-- The end of a task, with the ghost moved by the change it makes. -/
def ghostFinish (fin : Option String → σ → σ) (reason : Option String) (x : σ × γ) : σ × γ :=
  (fin reason x.1, g x.1 (fin reason x.1) x.2)

/-- Process `p` with ghost state beside its state: each change it makes to the state moves the
ghost by `g` of the states before and after. -/
def ghost : {α : Type} → Proc σ α → Proc (σ × γ) α
  | _, .pure a => .pure a
  | _, .bind p k => .bind (ghost p) fun b => ghost (k b)
  | _, .update f => .update fun x => ((f x.1).1, ((f x.1).2, g x.1 (f x.1).2 x.2))
  | _, .sleepUntil d => .sleepUntil d
  | _, .await ready => .await fun x => ready x.1
  | _, .race l r => .race (ghost l) (ghost r)
  | _, .both l r => .both (ghost l) (ghost r)
  | _, .fair l r swapped => .fair (ghost l) (ghost r) swapped
  | _, .spawn t fin => .spawn (ghost t) (ghostFinish g fin)
  | _, .halt reason => .halt reason

/-- What a poll leaves, with ghost state. -/
def Polled.ghost {α : Type} : Polled σ α → Polled (σ × γ) α
  | .done a => .done a
  | .pending p => .pending (Proc.ghost g p)
  | .halted reason => .halted reason

/-- A trace with ghost `x` beside its state and its tasks run with ghost state. -/
def Trace.ghost (t : Trace σ) (x : γ) : Trace (σ × γ) where
  state := (t.state, x)
  spawned := t.spawned.map fun e => (Proc.ghost g e.1, ghostFinish g e.2)
  moved := t.moved

/-- A detached task with ghost state. -/
def Task.ghost (task : Task σ) : Task (σ × γ) := ⟨Proc.ghost g task.body, ghostFinish g task.finish⟩

/-! ## The scheduler runs the ghost process as it runs the process -/

section Simulation

variable {g}

theorem Polled.rest_ghost {α : Type} (p : Polled σ α) : (p.ghost g).rest = Proc.ghost g p.rest := by
  cases p <;> rfl

theorem deadline_ghost : ∀ {α : Type} (p : Proc σ α), (ghost g p).deadline? = p.deadline?
  | _, .pure _ | _, .update _ | _, .sleepUntil _ | _, .await _ | _, .spawn _ _ | _, .halt _ => rfl
  | _, .bind p _ => deadline_ghost p
  | _, .race l r | _, .both l r | _, .fair l r _ => by
    simp only [ghost, deadline?, deadline_ghost l, deadline_ghost r]

variable (now : σ → Nat)

/-- A poll of the ghost process is the poll of the process, with some ghost beside its end. -/
theorem poll_ghost : ∀ (fuel : Nat) {α : Type} (p : Proc σ α) (t : Trace σ) (x : γ),
    ∃ x', poll (fun y => now y.1) fuel (ghost g p) (t.ghost g x) =
      ((poll now fuel p t).1.ghost g, (poll now fuel p t).2.ghost g x')
  | 0, _, _, _, x => ⟨x, by simp only [poll]; rfl⟩
  | fuel + 1, _, p, t, x => by
    cases p with
    | pure a => exact ⟨x, by simp only [poll, ghost]; rfl⟩
    | update f => exact ⟨g t.state (f t.state).2 x, by simp only [poll, ghost]; rfl⟩
    | sleepUntil d =>
      refine ⟨x, ?_⟩
      by_cases hd : d ≤ now t.state <;> simp only [poll, ghost, Trace.ghost, hd, if_true, if_false] <;> rfl
    | await ready =>
      refine ⟨x, ?_⟩
      by_cases hr : ready t.state <;> simp only [poll, ghost, Trace.ghost, hr, if_true] <;> rfl
    | spawn task fin => exact ⟨x, by simp only [poll, ghost, Trace.ghost, List.map_append]; rfl⟩
    | halt reason => exact ⟨x, by simp only [poll, ghost]; rfl⟩
    | bind m k =>
      obtain ⟨x₁, h₁⟩ := poll_ghost fuel m t x
      simp only [poll, ghost]
      rw [h₁]
      rcases hm : poll now fuel m t with ⟨pm, t₁⟩
      cases pm with
      | done b => exact poll_ghost fuel (k b) { t₁ with moved := true } x₁
      | pending m' => exact ⟨x₁, rfl⟩
      | halted reason => exact ⟨x₁, rfl⟩
    | race l r =>
      obtain ⟨x₁, h₁⟩ := poll_ghost fuel l t x
      simp only [poll, ghost]
      rw [h₁]
      rcases hl : poll now fuel l t with ⟨pl, t₁⟩
      cases pl with
      | done a => exact ⟨x₁, rfl⟩
      | halted reason => exact ⟨x₁, rfl⟩
      | pending l' =>
        obtain ⟨x₂, h₂⟩ := poll_ghost fuel r t₁ x₁
        dsimp only [Polled.ghost]
        rw [h₂]
        rcases poll now fuel r t₁ with ⟨pr, t₂⟩
        cases pr <;> exact ⟨x₂, rfl⟩
    | both l r =>
      obtain ⟨x₁, h₁⟩ := poll_ghost fuel l t x
      simp only [poll, ghost]
      rw [h₁]
      rcases poll now fuel l t with ⟨pl, t₁⟩
      -- a halted first part halts the pair; otherwise the second part is polled after it
      obtain ⟨x₂, h₂⟩ := poll_ghost fuel r t₁ x₁
      cases pl with
      | halted reason => exact ⟨x₁, rfl⟩
      | done a | pending l' =>
        dsimp only [Polled.ghost]
        rw [h₂]
        rcases poll now fuel r t₁ with ⟨pr, t₂⟩
        cases pr <;> exact ⟨x₂, rfl⟩
    | fair l r swapped =>
      -- the part asked first starts from the trace with nothing moved yet
      have hstart : ({ state := (t.ghost g x).state, spawned := (t.ghost g x).spawned } : Trace (σ × γ)) =
          Trace.ghost g { state := t.state, spawned := t.spawned } x := rfl
      cases swapped
      · obtain ⟨x₁, h₁⟩ := poll_ghost fuel l { state := t.state, spawned := t.spawned } x
        simp only [poll, ghost, Bool.false_eq_true, if_false, hstart]
        rw [h₁]
        rcases poll now fuel l { state := t.state, spawned := t.spawned } with ⟨pl, t₁⟩
        obtain ⟨x₂, h₂⟩ := poll_ghost fuel r t₁ x₁
        cases pl with
        | halted reason => exact ⟨x₁, rfl⟩
        | done a | pending l' =>
          dsimp only [Polled.ghost]
          rw [h₂]
          rcases poll now fuel r t₁ with ⟨pr, t₂⟩
          cases pr <;> exact ⟨x₂, rfl⟩
      · obtain ⟨x₁, h₁⟩ := poll_ghost fuel r { state := t.state, spawned := t.spawned } x
        simp only [poll, ghost, if_true, hstart]
        rw [h₁]
        rcases poll now fuel r { state := t.state, spawned := t.spawned } with ⟨pr, t₁⟩
        obtain ⟨x₂, h₂⟩ := poll_ghost fuel l t₁ x₁
        cases pr with
        | halted reason => exact ⟨x₁, rfl⟩
        | done b | pending r' =>
          dsimp only [Polled.ghost]
          rw [h₂]
          rcases poll now fuel l t₁ with ⟨pl, t₂⟩
          cases pl <;> exact ⟨x₂, rfl⟩

/-- Polling the tasks of a round with ghost state is polling them, with some ghost beside the
end. -/
theorem pollEach_ghost : ∀ (tasks : List (Task σ)) (tr : Trace σ) (x : γ),
    ∃ x', pollEach (fun y => now y.1) (tasks.map (Task.ghost g)) (tr.ghost g x) =
      ((pollEach now tasks tr).1.map (Task.ghost g), (pollEach now tasks tr).2.ghost g x')
  | [], _, x => ⟨x, rfl⟩
  | task :: rest, tr, x => by
    obtain ⟨x₁, h₁⟩ := poll_ghost now stepBudget task.body tr x
    simp only [List.map_cons, pollEach, Task.ghost]
    rw [h₁]
    rcases poll now stepBudget task.body tr with ⟨pb, t₁⟩
    cases pb with
    | pending body =>
      obtain ⟨x₂, h₂⟩ := pollEach_ghost rest t₁ x₁
      dsimp only [Polled.ghost]
      erw [h₂]
      exact ⟨x₂, rfl⟩
    | done u =>
      obtain ⟨x₂, h₂⟩ := pollEach_ghost rest
        { t₁ with state := task.finish none t₁.state, moved := true } (g t₁.state (task.finish none t₁.state) x₁)
      dsimp only [Polled.ghost]
      erw [h₂]
      exact ⟨x₂, rfl⟩
    | halted reason =>
      obtain ⟨x₂, h₂⟩ := pollEach_ghost rest
        { t₁ with state := task.finish (some reason) t₁.state, moved := true }
        (g t₁.state (task.finish (some reason) t₁.state) x₁)
      dsimp only [Polled.ghost]
      erw [h₂]
      exact ⟨x₂, rfl⟩

/-- A whole round with ghost state is the round, with some ghost beside its end. -/
theorem pollRound_ghost : ∀ (batches : Nat) (tasks : List (Task σ)) (tr : Trace σ) (x : γ),
    ∃ x', pollRound (fun y => now y.1) batches (tasks.map (Task.ghost g)) (tr.ghost g x) =
      ((pollRound now batches tasks tr).1.map (Task.ghost g), (pollRound now batches tasks tr).2.ghost g x')
  | 0, tasks, tr, x => ⟨x, by simp [pollRound, Trace.ghost, Task.ghost]⟩
  | batches + 1, tasks, tr, x => by
    obtain ⟨x₁, h₁⟩ := pollEach_ghost now tasks tr x
    simp only [pollRound]
    rw [h₁]
    rcases pollEach now tasks tr with ⟨kept, t₁⟩
    dsimp only
    cases hs : t₁.spawned with
    | nil =>
      have hs' : (t₁.ghost g x₁).spawned = [] := by simp [Trace.ghost, hs]
      rw [hs']
      exact ⟨x₁, rfl⟩
    | cons e es =>
      -- the tasks started meanwhile are polled in the same round, from the trace without them
      have hs' : (t₁.ghost g x₁).spawned = (e :: es).map fun e => (ghost g e.1, ghostFinish g e.2) := by
        simp [Trace.ghost, hs]
      obtain ⟨x₂, h₂⟩ := pollRound_ghost batches ((e :: es).map fun e => ⟨e.1, e.2⟩) { t₁ with spawned := [] } x₁
      rw [hs']
      simp only [List.map_cons, List.map_map] at h₂ ⊢
      erw [h₂]
      exact ⟨x₂, by simp only [List.map_append]⟩

variable (setNow : Nat → σ → σ)

/-- Rounds of the scheduler run the ghost process and its tasks as they run the process and its
tasks, with the clock set beside the ghost: forgetting the ghost gives the same ending and
state. -/
theorem runRounds_ghost : ∀ (rounds : Nat) {α : Type} (main : Proc σ α) (tasks : List (Task σ)) (s : σ) (x : γ),
    ∃ x', runRounds (fun y => now y.1) (fun n y => (setNow n y.1, y.2)) rounds (ghost g main)
        (tasks.map (Task.ghost g)) (s, x) =
      ((runRounds now setNow rounds main tasks s).1, ((runRounds now setNow rounds main tasks s).2, x'))
  | 0, _, _, _, _, x => ⟨x, rfl⟩
  | rounds + 1, _, main, tasks, s, x => by
    obtain ⟨x₁, h₁⟩ := poll_ghost now stepBudget main { state := s } x
    have hstart : ({ state := (s, x) } : Trace (σ × γ)) = Trace.ghost g { state := s } x := rfl
    simp only [runRounds]
    rw [hstart, h₁]
    rcases poll now stepBudget main { state := s } with ⟨pm, t₁⟩
    cases pm with
    | done a => exact ⟨x₁, rfl⟩
    | halted reason => exact ⟨x₁, rfl⟩
    | pending main' =>
      obtain ⟨x₂, h₂⟩ := pollRound_ghost now 64 tasks t₁ x₁
      dsimp only [Polled.ghost]
      rw [h₂]
      rcases pollRound now 64 tasks t₁ with ⟨tasks', t₂⟩
      dsimp only
      have hmoved : (t₂.ghost g x₂).moved = t₂.moved := rfl
      have hdeadlines : (ghost g main').deadline? :: (tasks'.map (Task.ghost g)).map (fun t => t.body.deadline?) =
          main'.deadline? :: tasks'.map fun t => t.body.deadline? := by
        simp [Task.ghost, deadline_ghost]
      rw [hmoved, hdeadlines]
      split
      · exact runRounds_ghost rounds main' tasks' t₂.state x₂
      · split
        · exact ⟨x₂, rfl⟩
        · -- only the clock moves: it is set beside the ghost
          exact runRounds_ghost rounds main' tasks' _ x₂

end Simulation

/-! ## Carrying a precondition over to the ghost process -/

section Transfer

variable (J : σ × γ → Prop)

/-- Mode `m` with a ghost beside the state: each move of it moves the state by a move of `m`,
and keeps `J` when `J` held. -/
def Mode.ghost (m : Mode σ) : Mode (σ × γ) where
  rely a b := m.rely a.1 b.1 ∧ (J a → J b)
  own a b := m.own a.1 b.1 ∧ (J a → J b)
  part a b := m.part a.1 b.1 ∧ (J a → J b)
  rely_refl _ := ⟨m.rely_refl _, id⟩
  rely_trans h₁ h₂ := ⟨m.rely_trans h₁.1 h₂.1, h₂.2 ∘ h₁.2⟩
  own_refl _ := ⟨m.own_refl _, id⟩
  own_trans h₁ h₂ := ⟨m.own_trans h₁.1 h₂.1, h₂.2 ∘ h₁.2⟩
  part_refl _ := ⟨m.part_refl _, id⟩
  part_trans h₁ h₂ := ⟨m.part_trans h₁.1 h₂.1, h₂.2 ∘ h₁.2⟩
  part_rely h := ⟨m.part_rely h.1, h.2⟩
  part_own h := ⟨m.part_own h.1, h.2⟩

/-- Pact `P` with a ghost beside the state: its invariant of the state, and `J` of both. -/
def Pact.ghost (P : Pact σ) : Pact (σ × γ) := ⟨fun x => P.inv x.1 ∧ J x, P.task.ghost J⟩

/-- Every move of mode `m` keeps `J` when the ghost moves by `g`. -/
def Counts (m : Mode σ) : Prop := ∀ s s' x, m.own s s' → J (s, x) → J (s', g s s' x)

variable {g J}

theorem Counts.narrow {m : Mode σ} (h : Counts g J m) : Counts g J m.narrow :=
  fun s s' x hm hJ => h s s' x (m.part_own hm) hJ

variable {P : Pact σ} (htask : Counts g J P.task)

include htask in
/-- Ending a task keeps the pact with the ghost moved by the end. -/
theorem Pact.ends_ghost {fin : Option String → σ → σ} {reason : Option String} {y : σ × γ}
    (h : P.Ends fin reason y.1) (hJ : J y) : (P.ghost J).Ends (ghostFinish g fin) reason y :=
  have hJ' := htask y.1 (fin reason y.1) y.2 h.2 hJ
  ⟨⟨h.1, hJ'⟩, h.2, fun _ => hJ'⟩

include htask in
/-- A precondition of a process is one of the ghost process, for the same postcondition of the
state together with `J`, when `J` holds at the start and every move of the mode and of the
tasks keeps it. -/
theorem Pact.wp_ghost : ∀ (m : Mode σ), Counts g J m → ∀ {α : Type} (p : Proc σ α)
    (post : α → σ → Prop) (s : σ) (x : γ), P.wp m p post s → J (s, x) →
      (P.ghost J).wp (m.ghost J) (Proc.ghost g p) (fun a y => post a y.1 ∧ J y) (s, x)
  | _, _, _, .pure _, _, _, _, h, hJ => ⟨h, hJ⟩
  | m, hm, _, .bind p k, post, s, x, h, hJ =>
    Pact.wp_mono _ (Proc.ghost g p) (fun b y hy => Pact.wp_ghost m hm (k b) post y.1 y.2 hy.1 hy.2) (s, x)
      (Pact.wp_ghost m hm p _ s x h hJ)
  | _, hm, _, .update f, _, s, x, h, hJ =>
    have hJ' := hm s (f s).2 x h.2.1 hJ
    ⟨⟨h.1, hJ'⟩, ⟨h.2.1, fun _ => hJ'⟩, h.2.2, hJ'⟩
  | _, _, _, .sleepUntil _, _, _, _, h, _ => fun y hy hi => ⟨h y.1 hy.1 hi.1, hi.2⟩
  | _, _, _, .await _, _, _, _, h, _ => fun y hy hi hr => ⟨h y.1 hy.1 hi.1 hr, hi.2⟩
  | m, hm, _, .race l r, _, s, x, h, hJ =>
    ⟨Pact.wp_ghost m.narrow hm.narrow l _ s x h.1 hJ,
      fun y hy hi => Pact.wp_ghost m.narrow hm.narrow r _ y.1 y.2 (h.2 y.1 hy.1 hi.1) hi.2⟩
  | m, hm, _, .both l r, _, _, _, h, _ | m, hm, _, .fair l r _, _, _, _, h, _ => by
    -- each part reaches its result together with `J`, which the others keep
    obtain ⟨Q₁, Q₂, h₁, h₂, hl, hr, hpost⟩ := h
    exact ⟨fun a y => Q₁ a y.1 ∧ J y, fun b y => Q₂ b y.1 ∧ J y,
      fun a y y' hy hm' hi => ⟨h₁ a y.1 y'.1 hy.1 hm'.1 hi.1, hi.2⟩,
      fun b y y' hy hm' hi => ⟨h₂ b y.1 y'.1 hy.1 hm'.1 hi.1, hi.2⟩,
      fun y hy hi => Pact.wp_ghost m.narrow hm.narrow l _ y.1 y.2 (hl y.1 hy.1 hi.1) hi.2,
      fun y hy hi => Pact.wp_ghost m.narrow hm.narrow r _ y.1 y.2 (hr y.1 hy.1 hi.1) hi.2,
      fun a b y hq₁ hq₂ => ⟨hpost a b y.1 hq₁.1 hq₂.1, hq₁.2⟩⟩
  | _, _, _, .spawn t fin, _, _, _, h, hJ =>
    ⟨⟨h.1, hJ⟩,
      fun y hy hi => Pact.wp_mono _ (Proc.ghost g t) (fun _ z hz => Pact.ends_ghost htask hz.1 hz.2) y
        (Pact.wp_ghost P.task htask t _ y.1 y.2 (h.2.1 y.1 hy.1 hi.1) hi.2),
      fun reason y hi => Pact.ends_ghost htask (h.2.2 reason y.1 hi.1) hi.2⟩
  | _, _, _, .halt _, _, _, _, _, _ => trivial

end Transfer

/-- Every run of a sound process of a symmetric promise, with ghost state beside it and cut
after any number of rounds, is the run of the process, and ends with `J` of its state and its
ghost, when `J` held at the start and is kept by every move of the promise and every setting of
the clock. -/
theorem Guarantee.runRounds_ghost_keeps (G : Guarantee σ) (J : σ × γ → Prop) (now : σ → Nat)
    (setNow : Nat → σ → σ) (hset : ∀ n s, G.inv s → G.inv (setNow n s) ∧ G.moves s (setNow n s))
    (hcount : ∀ s s' x, G.moves s s' → J (s, x) → J (s', g s s' x))
    (hsetJ : ∀ n s x, J (s, x) → J (setNow n s, x)) {α : Type} {main : Proc σ α} (hmain : G.Sound main)
    (rounds : Nat) {s : σ} {x : γ} (hi : G.inv s) (hJ : J (s, x)) :
    ∃ x', runRounds (fun y => now y.1) (fun n y => (setNow n y.1, y.2)) rounds (ghost g main) [] (s, x) =
        ((runRounds now setNow rounds main [] s).1, ((runRounds now setNow rounds main [] s).2, x')) ∧
      J ((runRounds now setNow rounds main [] s).2, x') := by
  have hc : Counts g J G.mode := hcount
  obtain ⟨x', hrun⟩ := runRounds_ghost now setNow rounds main [] s x
  have hwp := Pact.wp_ghost (P := G.pact) hc G.mode hc main _ s x
    (hmain (fun _ => True) (fun _ _ _ _ _ => trivial) s hi trivial) hJ
  have hsound := Pact.runRounds_sound (P := G.pact.ghost J) (fun y => now y.1) id
    (fun n y => (setNow n y.1, y.2)) (m := G.mode.ghost J) id id
    (fun n y hy => ⟨⟨(hset n y.1 hy.1).1, hsetJ n y.1 y.2 hy.2⟩, ⟨(hset n y.1 hy.1).2, hsetJ n y.1 y.2⟩,
      ⟨(hset n y.1 hy.1).2, hsetJ n y.1 y.2⟩⟩)
    rounds (ghost g main) [] (s, x) _ ⟨hi, hJ⟩ hwp (by simp)
  rw [List.map_nil] at hrun
  rw [hrun] at hsound
  exact ⟨x', hrun, hsound.1.2⟩

/-! ## Ghost state that only the main process moves -/

section Aside

variable (σ γ)

/-- Detached tasks that put up with anything and never touch the ghost. -/
def Mode.keepGhost : Mode (σ × γ) where
  rely _ _ := True
  own a b := b.2 = a.2
  part a b := b.2 = a.2
  rely_refl _ := trivial
  rely_trans _ _ := trivial
  own_refl _ := rfl
  own_trans h₁ h₂ := h₂.trans h₁
  part_refl _ := rfl
  part_trans h₁ h₂ := h₂.trans h₁
  part_rely _ := trivial
  part_own h := h

/-- What processes with a ghost aside promise each other: nothing of the state, and tasks that
keep the ghost. -/
def Pact.ghostAside : Pact (σ × γ) := ⟨fun _ => True, Mode.keepGhost σ γ⟩

variable {σ γ}

/-- Process `p` with a ghost beside it that none of its changes move. -/
def aside {α : Type} (p : Proc σ α) : Proc (σ × γ) α := ghost (fun _ _ x => x) p

/-- A process run with the ghost aside reaches every postcondition that holds wherever the
others may have moved, in any mode whose parts may keep the ghost and which puts up with keeping
it. -/
theorem Pact.wp_aside : ∀ (m : Mode (σ × γ)), (∀ a b : σ × γ, b.2 = a.2 → m.part a b) →
    (∀ a b : σ × γ, b.2 = a.2 → m.rely a b) → ∀ {α : Type} (p : Proc σ α)
    (post : α → σ × γ → Prop) (s : σ × γ), (∀ a s', m.rely s s' → post a s') →
      (Pact.ghostAside σ γ).wp m (aside p) post s
  | m, _, _, _, .pure a, _, s, h => h a s (m.rely_refl s)
  | m, hp, hr, _, .bind p k, post, s, h =>
    Pact.wp_aside m hp hr p _ s fun b s' hs' =>
      Pact.wp_aside m hp hr (k b) post s' fun a s'' hs'' => h a s'' (m.rely_trans hs' hs'')
  | m, hp, hr, _, .update _, _, _, h => ⟨trivial, m.part_own (hp _ _ rfl), h _ _ (hr _ _ rfl)⟩
  | _, _, _, _, .sleepUntil _, _, _, h => fun s' hs' _ => h () s' hs'
  | _, _, _, _, .await _, _, _, h => fun s' hs' _ _ => h () s' hs'
  | m, hp, hr, _, .race l r, _, s, h =>
    ⟨Pact.wp_aside m.narrow hp hr l _ s fun _ s' hs' => h _ s' hs',
      fun s' hs' _ => Pact.wp_aside m.narrow hp hr r _ s' fun _ s'' hs'' => h _ s'' (m.rely_trans hs' hs'')⟩
  | m, hp, hr, _, .both l r, _, s, h | m, hp, hr, _, .fair l r _, _, s, h =>
    -- each part ends wherever the others may have moved from the start
    ⟨fun _ s' => m.rely s s', fun _ s' => m.rely s s',
      fun _ _ _ h₁ h₂ _ => m.rely_trans h₁ h₂, fun _ _ _ h₁ h₂ _ => m.rely_trans h₁ h₂,
      fun s' hs' _ => Pact.wp_aside m.narrow hp hr l _ s' fun _ _ hs'' => m.rely_trans hs' hs'',
      fun s' hs' _ => Pact.wp_aside m.narrow hp hr r _ s' fun _ _ hs'' => m.rely_trans hs' hs'',
      fun a b s' h₁ _ => h (a, b) s' h₁⟩
  | m, _, _, _, .spawn t _, _, s, h =>
    ⟨h () s (m.rely_refl s),
      fun s' _ _ => Pact.wp_aside (Mode.keepGhost σ γ) (fun _ _ h => h) (fun _ _ _ => trivial) t _ s'
        fun _ _ _ => ⟨trivial, rfl⟩,
      fun _ _ _ => ⟨trivial, rfl⟩⟩
  | _, _, _, _, .halt _, _, _, _ => trivial

end Aside

end Saga.Proc
