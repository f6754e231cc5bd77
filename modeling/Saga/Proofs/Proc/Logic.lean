import Saga.Proc.Schedule

/-!
# A program logic for processes

Processes share one state and take turns: a poll runs a process until it waits, and between
two polls of it any other process may run (`Proc.poll`, `Proc.runRounds`). What they promise
each other is a `Pact`: an invariant that holds wherever a poll may stop, and the `Mode` of the
detached tasks. A mode says how a process stands to the others: the moves of the others it
puts up with, the moves it makes, and the moves its parts make while they run side by side. A
main process may make moves its tasks never make, such as writing a history, and rely on the
tasks leaving those parts of the state alone.

`Pact.wp` is the weakest precondition of a process in a mode. Between the updates of one poll
the state is the process's own, so `wp` relates a value to the state it was read from; across a
wait it keeps only what the others cannot change (`Pact.Always`, `Pact.Stable`). Parts run side
by side see each other as others, and a detached task runs in the tasks' mode.

`poll_sound` says that a poll keeps the promise, and `runRounds_sound` that rounds of the
scheduler do, from a main process whose `wp` holds. `Sound` processes keep the invariant and
every stable fact; they are closed under every combinator, so most processes are shown sound
rule by rule, and only the updates that use a value read earlier go through `wp`. A
`Guarantee` is the symmetric case, in which every process makes exactly the moves it puts up
with.
-/

namespace Saga.Proc

/-- How a process stands to the others: the moves of the others it puts up with (`rely`), the
moves it makes (`own`), and the moves its parts make while they run side by side (`part`),
which are moves of the whole that the other parts put up with. -/
structure Mode (σ : Type) where
  rely : σ → σ → Prop
  own : σ → σ → Prop
  part : σ → σ → Prop
  rely_refl : ∀ s, rely s s
  rely_trans : ∀ {a b c}, rely a b → rely b c → rely a c
  own_refl : ∀ s, own s s
  own_trans : ∀ {a b c}, own a b → own b c → own a c
  part_refl : ∀ s, part s s
  part_trans : ∀ {a b c}, part a b → part b c → part a c
  part_rely : ∀ {a b}, part a b → rely a b
  part_own : ∀ {a b}, part a b → own a b

namespace Mode

variable {σ : Type}

/-- The mode of the parts of a process run side by side: each puts up with what the whole
puts up with, and makes only the moves of a part. -/
def narrow (m : Mode σ) : Mode σ where
  rely := m.rely
  own := m.part
  part := m.part
  rely_refl := m.rely_refl
  rely_trans := m.rely_trans
  own_refl := m.part_refl
  own_trans := m.part_trans
  part_refl := m.part_refl
  part_trans := m.part_trans
  part_rely := m.part_rely
  part_own := id

/-- The mode of a process that makes exactly the moves it puts up with. -/
def same (r : σ → σ → Prop) (hrefl : ∀ s, r s s) (htrans : ∀ {a b c}, r a b → r b c → r a c) :
    Mode σ where
  rely := r
  own := r
  part := r
  rely_refl := hrefl
  rely_trans := htrans
  own_refl := hrefl
  own_trans := htrans
  part_refl := hrefl
  part_trans := htrans
  part_rely := id
  part_own := id

/-- A mode whose moves the tasks put up with. -/
def Fits (m task : Mode σ) : Prop := ∀ {a b}, m.own a b → task.rely a b

theorem Fits.narrow {m task : Mode σ} (h : m.Fits task) : m.narrow.Fits task :=
  fun hp => h (m.part_own hp)

end Mode

/-- What processes promise each other: every state a poll may stop in satisfies `inv`, and
detached tasks run in mode `task`. -/
structure Pact (σ : Type) where
  inv : σ → Prop
  task : Mode σ

namespace Pact

variable {σ : Type} (P : Pact σ)

/-- `Q` holds from `s` on, whatever the others do meanwhile. -/
def Always (m : Mode σ) (Q : σ → Prop) (s : σ) : Prop := ∀ s', m.rely s s' → P.inv s' → Q s'

/-- A fact the others cannot break. -/
def Stable (m : Mode σ) (Q : σ → Prop) : Prop := ∀ s s', Q s → m.rely s s' → P.inv s' → Q s'

/-- Ending a task with `fin` keeps the promise. -/
def Ends (fin : Option String → σ → σ) (reason : Option String) (s : σ) : Prop :=
  P.inv (fin reason s) ∧ P.task.own s (fin reason s)

/-- Two parts run side by side reach `post` together: each reaches a stable result from
wherever it is first polled, and two results give `post`. -/
def Joins {α β : Type} (m : Mode σ) (wl : (α → σ → Prop) → σ → Prop)
    (wr : (β → σ → Prop) → σ → Prop) (post : α × β → σ → Prop) (s : σ) : Prop :=
  ∃ (Q₁ : α → σ → Prop) (Q₂ : β → σ → Prop), (∀ a, P.Stable m (Q₁ a)) ∧ (∀ b, P.Stable m (Q₂ b)) ∧
    P.Always m (wl Q₁) s ∧ P.Always m (wr Q₂) s ∧ ∀ a b s', Q₁ a s' → Q₂ b s' → post (a, b) s'

/-- The weakest precondition of a process in mode `m` for `post`: every update keeps the
invariant and is a move of the mode, every wait may be followed by moves of the others, and a
value reaches `post` with the state it was produced in. Of a race, the second part is first
polled after the first one waited. A detached task runs in the tasks' mode from wherever it
starts up to its end, and a halt ends the process with nothing to show. -/
def wp : Mode σ → {α : Type} → Proc σ α → (α → σ → Prop) → σ → Prop
  | _, _, .pure a, post, s => post a s
  | m, _, .bind p k, post, s => wp m p (fun b => wp m (k b) post) s
  | m, _, .update f, post, s => P.inv (f s).2 ∧ m.own s (f s).2 ∧ post (f s).1 (f s).2
  | m, _, .sleepUntil _, post, s => P.Always m (post ()) s
  | m, _, .await ready, post, s => P.Always m (fun s' => ready s' = true → post () s') s
  | m, _, .race l r, post, s =>
    wp m.narrow l (fun a => post (.inl a)) s ∧ P.Always m (wp m.narrow r fun b => post (.inr b)) s
  | m, _, .both l r, post, s => P.Joins m (wp m.narrow l) (wp m.narrow r) post s
  | m, _, .fair l r _, post, s => P.Joins m (wp m.narrow l) (wp m.narrow r) post s
  | _, _, .spawn t fin, post, s =>
    post () s ∧ P.Always P.task (wp P.task t fun _ => P.Ends fin none) s ∧
      ∀ reason s', P.inv s' → P.Ends fin (some reason) s'
  | _, _, .halt _, _, _ => True

variable {P}

theorem Always.move {m : Mode σ} {Q : σ → Prop} {s s' : σ} (h : P.Always m Q s) (hm : m.rely s s') :
    P.Always m Q s' :=
  fun s'' hm' hi => h s'' (m.rely_trans hm hm') hi

theorem Always.now {m : Mode σ} {Q : σ → Prop} {s : σ} (h : P.Always m Q s) (hi : P.inv s) : Q s :=
  h s (m.rely_refl s) hi

theorem Always.mono {m : Mode σ} {Q Q' : σ → Prop} {s : σ} (h : P.Always m Q s)
    (hQ : ∀ s, Q s → Q' s) : P.Always m Q' s :=
  fun s' hm hi => hQ s' (h s' hm hi)

/-- A stronger postcondition gives a stronger precondition. -/
theorem wp_mono : ∀ (m : Mode σ) {α : Type} (p : Proc σ α) {Q Q' : α → σ → Prop},
    (∀ a s, Q a s → Q' a s) → ∀ s, P.wp m p Q s → P.wp m p Q' s
  | _, _, .pure _, _, _, h, s, hp => h _ s hp
  | m, _, .bind p _, _, _, h, s, hp => wp_mono m p (fun b s' => wp_mono m _ h s') s hp
  | _, _, .update _, _, _, h, _, hp => ⟨hp.1, hp.2.1, h _ _ hp.2.2⟩
  | _, _, .sleepUntil _, _, _, h, _, hp => hp.mono fun s' => h () s'
  | _, _, .await _, _, _, h, _, hp => hp.mono fun s' hr hready => h () s' (hr hready)
  | m, _, .race l r, _, _, h, s, hp =>
    ⟨wp_mono m.narrow l (fun a => h (.inl a)) s hp.1,
      hp.2.mono fun s' => wp_mono m.narrow r (fun b => h (.inr b)) s'⟩
  | _, _, .both _ _, _, _, h, _, hp => by
    obtain ⟨Q₁, Q₂, h₁, h₂, hl, hr, hpost⟩ := hp
    exact ⟨Q₁, Q₂, h₁, h₂, hl, hr, fun a b s' ha hb => h _ s' (hpost a b s' ha hb)⟩
  | _, _, .fair _ _ _, _, _, h, _, hp => by
    obtain ⟨Q₁, Q₂, h₁, h₂, hl, hr, hpost⟩ := hp
    exact ⟨Q₁, Q₂, h₁, h₂, hl, hr, fun a b s' ha hb => h _ s' (hpost a b s' ha hb)⟩
  | _, _, .spawn _ _, _, _, h, s, hp => ⟨h () s hp.1, hp.2⟩
  | _, _, .halt _, _, _, _, _, _ => trivial

/-! ## Polls keep the promise -/

variable (P)

/-- A detached task, its body and its finish, can run from `s` on. -/
def Safe (s : σ) (body : Proc σ Unit) (fin : Option String → σ → σ) : Prop :=
  P.Always P.task (P.wp P.task body fun _ => P.Ends fin none) s ∧
    ∀ reason s', P.inv s' → P.Ends fin (some reason) s'

/-- From state `s`, a poll in mode `m` that stopped with trace `t` kept the promise: it stopped
in the invariant, by moves of the mode, and every task started so far can run from there. -/
structure Keeps (m : Mode σ) (s : σ) (t : Trace σ) : Prop where
  inv : P.inv t.state
  moves : m.own s t.state
  tasks : ∀ x ∈ t.spawned, P.Safe t.state x.1 x.2

/-- What a poll in mode `m` leaves of a process whose precondition for `post` held. -/
def Outcome (m : Mode σ) {α : Type} (post : α → σ → Prop) : Polled σ α → σ → Prop
  | .done a, s => post a s
  | .pending rest, s => P.Always m (P.wp m rest post) s
  | .halted _, _ => True

variable {P}

theorem Safe.move {s s' : σ} {body : Proc σ Unit} {fin : Option String → σ → σ}
    (h : P.Safe s body fin) (hm : P.task.rely s s') : P.Safe s' body fin :=
  ⟨h.1.move hm, h.2⟩

theorem Keeps.start {m : Mode σ} {t : Trace σ} (hi : P.inv t.state)
    (ht : ∀ x ∈ t.spawned, P.Safe t.state x.1 x.2) : P.Keeps m t.state t :=
  ⟨hi, m.own_refl _, ht⟩

theorem Keeps.trans {m : Mode σ} {s : σ} {t₁ t₂ : Trace σ} (h₁ : P.Keeps m s t₁)
    (h₂ : P.Keeps m t₁.state t₂) : P.Keeps m s t₂ :=
  ⟨h₂.inv, m.own_trans h₁.moves h₂.moves, h₂.tasks⟩

theorem Keeps.moved {m : Mode σ} {s : σ} {t : Trace σ} (h : P.Keeps m s t) (b : Bool) :
    P.Keeps m s { t with moved := b } :=
  ⟨h.inv, h.moves, h.tasks⟩

/-- A poll of a part, seen as a poll of the whole. -/
theorem Keeps.of_part {m : Mode σ} {s : σ} {t : Trace σ} (h : P.Keeps m.narrow s t) : P.Keeps m s t :=
  ⟨h.inv, m.part_own h.moves, h.tasks⟩

/-- An update of the state by a move of the mode, with the tasks unchanged. -/
theorem Keeps.update {m : Mode σ} (hfit : m.Fits P.task) {t : Trace σ} {s : σ}
    (ht : ∀ x ∈ t.spawned, P.Safe t.state x.1 x.2) (hi : P.inv s) (hm : m.own t.state s) (b : Bool) :
    P.Keeps m t.state { t with state := s, moved := b } :=
  ⟨hi, hm, fun x hx => (ht x hx).move (hfit hm)⟩

/-- What is left of a part of `both` or `fair` that did not halt, from a later state. -/
theorem Outcome.rest {m : Mode σ} {α : Type} {Q : α → σ → Prop} (hQ : ∀ a, P.Stable m (Q a))
    {pl : Polled σ α} {s s' : σ} (ho : P.Outcome m.narrow Q pl s) (hm : m.rely s s')
    (hne : ∀ r, pl ≠ .halted r) : P.Always m (P.wp m.narrow pl.rest Q) s' := by
  cases pl with
  | done a => exact fun s'' hm' hi => hQ a s s'' ho (m.rely_trans hm hm') hi
  | pending l => exact Always.move ho hm
  | halted r => exact absurd rfl (hne r)

/-- Two parts polled side by side, neither halted and not both done, each with its outcome at
a state that moves to `s`: what is left of them joins again from `s` on. -/
theorem Outcome.joins {m : Mode σ} {α β : Type} {Q₁ : α → σ → Prop} {Q₂ : β → σ → Prop}
    {post : α × β → σ → Prop} (h₁ : ∀ a, P.Stable m (Q₁ a)) (h₂ : ∀ b, P.Stable m (Q₂ b))
    (hpost : ∀ a b s, Q₁ a s → Q₂ b s → post (a, b) s) {pl : Polled σ α} {pr : Polled σ β}
    {s₁ s₂ s : σ} (ol : P.Outcome m.narrow Q₁ pl s₁) (hm₁ : m.rely s₁ s) (hl : ∀ r, pl ≠ .halted r)
    (or : P.Outcome m.narrow Q₂ pr s₂) (hm₂ : m.rely s₂ s) (hr : ∀ r, pr ≠ .halted r) :
    P.Always m (P.Joins m (P.wp m.narrow pl.rest) (P.wp m.narrow pr.rest) post) s :=
  fun _ hm _ => ⟨Q₁, Q₂, h₁, h₂, (ol.rest h₁ hm₁ hl).move hm, (or.rest h₂ hm₂ hr).move hm, hpost⟩

/-- Two parts that are both done, the first one earlier, give the whole's result. -/
theorem Outcome.both_done {m : Mode σ} {α β : Type} {Q₁ : α → σ → Prop} {Q₂ : β → σ → Prop}
    {post : α × β → σ → Prop} (h₁ : ∀ a, P.Stable m (Q₁ a))
    (hpost : ∀ a b s, Q₁ a s → Q₂ b s → post (a, b) s) {a : α} {b : β} {s₁ s : σ}
    (ol : Q₁ a s₁) (hm : m.rely s₁ s) (hi : P.inv s) (or : Q₂ b s) : post (a, b) s :=
  hpost a b s (h₁ a s₁ s ol hm hi) or

variable (now : σ → Nat)

/-- A poll of a process whose precondition holds keeps the promise and leaves what the
precondition promised: the result, or a rest whose precondition holds from there on. -/
theorem poll_sound : ∀ (fuel : Nat) (m : Mode σ), m.Fits P.task → ∀ {α : Type} (p : Proc σ α)
    (post : α → σ → Prop) (t : Trace σ), P.inv t.state → (∀ x ∈ t.spawned, P.Safe t.state x.1 x.2) →
    P.wp m p post t.state →
    P.Keeps m t.state (poll now fuel p t).2 ∧ P.Outcome m post (poll now fuel p t).1 (poll now fuel p t).2.state
  | 0, _, _, _, _, _, t, hi, ht, _ => ⟨.start hi ht, trivial⟩
  | fuel + 1, m, hfit, _, p, post, t, hi, ht, hp => by
    cases p with
    | pure a => exact ⟨.start hi ht, hp⟩
    | update f => exact ⟨.update hfit ht hp.1 hp.2.1 true, hp.2.2⟩
    | sleepUntil d =>
      simp only [poll]
      split
      · exact ⟨.update hfit ht hi (m.own_refl _) true, hp.now hi⟩
      · exact ⟨.start hi ht, fun s' hm _ => hp.move hm⟩
    | await ready =>
      simp only [poll]
      split
      · exact ⟨.update hfit ht hi (m.own_refl _) true, hp.now hi ‹_›⟩
      · exact ⟨.start hi ht, fun s' hm _ => hp.move hm⟩
    | halt r => exact ⟨.start hi ht, trivial⟩
    | spawn task fin =>
      refine ⟨⟨hi, m.own_refl _, fun x hx => ?_⟩, hp.1⟩
      rcases List.mem_append.mp hx with hx | hx
      · exact ht x hx
      · rw [List.mem_singleton.mp hx]
        exact ⟨hp.2.1, hp.2.2⟩
    | bind p g =>
      have ihm := poll_sound fuel m hfit p _ t hi ht hp
      simp only [poll]
      rcases em : poll now fuel p t with ⟨pm, t₁⟩
      rw [em] at ihm
      obtain ⟨k₁, o₁⟩ := ihm
      cases pm with
      | done b =>
        obtain ⟨k₂, o₂⟩ := poll_sound fuel m hfit (g b) post { t₁ with moved := true } k₁.inv k₁.tasks o₁
        exact ⟨k₁.trans k₂, o₂⟩
      | pending p' => exact ⟨k₁, o₁⟩
      | halted _ => exact ⟨k₁, trivial⟩
    | race l r =>
      have ihl := poll_sound fuel m.narrow hfit.narrow l _ t hi ht hp.1
      simp only [poll]
      rcases el : poll now fuel l t with ⟨pl, t₁⟩
      rw [el] at ihl
      obtain ⟨k₁, o₁⟩ := ihl
      cases pl with
      | done a => exact ⟨k₁.of_part, o₁⟩
      | halted _ => exact ⟨k₁.of_part, trivial⟩
      | pending l' =>
        -- the second part is first polled where the first one waits
        dsimp only
        have ihr := poll_sound fuel m.narrow hfit.narrow r _ t₁ k₁.inv k₁.tasks
          ((hp.2.move (m.part_rely k₁.moves)).now k₁.inv)
        rcases er : poll now fuel r t₁ with ⟨pr, t₂⟩
        rw [er] at ihr
        obtain ⟨k₂, o₂⟩ := ihr
        cases pr with
        | done b => exact ⟨(k₁.trans k₂).of_part, o₂⟩
        | halted _ => exact ⟨(k₁.trans k₂).of_part, trivial⟩
        | pending r' =>
          exact ⟨(k₁.trans k₂).of_part,
            fun s' hm hi' => ⟨(o₁.move (m.part_rely k₂.moves)) s' hm hi', o₂.move hm⟩⟩
    | both l r =>
      obtain ⟨Q₁, Q₂, h₁, h₂, hl, hr, hpost⟩ := hp
      have ihl := poll_sound fuel m.narrow hfit.narrow l Q₁ t hi ht (hl.now hi)
      simp only [poll]
      rcases el : poll now fuel l t with ⟨pl, t₁⟩
      rw [el] at ihl
      obtain ⟨k₁, o₁⟩ := ihl
      cases pl with
      | halted _ => exact ⟨k₁.of_part, trivial⟩
      | done a =>
        dsimp only
        have ihr := poll_sound fuel m.narrow hfit.narrow r Q₂ t₁ k₁.inv k₁.tasks
          ((hr.move (m.part_rely k₁.moves)).now k₁.inv)
        rcases er : poll now fuel r t₁ with ⟨pr, t₂⟩
        rw [er] at ihr
        obtain ⟨k₂, o₂⟩ := ihr
        cases pr with
        | halted _ => exact ⟨(k₁.trans k₂).of_part, trivial⟩
        | done b =>
          exact ⟨(k₁.trans k₂).of_part, Outcome.both_done h₁ hpost o₁ (m.part_rely k₂.moves) k₂.inv o₂⟩
        | pending r' =>
          exact ⟨(k₁.trans k₂).of_part, Outcome.joins h₁ h₂ hpost o₁ (m.part_rely k₂.moves) (by simp) o₂
            (m.rely_refl _) (by simp)⟩
      | pending l' =>
        dsimp only
        have ihr := poll_sound fuel m.narrow hfit.narrow r Q₂ t₁ k₁.inv k₁.tasks
          ((hr.move (m.part_rely k₁.moves)).now k₁.inv)
        rcases er : poll now fuel r t₁ with ⟨pr, t₂⟩
        rw [er] at ihr
        obtain ⟨k₂, o₂⟩ := ihr
        cases pr with
        | halted _ => exact ⟨(k₁.trans k₂).of_part, trivial⟩
        | done b =>
          exact ⟨(k₁.trans k₂).of_part, Outcome.joins h₁ h₂ hpost o₁ (m.part_rely k₂.moves) (by simp) o₂
            (m.rely_refl _) (by simp)⟩
        | pending r' =>
          exact ⟨(k₁.trans k₂).of_part, Outcome.joins h₁ h₂ hpost o₁ (m.part_rely k₂.moves) (by simp) o₂
            (m.rely_refl _) (by simp)⟩
    | fair l r swapped =>
      obtain ⟨Q₁, Q₂, h₁, h₂, hl, hr, hpost⟩ := hp
      simp only [poll]
      generalize hX : (if swapped = true then _ else _ : Polled σ _ × Polled σ _ × Trace σ) = X
      obtain ⟨pl, pr, t'⟩ := X
      -- both parts were polled, in the order of the turn, unless the one asked first halted
      have hpolled : P.Keeps m.narrow t.state t' ∧ ((∃ r, pl = .halted r) ∨ (∃ r, pr = .halted r) ∨
          ∃ s₁ s₂, P.Outcome m.narrow Q₁ pl s₁ ∧ m.rely s₁ t'.state ∧ P.Outcome m.narrow Q₂ pr s₂ ∧
            m.rely s₂ t'.state) := by
        cases swapped
        · simp only [Bool.false_eq_true, if_false] at hX
          obtain ⟨k₁, o₁⟩ := poll_sound fuel m.narrow hfit.narrow l Q₁ { t with moved := false } hi ht
            (hl.now hi)
          rcases el : poll now fuel l { t with moved := false } with ⟨pl₁, t₁⟩
          rw [el] at hX k₁ o₁
          have second : ∀ pl₁ : Polled σ _, (pl₁, (poll now fuel r t₁).1, (poll now fuel r t₁).2) =
              (pl, pr, t') → P.Outcome m.narrow Q₁ pl₁ t₁.state → P.Keeps m.narrow t.state t' ∧
                ((∃ r, pl = .halted r) ∨ (∃ r, pr = .halted r) ∨ ∃ s₁ s₂, P.Outcome m.narrow Q₁ pl s₁ ∧
                  m.rely s₁ t'.state ∧ P.Outcome m.narrow Q₂ pr s₂ ∧ m.rely s₂ t'.state) := by
            intro pl₁ he o₁
            simp only [Prod.mk.injEq] at he
            obtain ⟨rfl, rfl, rfl⟩ := he
            obtain ⟨k₂, o₂⟩ := poll_sound fuel m.narrow hfit.narrow r Q₂ t₁ k₁.inv k₁.tasks
              ((hr.move (m.part_rely k₁.moves)).now k₁.inv)
            exact ⟨k₁.trans k₂, .inr (.inr ⟨_, _, o₁, m.part_rely k₂.moves, o₂, m.rely_refl _⟩)⟩
          cases pl₁ with
          | halted r =>
            simp only [Prod.mk.injEq] at hX
            obtain ⟨rfl, -, rfl⟩ := hX
            exact ⟨k₁, .inl ⟨r, rfl⟩⟩
          | done a => exact second _ hX o₁
          | pending l' => exact second _ hX o₁
        · simp only [if_true] at hX
          obtain ⟨k₁, o₁⟩ := poll_sound fuel m.narrow hfit.narrow r Q₂ { t with moved := false } hi ht
            (hr.now hi)
          rcases er : poll now fuel r { t with moved := false } with ⟨pr₁, t₁⟩
          rw [er] at hX k₁ o₁
          have second : ∀ pr₁ : Polled σ _, ((poll now fuel l t₁).1, pr₁, (poll now fuel l t₁).2) =
              (pl, pr, t') → P.Outcome m.narrow Q₂ pr₁ t₁.state → P.Keeps m.narrow t.state t' ∧
                ((∃ r, pl = .halted r) ∨ (∃ r, pr = .halted r) ∨ ∃ s₁ s₂, P.Outcome m.narrow Q₁ pl s₁ ∧
                  m.rely s₁ t'.state ∧ P.Outcome m.narrow Q₂ pr s₂ ∧ m.rely s₂ t'.state) := by
            intro pr₁ he o₁
            simp only [Prod.mk.injEq] at he
            obtain ⟨rfl, rfl, rfl⟩ := he
            obtain ⟨k₂, o₂⟩ := poll_sound fuel m.narrow hfit.narrow l Q₁ t₁ k₁.inv k₁.tasks
              ((hl.move (m.part_rely k₁.moves)).now k₁.inv)
            exact ⟨k₁.trans k₂, .inr (.inr ⟨_, _, o₂, m.rely_refl _, o₁, m.part_rely k₂.moves⟩)⟩
          cases pr₁ with
          | halted r =>
            simp only [Prod.mk.injEq] at hX
            obtain ⟨rfl, -, rfl⟩ := hX
            exact ⟨k₁, .inl ⟨r, rfl⟩⟩
          | done b => exact second _ hX o₁
          | pending r' => exact second _ hX o₁
      obtain ⟨k, hcases⟩ := hpolled
      cases pl with
      | halted _ => exact ⟨(k.moved _).of_part, trivial⟩
      | done a =>
        cases pr with
        | halted _ => exact ⟨(k.moved _).of_part, trivial⟩
        | done b =>
          obtain ⟨s₁, s₂, o₁, hm₁, o₂, hm₂⟩ := (hcases.resolve_left (by simp)).resolve_left (by simp)
          exact ⟨(k.moved _).of_part, Outcome.both_done h₁ hpost o₁ hm₁ k.inv (h₂ b s₂ _ o₂ hm₂ k.inv)⟩
        | pending r' =>
          obtain ⟨s₁, s₂, o₁, hm₁, o₂, hm₂⟩ := (hcases.resolve_left (by simp)).resolve_left (by simp)
          exact ⟨(k.moved _).of_part, Outcome.joins h₁ h₂ hpost o₁ hm₁ (by simp) o₂ hm₂ (by simp)⟩
      | pending l' =>
        cases pr with
        | halted _ => exact ⟨(k.moved _).of_part, trivial⟩
        | done b =>
          obtain ⟨s₁, s₂, o₁, hm₁, o₂, hm₂⟩ := (hcases.resolve_left (by simp)).resolve_left (by simp)
          exact ⟨(k.moved _).of_part, Outcome.joins h₁ h₂ hpost o₁ hm₁ (by simp) o₂ hm₂ (by simp)⟩
        | pending r' =>
          obtain ⟨s₁, s₂, o₁, hm₁, o₂, hm₂⟩ := (hcases.resolve_left (by simp)).resolve_left (by simp)
          exact ⟨(k.moved _).of_part, Outcome.joins h₁ h₂ hpost o₁ hm₁ (by simp) o₂ hm₂ (by simp)⟩

/-! ## Runs keep the promise -/

section Runs

variable (htask : P.task.Fits P.task)

include htask in
/-- Polling the tasks of a round, one after the other, keeps the promise, and leaves tasks
that can run from where it stopped. -/
theorem pollEach_sound : ∀ (tasks : List (Task σ)) (tr : Trace σ), P.inv tr.state →
    (∀ x ∈ tr.spawned, P.Safe tr.state x.1 x.2) → (∀ task ∈ tasks, P.Safe tr.state task.body task.finish) →
    P.Keeps P.task tr.state (pollEach now tasks tr).2 ∧
      ∀ task ∈ (pollEach now tasks tr).1, P.Safe (pollEach now tasks tr).2.state task.body task.finish
  | [], tr, hi, ht, _ => ⟨.start hi ht, by simp [pollEach]⟩
  | task :: rest, tr, hi, ht, hts => by
    have hsafe := hts task List.mem_cons_self
    -- the rest of the round, from wherever this task's poll and end left the state
    have later : ∀ (kept : List (Task σ)) (t₂ : Trace σ), P.Keeps P.task tr.state t₂ →
        (∀ x ∈ kept, P.Safe t₂.state x.body x.finish) →
        P.Keeps P.task tr.state (pollEach now rest t₂).2 ∧
          ∀ x ∈ kept ++ (pollEach now rest t₂).1, P.Safe (pollEach now rest t₂).2.state x.body x.finish := by
      intro kept t₂ k₂ hkept
      obtain ⟨k₃, h₃⟩ := pollEach_sound rest t₂ k₂.inv k₂.tasks
        (fun x hx => (hts x (List.mem_cons_of_mem _ hx)).move (htask k₂.moves))
      refine ⟨k₂.trans k₃, fun x hx => ?_⟩
      rcases List.mem_append.mp hx with hx | hx
      · exact (hkept x hx).move (htask k₃.moves)
      · exact h₃ x hx
    obtain ⟨k₁, o₁⟩ := poll_sound now stepBudget P.task htask task.body _ tr hi ht (hsafe.1.now hi)
    simp only [pollEach]
    rcases ep : poll now stepBudget task.body tr with ⟨pb, t₁⟩
    rw [ep] at k₁ o₁
    cases pb with
    | pending body => exact later _ _ k₁ (by simpa using ⟨o₁, hsafe.2⟩)
    | done u =>
      obtain ⟨hend, hm⟩ := o₁
      exact later [] _ (k₁.trans (.update htask k₁.tasks hend hm true)) (by simp)
    | halted reason =>
      obtain ⟨hend, hm⟩ := hsafe.2 reason _ k₁.inv
      exact later [] _ (k₁.trans (.update htask k₁.tasks hend hm true)) (by simp)

include htask in
/-- A whole round, tasks started meanwhile included, keeps the promise. -/
theorem pollRound_sound : ∀ (batches : Nat) (tasks : List (Task σ)) (tr : Trace σ), P.inv tr.state →
    (∀ x ∈ tr.spawned, P.Safe tr.state x.1 x.2) → (∀ task ∈ tasks, P.Safe tr.state task.body task.finish) →
    P.Keeps P.task tr.state (pollRound now batches tasks tr).2 ∧
      ∀ task ∈ (pollRound now batches tasks tr).1,
        P.Safe (pollRound now batches tasks tr).2.state task.body task.finish
  | 0, tasks, tr, hi, ht, hts => by
    simp only [pollRound]
    refine ⟨⟨hi, P.task.own_refl _, by simp⟩, fun x hx => ?_⟩
    rcases List.mem_append.mp hx with hx | hx
    · exact hts x hx
    · obtain ⟨y, hy, rfl⟩ := List.mem_map.mp hx
      exact ht y hy
  | batches + 1, tasks, tr, hi, ht, hts => by
    obtain ⟨k₁, h₁⟩ := pollEach_sound now htask tasks tr hi ht hts
    simp only [pollRound]
    generalize pollEach now tasks tr = e at k₁ h₁
    obtain ⟨kept, t₁⟩ := e
    split
    · exact ⟨k₁, h₁⟩
    · -- the tasks started in the round are polled in the same round
      rename_i fresh _
      obtain ⟨k₂, h₂⟩ := pollRound_sound batches (t₁.spawned.map fun x => ⟨x.1, x.2⟩)
        { t₁ with spawned := [] } k₁.inv (by simp)
        (fun x hx => by obtain ⟨y, hy, rfl⟩ := List.mem_map.mp hx; exact k₁.tasks y hy)
      refine ⟨k₁.trans k₂, fun x hx => ?_⟩
      rcases List.mem_append.mp hx with hx | hx
      · exact (h₁ x hx).move (htask k₂.moves)
      · exact h₂ x hx

variable (setNow : Nat → σ → σ) {m : Mode σ} (hfit : m.Fits P.task)
  (hback : ∀ {a b}, P.task.own a b → m.rely a b)
  (hset : ∀ n s, P.inv s → P.inv (setNow n s) ∧ m.rely s (setNow n s) ∧ P.task.rely s (setNow n s))

include htask hfit hback hset in
/-- Rounds of the scheduler keep the promise, when the main process's moves are ones the tasks
put up with, the tasks' moves are ones the main process puts up with, and setting the clock is
one both put up with: they end in the invariant, and a main process that finishes gives what
its precondition promised. -/
theorem runRounds_sound :
    ∀ (rounds : Nat) {α : Type} (main : Proc σ α) (tasks : List (Task σ)) (s : σ) (post : α → σ → Prop),
      P.inv s → P.wp m main post s → (∀ task ∈ tasks, P.Safe s task.body task.finish) →
      P.inv (runRounds now setNow rounds main tasks s).2 ∧
        ∀ a, (runRounds now setNow rounds main tasks s).1 = .done a →
          post a (runRounds now setNow rounds main tasks s).2
  | 0, _, _, _, _, _, hi, _, _ => ⟨hi, fun _ h => by cases h⟩
  | rounds + 1, _, main, tasks, s, post, hi, hp, hts => by
    obtain ⟨k₁, o₁⟩ := poll_sound now stepBudget m hfit main post { state := s } hi (by simp) hp
    simp only [runRounds]
    rcases ep : poll now stepBudget main { state := s } with ⟨pm, t₁⟩
    rw [ep] at k₁ o₁
    cases pm with
    | done a => exact ⟨k₁.inv, fun b hb => by cases hb; exact o₁⟩
    | halted _ => exact ⟨k₁.inv, fun _ h => by cases h⟩
    | pending main' =>
      obtain ⟨k₂, h₂⟩ := pollRound_sound now htask 64 tasks t₁ k₁.inv k₁.tasks
        (fun x hx => (hts x hx).move (hfit k₁.moves))
      dsimp only
      generalize pollRound now 64 tasks t₁ = e at k₂ h₂ ⊢
      obtain ⟨tasks', t₂⟩ := e
      dsimp only
      split
      · exact runRounds_sound rounds main' tasks' t₂.state post k₂.inv
          ((o₁.move (hback k₂.moves)).now k₂.inv) h₂
      · split
        · exact ⟨k₂.inv, fun _ h => by cases h⟩
        · -- only the clock can make progress: it jumps to the earliest deadline
          rename_i d _
          obtain ⟨hi', hm, htm⟩ := hset (Nat.max (now t₂.state) (ceilTick d)) t₂.state k₂.inv
          exact runRounds_sound rounds main' tasks' _ post hi'
            ((o₁.move (m.rely_trans (hback k₂.moves) hm)).now hi') (fun x hx => (h₂ x hx).move htm)

end Runs

/-! ## Sound processes -/

variable (P) in
/-- A process that keeps the promise in mode `m`, and every fact the others cannot break. -/
def Sound (m : Mode σ) {α : Type} (p : Proc σ α) : Prop :=
  ∀ R : σ → Prop, P.Stable m R → ∀ s, P.inv s → R s → P.wp m p (fun _ s' => P.inv s' ∧ R s') s

section Sound

variable {m : Mode σ}

theorem Stable.and {Q Q' : σ → Prop} (hQ : P.Stable m Q) (hQ' : P.Stable m Q') :
    P.Stable m fun s => Q s ∧ Q' s :=
  fun s s' h hm hi => ⟨hQ s s' h.1 hm hi, hQ' s s' h.2 hm hi⟩

/-- The invariant together with a stable fact is stable. -/
theorem stable_inv_and {R : σ → Prop} (hR : P.Stable m R) : P.Stable m fun s => P.inv s ∧ R s :=
  fun s s' h hm hi => ⟨hi, hR s s' h.2 hm hi⟩

theorem Sound.pure {α : Type} (a : α) : P.Sound m (Proc.pure a) :=
  fun _ _ _ hi hr => ⟨hi, hr⟩

theorem Sound.bind {α β : Type} {p : Proc σ β} {g : β → Proc σ α} (hp : P.Sound m p)
    (hg : ∀ b, P.Sound m (g b)) : P.Sound m (p >>= g) :=
  fun R hR s hi hr => wp_mono m p (fun b s' h => hg b R hR s' h.1 h.2) s (hp R hR s hi hr)

/-- An update that keeps the invariant by a move of the mode that the mode also puts up with,
so that stable facts survive it. -/
theorem Sound.update {α : Type} {f : σ → α × σ}
    (hf : ∀ s, P.inv s → P.inv (f s).2 ∧ m.own s (f s).2 ∧ m.rely s (f s).2) : P.Sound m (.update f) :=
  fun _ hR s hi hr => ⟨(hf s hi).1, (hf s hi).2.1, (hf s hi).1, hR s _ hr (hf s hi).2.2 (hf s hi).1⟩

theorem Sound.sleepUntil (d : Nat) : P.Sound m (.sleepUntil d : Proc σ Unit) :=
  fun _ hR s _ hr s' hm hi' => ⟨hi', hR s s' hr hm hi'⟩

theorem Sound.await (ready : σ → Bool) : P.Sound m (.await ready) :=
  fun _ hR s _ hr s' hm hi' _ => ⟨hi', hR s s' hr hm hi'⟩

theorem Sound.halt {α : Type} (r : String) : P.Sound m (.halt r : Proc σ α) :=
  fun _ _ _ _ _ => trivial

theorem Sound.race {α β : Type} {l : Proc σ α} {r : Proc σ β} (hl : P.Sound m.narrow l)
    (hr : P.Sound m.narrow r) : P.Sound m (.race l r) :=
  fun R hR s hi hrs => ⟨hl R hR s hi hrs, fun s' hm hi' => hr R hR s' hi' (hR s s' hrs hm hi')⟩

/-- Two sound parts run side by side join in the invariant and every stable fact. -/
theorem Sound.joins {α β : Type} {l : Proc σ α} {r : Proc σ β} (hl : P.Sound m.narrow l)
    (hr : P.Sound m.narrow r) {R : σ → Prop} (hR : P.Stable m R) {s : σ} (hrs : R s) :
    P.Joins m (P.wp m.narrow l) (P.wp m.narrow r) (fun _ s' => P.inv s' ∧ R s') s :=
  ⟨fun _ s => P.inv s ∧ R s, fun _ s => P.inv s ∧ R s, fun _ => stable_inv_and hR,
    fun _ => stable_inv_and hR, fun s' hm hi' => hl R hR s' hi' (hR s s' hrs hm hi'),
    fun s' hm hi' => hr R hR s' hi' (hR s s' hrs hm hi'), fun _ _ _ h _ => h⟩

theorem Sound.both {α β : Type} {l : Proc σ α} {r : Proc σ β} (hl : P.Sound m.narrow l)
    (hr : P.Sound m.narrow r) : P.Sound m (.both l r) :=
  fun _ hR _ _ hrs => Sound.joins hl hr hR hrs

theorem Sound.fair {α β : Type} {l : Proc σ α} {r : Proc σ β} (hl : P.Sound m.narrow l)
    (hr : P.Sound m.narrow r) (swapped : Bool) : P.Sound m (.fair l r swapped) :=
  fun _ hR _ _ hrs => Sound.joins hl hr hR hrs

/-- A task sound in the tasks' mode, whose finish keeps the promise, may be started. -/
theorem Sound.spawn {task : Proc σ Unit} {fin : Option String → σ → σ} (htask : P.Sound P.task task)
    (hfin : ∀ reason s, P.inv s → P.Ends fin reason s) : P.Sound m (.spawn task fin) :=
  fun _ _ _ hi hr =>
    ⟨⟨hi, hr⟩, fun s' _ hi' => wp_mono P.task task (fun _ s'' h => hfin none s'' h.1) s'
      (htask (fun _ => True) (fun _ _ _ _ _ => trivial) s' hi' trivial),
      fun reason s' hi' => hfin (some reason) s' hi'⟩

/-- A loop whose every turn is sound. -/
theorem Sound.loop {α β : Type} (xs : List α) (b : β) {f : α → β → Proc σ (ForInStep β)}
    (hf : ∀ x b, P.Sound m (f x b)) : P.Sound m (forIn xs b f) := by
  induction xs generalizing b with
  | nil => exact Sound.pure b
  | cons x xs ih =>
    rw [List.forIn_cons]
    refine Sound.bind (hf x b) fun r => ?_
    cases r with
    | done b' => exact Sound.pure b'
    | yield b' => exact ih b'

end Sound

section Keeps

variable (setNow : Nat → σ → σ) (htask : P.task.Fits P.task) {m : Mode σ} (hfit : m.Fits P.task)
  (hback : ∀ {a b}, P.task.own a b → m.rely a b)
  (hset : ∀ n s, P.inv s → P.inv (setNow n s) ∧ m.rely s (setNow n s) ∧ P.task.rely s (setNow n s))

end Keeps

/-! ## Stepping through a process

A promise about the values a process reads, such as an entry stamped with a reading of a
clock, does not follow from the soundness of the parts alone. Its proof steps through the
updates one at a time and hands what follows to sound parts, with a stable fact of its own
carried across them. -/

section Stepping

variable {m : Mode σ}

theorem wp_bind {α β : Type} (p : Proc σ β) (k : β → Proc σ α) (post : α → σ → Prop) (s : σ) :
    P.wp m (p >>= k) post s = P.wp m p (fun b => P.wp m (k b) post) s := rfl

theorem wp_update {β : Type} {f : σ → β × σ} {Q : β → σ → Prop} {s : σ} (hi : P.inv (f s).2)
    (hm : m.own s (f s).2) (h : Q (f s).1 (f s).2) : P.wp m (.update f) Q s :=
  ⟨hi, hm, h⟩

theorem wp_read {β : Type} {g : σ → β} {Q : β → σ → Prop} {s : σ} (hi : P.inv s) (h : Q (g s) s) :
    P.wp m (Proc.read g) Q s :=
  ⟨hi, m.own_refl s, h⟩

theorem Sound.wp {α : Type} {p : Proc σ α} (hp : P.Sound m p) {R : σ → Prop} (hR : P.Stable m R) {s : σ}
    (hi : P.inv s) (hr : R s) : P.wp m p (fun _ s' => P.inv s' ∧ R s') s :=
  hp R hR s hi hr

/-- A sound process, then a continuation that needs only the invariant and a stable fact. -/
theorem Sound.frame {α β : Type} {p : Proc σ β} {k : β → Proc σ α} {post : α → σ → Prop}
    (hp : P.Sound m p) {R : σ → Prop} (hR : P.Stable m R) {s : σ} (hi : P.inv s) (hr : R s)
    (hk : ∀ b s', P.inv s' → R s' → P.wp m (k b) post s') : P.wp m (p >>= k) post s :=
  wp_mono m p (fun b s' h => hk b s' h.1 h.2) s (hp R hR s hi hr)

end Stepping

section Except

variable {ε : Type} {m : Mode σ}

theorem Sound.except_pure {α : Type} (a : α) : P.Sound m (Pure.pure a : ExceptT ε (Proc σ) α).run :=
  Sound.pure _

theorem Sound.except_throw {α : Type} (e : ε) : P.Sound m (throw e : ExceptT ε (Proc σ) α).run :=
  Sound.pure _

/-- A failure skips what follows it, sound or not. -/
theorem Sound.except_throw_bind {α β : Type} (e : ε) (f : β → ExceptT ε (Proc σ) α) :
    P.Sound m (throw e >>= f : ExceptT ε (Proc σ) α).run :=
  fun _ _ _ hi hr => ⟨hi, hr⟩

theorem Sound.except_bind {α β : Type} {x : ExceptT ε (Proc σ) β} {f : β → ExceptT ε (Proc σ) α}
    (hx : P.Sound m x.run) (hf : ∀ b, P.Sound m (f b).run) : P.Sound m (x >>= f).run := by
  rw [ExceptT.run_bind]
  refine Sound.bind hx fun r => ?_
  cases r with
  | error e => exact Sound.pure _
  | ok b => exact hf b

theorem Sound.except_lift {α : Type} {p : Proc σ α} (hp : P.Sound m p) :
    P.Sound m (ExceptT.lift p : ExceptT ε (Proc σ) α).run :=
  Sound.bind hp fun _ => Sound.pure _

/-- A loop of a process that can fail, whose every turn is sound. -/
theorem Sound.except_loop {α β : Type} (xs : List α) (b : β) {f : α → β → ExceptT ε (Proc σ) (ForInStep β)}
    (hf : ∀ x b, P.Sound m (f x b).run) : P.Sound m (forIn xs b f).run := by
  induction xs generalizing b with
  | nil => exact Sound.pure _
  | cons x xs ih =>
    rw [List.forIn_cons]
    refine Sound.except_bind (hf x b) fun r => ?_
    cases r with
    | done b' => exact Sound.pure _
    | yield b' => exact ih b'

theorem wp_except_lift_bind {α β : Type} (p : Proc σ β) (f : β → ExceptT ε (Proc σ) α)
    (post : Except ε α → σ → Prop) (s : σ) :
    P.wp m ((liftM p : ExceptT ε (Proc σ) β) >>= f).run post s = P.wp m p (fun b => P.wp m (f b).run post) s :=
  rfl

theorem wp_except_update_bind {α β : Type} {f : σ → β × σ} {k : β → ExceptT ε (Proc σ) α}
    {post : Except ε α → σ → Prop} {s : σ} (hi : P.inv (f s).2) (hm : m.own s (f s).2)
    (h : P.wp m (k (f s).1).run post (f s).2) :
    P.wp m ((liftM (Proc.update f) : ExceptT ε (Proc σ) β) >>= k).run post s :=
  ⟨hi, hm, h⟩

theorem wp_except_read_bind {α β : Type} {g : σ → β} {k : β → ExceptT ε (Proc σ) α}
    {post : Except ε α → σ → Prop} {s : σ} (hi : P.inv s) (h : P.wp m (k (g s)).run post s) :
    P.wp m ((liftM (Proc.read g) : ExceptT ε (Proc σ) β) >>= k).run post s :=
  ⟨hi, m.own_refl s, h⟩

/-- A value known at once: the continuation or the postcondition of its failure, in the same
state. -/
theorem wp_except_pure_bind {α β : Type} {r : Except ε β} {f : β → ExceptT ε (Proc σ) α}
    {post : Except ε α → σ → Prop} {s : σ} (herr : ∀ e, r = .error e → post (.error e) s)
    (hok : ∀ b, r = .ok b → P.wp m (f b).run post s) :
    P.wp m ((ExceptT.mk (Pure.pure r) : ExceptT ε (Proc σ) β) >>= f).run post s := by
  cases r with
  | error e => exact herr e rfl
  | ok b => exact hok b rfl

/-- A sound process that can fail, then a continuation that needs only the invariant and a
stable fact; a failure must give the postcondition from those alone. -/
theorem Sound.except_frame {α β : Type} {x : ExceptT ε (Proc σ) β} {f : β → ExceptT ε (Proc σ) α}
    {post : Except ε α → σ → Prop} (hx : P.Sound m x.run) {R : σ → Prop} (hR : P.Stable m R) {s : σ}
    (hi : P.inv s) (hr : R s) (herr : ∀ e s', P.inv s' → R s' → post (.error e) s')
    (hf : ∀ b s', P.inv s' → R s' → P.wp m (f b).run post s') : P.wp m (x >>= f).run post s := by
  rw [ExceptT.run_bind]
  refine Sound.frame hx hR hi hr fun r s' hi' hr' => ?_
  cases r with
  | error e => exact herr e s' hi' hr'
  | ok b => exact hf b s' hi' hr'

variable (P) in
/-- What the rest of a process that can fail needs of a result: the rest's precondition from a
value, or the postcondition of the failure. -/
def Then {α β : Type} (m : Mode σ) (k : β → ExceptT ε (Proc σ) α) (post : Except ε α → σ → Prop) :
    Except ε β → σ → Prop
  | .ok b, s => P.wp m (k b).run post s
  | .error e, s => post (.error e) s

theorem wp_except_bind {α β : Type} {x : ExceptT ε (Proc σ) β} {k : β → ExceptT ε (Proc σ) α}
    {post : Except ε α → σ → Prop} {s : σ} (h : P.wp m x.run (P.Then m k post) s) :
    P.wp m (x >>= k).run post s := by
  rw [ExceptT.run_bind, wp_bind]
  exact wp_mono m _ (fun r s' hr => by cases r <;> exact hr) s h

/-- What a turn of a loop that can fail leaves: a state to go on with, or the loop's end. -/
def LoopTurn {β : Type} (go : β → σ → Prop) (stop : Except ε β → σ → Prop) :
    Except ε (ForInStep β) → σ → Prop
  | .ok (.yield b), s => go b s
  | .ok (.done b), s => stop (.ok b) s
  | .error e, s => stop (.error e) s

/-- A loop that can fail, by an invariant of what is left to run: every turn from the invariant
reaches the invariant of the rest or the loop's end, and the invariant with nothing left gives
the end. -/
theorem wp_except_forIn {α β : Type} {f : α → β → ExceptT ε (Proc σ) (ForInStep β)}
    (I : List α → β → σ → Prop) {post : Except ε β → σ → Prop}
    (hturn : ∀ x xs b s, I (x :: xs) b s → P.wp m (f x b).run (LoopTurn (I xs) post) s)
    (hend : ∀ b s, I [] b s → post (.ok b) s) :
    ∀ xs b s, I xs b s → P.wp m (forIn xs b f).run post s
  | [], b, s, h => hend b s h
  | x :: xs, b, s, h => by
    rw [List.forIn_cons, ExceptT.run_bind, wp_bind]
    refine wp_mono m _ (fun r s' hr => ?_) s (hturn x xs b s h)
    rcases r with e | (b' | b')
    · exact hr
    · exact hr
    · exact wp_except_forIn I hturn hend xs b' s' hr

end Except

end Pact

/-! ## Symmetric promises -/

/-- A promise in which every process, main or detached, makes the moves it puts up with: an
invariant, and a preorder of moves. -/
structure Guarantee (σ : Type) where
  inv : σ → Prop
  moves : σ → σ → Prop
  refl : ∀ s, moves s s
  trans : ∀ {a b c}, moves a b → moves b c → moves a c

namespace Guarantee

variable {σ : Type} (G : Guarantee σ)

/-- The one mode of a symmetric promise. -/
def mode : Mode σ := Mode.same G.moves G.refl G.trans

/-- A symmetric promise, as a pact whose tasks run in its one mode. -/
def pact : Pact σ := ⟨G.inv, G.mode⟩

abbrev wp {α : Type} (p : Proc σ α) (post : α → σ → Prop) (s : σ) : Prop := G.pact.wp G.mode p post s

abbrev Always (Q : σ → Prop) (s : σ) : Prop := G.pact.Always G.mode Q s

abbrev Stable (Q : σ → Prop) : Prop := G.pact.Stable G.mode Q

abbrev Ends (fin : Option String → σ → σ) (reason : Option String) (s : σ) : Prop :=
  G.pact.Ends fin reason s

abbrev Sound {α : Type} (p : Proc σ α) : Prop := G.pact.Sound G.mode p

end Guarantee

end Saga.Proc
