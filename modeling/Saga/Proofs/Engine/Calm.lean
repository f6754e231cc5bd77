import Saga.Proofs.Engine.Quiet
import Saga.Proofs.Persist.Tiers

/-!
# Fresh history keys, and the changes that keep them

An entry of a history is known by its key: the step's name and the time it started
(`HistoryEntry.key`). `KeysFresh` says that in every instance of the world these keys are
pairwise distinct and lie before the wall clock's next reading; `freshKeys` is the
`Guarantee` of the processes that keep this, each letting the others move the wall clock
forward and nothing else that matters to it.

A `Calm` change keeps the keys of every history and moves the wall clock forward: every quiet
change (`Calm.of_quiet`), settling an entry in place, moving the status, and the event and
snapshot stores (a whole save included, `save_calm`). A push of an entry started at an earlier
reading keeps the keys fresh (`keysFresh_push`). Every calm update is sound for `freshKeys`
(`sound_calm`), so its one mode has a `Kit` and the processes of a step may run in it.
-/

namespace Saga

/-! ## Fresh keys -/

/-- The keys of an instance's history, in order. -/
def Instance.keys (x : Instance) : List (String × Instant) := x.history.map HistoryEntry.key

namespace Engine

/-- Keys that are pairwise distinct and all started before `t`. -/
structure FreshBefore (keys : List (String × Instant)) (t : Instant) : Prop where
  nodup : keys.Nodup
  before : ∀ k ∈ keys, k.2 < t

theorem FreshBefore.mono {keys : List (String × Instant)} {t t' : Instant} (h : FreshBefore keys t)
    (ht : t ≤ t') : FreshBefore keys t' :=
  ⟨h.nodup, fun k hk => Instant.lt_of_lt_of_le (h.before k hk) ht⟩

/-- A key started at `t`, after all the others, is new among them. -/
theorem FreshBefore.push {keys : List (String × Instant)} {t t' : Instant} (h : FreshBefore keys t)
    (ht : t < t') (name : String) : FreshBefore (keys ++ [(name, t)]) t' := by
  refine ⟨List.nodup_append.mpr ⟨h.nodup, by simp, ?_⟩, fun k hk => ?_⟩
  · intro k hk k' hk' heq
    rw [List.mem_singleton] at hk'
    subst hk' heq
    exact Instant.lt_irrefl t (h.before _ hk)
  · rcases List.mem_append.mp hk with hk | hk
    · exact Instant.lt_of_lt_of_le (h.before k hk) (Instant.le_of_lt ht)
    · rw [List.mem_singleton.mp hk]
      exact ht

/-- Every history has distinct keys, all started before the wall clock's next reading. -/
def KeysFresh (w : World) : Prop := ∀ x ∈ w.instances, FreshBefore x.keys w.ambient.wall

/-- Fresh keys, as a promise between processes: each keeps every history's keys fresh, and
the wall clock only goes forward. -/
def freshKeys : Proc.Guarantee World where
  inv := KeysFresh
  moves w w' := w.ambient.wall ≤ w'.ambient.wall
  refl w := Instant.le_refl w.ambient.wall
  trans := Instant.le_trans

/-- A stable fact for `freshKeys`: every reading from now on is later than `t`. -/
theorem stable_before (t : Instant) : freshKeys.Stable fun w => t < w.ambient.wall :=
  fun _ _ h hm _ => Instant.lt_of_lt_of_le h hm

/-! ## Calm changes -/

/-- A change of the world that keeps the keys of every history and moves the wall clock only
forward. -/
structure Calm (w w' : World) : Prop where
  keys : w'.instances.map Instance.keys = w.instances.map Instance.keys
  wall : w.ambient.wall ≤ w'.ambient.wall

theorem Calm.refl (w : World) : Calm w w := ⟨rfl, Instant.le_refl _⟩

theorem Calm.trans {w₁ w₂ w₃ : World} (h₁ : Calm w₁ w₂) (h₂ : Calm w₂ w₃) : Calm w₁ w₃ :=
  ⟨h₂.keys.trans h₁.keys, Instant.le_trans h₁.wall h₂.wall⟩

/-- A change that leaves the instances and the clock alone. -/
theorem Calm.of_eq {w w' : World} (hi : w'.instances = w.instances) (ha : w'.ambient = w.ambient) :
    Calm w w' :=
  ⟨by rw [hi], by rw [ha]; exact Instant.le_refl _⟩

theorem Calm.keysFresh {w w' : World} (h : Calm w w') (hi : KeysFresh w) : KeysFresh w' := by
  intro x hx
  have hmem : x.keys ∈ w.instances.map Instance.keys := by
    rw [← h.keys]
    exact List.mem_map_of_mem hx
  obtain ⟨y, hy, hxy⟩ := List.mem_map.mp hmem
  rw [← hxy]
  exact (hi y hy).mono h.wall

theorem calm_readWall (w : World) : Calm w w.readWall.2 :=
  ⟨rfl, Instant.le_of_lt (Instant.lt_addNanos _ (by decide))⟩

theorem calm_drawId (w : World) : Calm w w.drawId.2 := ⟨rfl, Instant.le_refl _⟩

/-- Changing an instance in a way that keeps its keys. -/
theorem calm_modifyInst {w : World} {i : Nat} {f : Instance → Instance}
    (hf : ∀ x, w.instances[i]? = some x → (f x).keys = x.keys) : Calm w (w.modifyInst i f) :=
  ⟨map_modify_of hf, Instant.le_refl _⟩

/-- Pushing an entry started at `t` onto instance `i`, when every key of the world lies before
`t` and `t` before the next reading, keeps the keys fresh. -/
theorem keysFresh_push {w : World} {t : Instant} (hfresh : ∀ x ∈ w.instances, FreshBefore x.keys t)
    (ht : t < w.ambient.wall) (i : Nat) {f : Instance → Instance}
    (hf : ∀ x, ∃ name, (f x).keys = x.keys ++ [(name, t)]) : KeysFresh (w.modifyInst i f) := by
  intro y hy
  obtain ⟨x, hx, hyx | hyx⟩ := mem_modify hy
  · rw [hyx]
    exact (hfresh x hx).mono (Instant.le_of_lt ht)
  · obtain ⟨name, hkeys⟩ := hf x
    rw [hyx, hkeys]
    exact (hfresh x hx).push ht name

open Proc.Pact in
/-- A calm update is sound for fresh keys. -/
theorem sound_calm {α : Type} {f : World → α × World} (hf : ∀ w, Calm w (f w).2) :
    freshKeys.Sound (.update f) :=
  Sound.update fun w hi => ⟨(hf w).keysFresh hi, (hf w).wall, (hf w).wall⟩

/-! ## What a save changes

A save reads the stores and the wall clock, draws event identifiers and writes the event and
snapshot stores. So every preorder of changes that allows these (a `SaveChange`) allows a whole
save (`SaveChange.save`): calm changes are one, and quiet changes another. -/

/-- A preorder of changes of the world that allows what a save does: changing the stores alone,
reading the wall clock and drawing an identifier. -/
structure SaveChange where
  rel : World → World → Prop
  refl : ∀ w, rel w w
  trans : ∀ {a b c}, rel a b → rel b c → rel a c
  stores : ∀ {w w' : World}, w'.instances = w.instances → w'.busFails = w.busFails →
    w'.ambient = w.ambient → rel w w'
  readWall : ∀ w, rel w w.readWall.2
  drawId : ∀ w, rel w w.drawId.2

namespace SaveChange

variable (C : SaveChange)

/-- A computation on the world whose every run is a change of `C`. -/
def Within {α : Type} (m : StateM World α) : Prop := ∀ w, C.rel w (m.run w).2

variable {C}

theorem Within.pure {α : Type} (a : α) : C.Within (pure a : StateM World α) := C.refl

theorem Within.get : C.Within (get : StateM World World) := C.refl

theorem Within.bind {α β : Type} {m : StateM World β} {f : β → StateM World α} (hm : C.Within m)
    (hf : ∀ b, C.Within (f b)) : C.Within (m >>= f) :=
  fun w => C.trans (hm w) (hf _ _)

theorem Within.mapM {α β : Type} {f : α → StateM World β} (hf : ∀ a, C.Within (f a)) :
    ∀ l : List α, C.Within (l.mapM f)
  | [] => Within.pure []
  | a :: l => by
    rw [List.mapM_cons]
    exact Within.bind (hf a) fun _ => Within.bind (Within.mapM hf l) fun _ => Within.pure _

theorem Within.of_reads {α : Type} {m : StateM World α} (h : ∀ w, Persist.ReadsOnly w (m.run w).2) :
    C.Within m := fun w => by
  obtain ⟨_, _, he⟩ := h w
  exact C.stores (by rw [he]) (by rw [he]) (by rw [he])

theorem onEvents_within {α : Type} (f : EventLog → α × EventLog) : C.Within (Persist.onEvents f) :=
  fun _ => C.stores rfl rfl rfl

theorem newEvent_within (stream : String) (kind : EventKind) : C.Within (Persist.newEvent stream kind) :=
  Within.bind (C.drawId ·) fun _ => Within.bind (C.readWall ·) fun _ => Within.pure _

theorem resolvePosition_within (id : String) (snap : Option Snapshot) (createdAt : Instant) :
    C.Within (Persist.resolvePosition id snap createdAt) := by
  unfold Persist.resolvePosition
  refine Within.bind Within.get fun w => ?_
  dsimp only
  split
  · exact Within.pure _
  · refine Within.bind (Within.of_reads fun _ => Persist.fromSnapshotMeta_reads _ _) fun o₁ => ?_
    cases o₁
    · refine Within.bind (Within.of_reads fun _ => Persist.fromCheckpoint_reads _) fun o₂ => ?_
      cases o₂
      · refine Within.bind (Within.of_reads fun _ => Persist.fromStateEvent_reads _ _) fun o₃ => ?_
        cases o₃
        · exact Within.of_reads fun _ => Persist.fromReplay_reads _
        · exact Within.pure _
      · exact Within.pure _
    · exact Within.pure _

/-- A whole save is a change of `C`. -/
theorem save (s : Persist.Settings) (st : SagaState) : C.Within (Persist.save s st) := by
  unfold Persist.save
  refine Within.bind Within.get fun w => Within.bind (resolvePosition_within _ _ _) fun r => ?_
  cases r with
  | error e => exact Within.pure _
  | ok pos =>
    dsimp only
    split
    · exact Within.pure _
    · refine Within.bind (Within.bind (newEvent_within _ _) fun _ => Within.pure _) fun _ => ?_
      refine Within.bind (Within.mapM (fun _ => Within.bind (newEvent_within _ _) fun _ => Within.pure _) _)
        fun _ => ?_
      refine Within.bind (Within.bind (newEvent_within _ _) fun _ => Within.pure _) fun _ => ?_
      refine Within.bind (onEvents_within _) fun r => ?_
      cases r with
      | error f => exact Within.pure _
      | ok version => exact Within.bind (fun _ => C.stores rfl rfl rfl) fun _ => Within.pure _

theorem fromSnapshot_within (s : Persist.Settings) (id : String) (snap : Snapshot) :
    C.Within (Persist.fromSnapshot s id snap) := by
  unfold Persist.fromSnapshot
  split
  · split
    · refine Within.bind Within.get fun w => ?_
      dsimp only
      split
      · exact Within.pure _
      · refine Within.bind (onEvents_within _) fun r => ?_
        split
        · split
          · exact Within.pure _
          · refine Within.bind (C.readWall ·) fun now => ?_
            split <;> exact Within.pure _
        · exact Within.pure _
    · exact Within.pure _
  · exact Within.pure _

theorem instantiate_within (st : SagaState) : C.Within (Persist.instantiate st) := by
  unfold Persist.instantiate
  refine Within.bind Within.get fun w => ?_
  split
  · exact Within.pure _
  · refine Within.bind (C.readWall ·) fun now => ?_
    dsimp only
    split
    · exact Within.pure _
    · exact Within.bind (C.drawId ·) fun _ => Within.pure _

/-- A whole load is a change of `C`: it reads the stores and the registry, the wall clock and
draws an identifier. -/
theorem load (s : Persist.Settings) (id : String) : C.Within (Persist.load s id) := by
  unfold Persist.load
  refine Within.bind Within.get fun w => ?_
  dsimp only
  split
  on_goal 1 =>
    refine Within.bind (fromSnapshot_within s id _) fun o => ?_
    split
    on_goal 1 => exact instantiate_within _
  -- without a usable snapshot, both branches replay the stream
  all_goals
    refine Within.bind (onEvents_within _) fun r => ?_
    split
    · exact Within.pure _
    · split
      · exact Within.pure _
      · refine Within.bind (C.readWall ·) fun now => ?_
        split
        · exact Within.pure _
        · exact instantiate_within _

end SaveChange

/-- Calm changes allow what a save does. -/
def calmChange : SaveChange where
  rel := Calm
  refl := Calm.refl
  trans := Calm.trans
  stores hi _ ha := Calm.of_eq hi ha
  readWall := calm_readWall
  drawId := calm_drawId

/-- A computation on the world that is calm from every world. -/
def CalmM {α : Type} (m : StateM World α) : Prop := ∀ w, Calm w (m.run w).2

/-- A save of a saga keeps every history and moves the wall clock forward: it only reads the
clock, draws event identifiers and changes the stores. -/
theorem save_calm (s : Persist.Settings) (st : SagaState) : CalmM (Persist.save s st) :=
  calmChange.save s st

/-! ## The primitives of the engine's processes -/

open Proc.Pact

/-- A quiet change keeps the keys: they are part of the frames. -/
theorem Calm.of_quiet {w w' : World} (h : Quiet w w') : Calm w w' := by
  refine ⟨?_, h.wall⟩
  have hkeys : ∀ l : List Instance, l.map Instance.keys = (l.map Instance.frame).map Instance.keys := by
    intro l
    simp only [List.map_map]
    rfl
  rw [hkeys, h.frames, ← hkeys]

/-- The processes of a step may run in the one mode of fresh keys, as the main process or as a
detached task. -/
instance : Kit freshKeys.pact freshKeys.mode :=
  ⟨fun _ _ hi hq => ⟨(Calm.of_quiet hq).keysFresh hi, hq.wall⟩⟩

instance : Kit freshKeys.pact freshKeys.pact.task := inferInstanceAs (Kit freshKeys.pact freshKeys.mode)

theorem state_sound {α : Type} {m : StateM World α} (hm : CalmM m) : freshKeys.Sound (Act.state m) :=
  sound_calm hm

/-- Changing an instance in a way that keeps its keys. -/
theorem modifyInst_sound (i : Nat) {f : Instance → Instance} (hf : ∀ x, (f x).keys = x.keys) :
    freshKeys.Sound (Act.modifyInst i f) :=
  sound_calm fun _ => calm_modifyInst fun x _ => hf x

end Engine

end Saga
