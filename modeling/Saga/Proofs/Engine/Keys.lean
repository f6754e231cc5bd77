import Saga.Proofs.Engine.Calm
import Saga.Proofs.Engine.Steps
import Saga.Engine.Instance
import Saga.Protocol.Scenario

/-!
# History keys stay distinct

A history entry is known by its step and its start, `(stepName, startedAt)`: replaying a
stream indexes entries by that key, and a store names its step rows after it. Running an
instance never gives two entries of a history the same key, whatever the definition, the
behaviour of its steps and the scheduling of parallel children.

The invariant is `KeysFresh`: the keys of every history are distinct and earlier than the
wall clock's next reading. A new entry is stamped with a reading of the clock, either at once
(a step's running entry, a compensation's start) or once the compensation is over
(`strictlyAfter`, which by then is a plain reading), and readings only go forward; settling an
entry in place or moving the status keeps the keys. The proofs step through the three places
that push an entry and compose everything else from the soundness of the steps.

An instance loaded from a saved state satisfies the invariant when its keys are distinct and
its entries were stamped before the clock's present reading, which is what a clock that never
goes backwards gives.
-/

namespace Saga

@[simp] theorem World.readWall_fst (w : World) : w.readWall.1 = w.ambient.wall := rfl

/-- Settling an entry changes neither its step nor its start. -/
theorem Instance.settle_go_keys {name : String} {started : Instant} {f : HistoryEntry → HistoryEntry}
    (hf : ∀ e, (f e).key = e.key) :
    ∀ l, (Instance.settle.go name started f l).1.map HistoryEntry.key = l.map HistoryEntry.key
  | [] => rfl
  | e :: rest => by
    -- the entry is settled here or further on; either way the tail keeps its keys
    have ih := @settle_go_keys name started f hf rest
    simp only [Instance.settle.go]
    split
    · next rest' h => simp [← ih, h]
    · next rest' h => split <;> simp [← ih, h, hf]

theorem Instance.keys_settle (x : Instance) (name : String) (started : Instant)
    {f : HistoryEntry → HistoryEntry} (hf : ∀ e, (f e).key = e.key) :
    (x.settle name started f).keys = x.keys :=
  Instance.settle_go_keys hf x.history

/-- Pushing an entry adds its key at the end. -/
theorem Instance.keys_push {x y : Instance} {e : HistoryEntry} (h : y.history = x.history ++ [e]) :
    y.keys = x.keys ++ [e.key] := by
  simp [Instance.keys, h]

theorem Instance.keys_transition {x y : Instance} {next : SagaStatus} {now : Instant}
    (h : x.transition next now = .ok y) : y.keys = x.keys := by
  unfold Instance.transition at h
  split at h
  · cases h
    rfl
  · cases h

namespace Engine

open Proc.Pact

/-- An entry stamped with a reading of the clock is later than every key, and the clock has
moved past it. -/
theorem keysFresh_stamp {w : World} (hi : KeysFresh w) (i : Nat) {f : Instance → Instance}
    (hf : ∀ x, ∃ e : HistoryEntry, (f x).history = x.history ++ [e] ∧ e.startedAt = w.readWall.1) :
    KeysFresh (w.readWall.2.modifyInst i f) := by
  refine @keysFresh_push w.readWall.2 w.ambient.wall hi (Instant.lt_addNanos w.ambient.wall (by decide)) i f
    fun x => ?_
  obtain ⟨e, he, hs⟩ := hf x
  exact ⟨e.stepName, by rw [Instance.keys_push he, HistoryEntry.key, hs, World.readWall_fst]⟩

/-- Pushing an entry stamped with the reading just taken: what follows starts in the invariant,
with every stable fact that held before the reading, and with the clock past the stamp. -/
theorem wp_stamp_bind {α : Type} {w : World} (hi : KeysFresh w) {R : World → Prop}
    (hR : freshKeys.Stable R) (hr : R w) (i : Nat) {f : Instance → Instance}
    (hf : ∀ x, ∃ e : HistoryEntry, (f x).history = x.history ++ [e] ∧ e.startedAt = w.readWall.1)
    {k : Unit → Flow α}
    {post : Except Error α → World → Prop}
    (h : KeysFresh (w.readWall.2.modifyInst i f) → R (w.readWall.2.modifyInst i f) →
      w.readWall.1 < (w.readWall.2.modifyInst i f).ambient.wall →
      freshKeys.wp (k ()).run post (w.readWall.2.modifyInst i f)) :
    freshKeys.wp ((liftM (Act.modifyInst i f) : Flow Unit) >>= k).run post w.readWall.2 := by
  have hpushed := keysFresh_stamp hi i hf
  have hlater : w.readWall.1 < (w.readWall.2.modifyInst i f).ambient.wall :=
    Instant.lt_addNanos w.ambient.wall (by decide)
  exact wp_except_update_bind hpushed (Instant.le_refl _)
    (h hpushed (hR _ _ hr (Instant.le_of_lt hlater) hpushed) hlater)

/-- Once the clock has passed `t`, `strictlyAfter t` is a plain reading of the clock. -/
theorem wp_strictlyAfter {t : Instant} {Q : Instant → World → Prop} {w : World} (hi : KeysFresh w)
    (ht : t < w.ambient.wall) (h : Q w.ambient.wall w.readWall.2) :
    freshKeys.wp (strictlyAfter t) Q w := by
  unfold strictlyAfter
  refine wp_update ((calm_readWall w).keysFresh hi) (calm_readWall w).wall ?_
  show Q (if t < w.ambient.wall then w.ambient.wall else t.addNanos 1000) w.readWall.2
  rw [if_pos ht]
  exact h

theorem persist_sound (rt : Runtime) (i : Nat) : freshKeys.Sound (persist rt i).run := by
  unfold persist lift
  split
  · exact Sound.pure _
  · exact Sound.bind (inst_sound i) fun _ => Sound.bind (state_sound (save_calm _ _)) fun _ => Sound.pure _

/-- A transition replaces the instance by a copy of the one it read, with the same history. -/
theorem transition_sound (i : Nat) (next : SagaStatus) : freshKeys.Sound (transition i next).run := by
  intro R hR s hi hr
  unfold transition lift
  rw [ExceptT.run_mk]
  refine wp_read hi ?_
  beta_reduce
  extract_lets finish
  -- whatever the stamp, the instance read is replaced by a copy with the same history, and no
  -- history has moved since the read
  have hfinish : ∀ now w, KeysFresh w → R w → w.instances = s.instances →
      freshKeys.wp (finish now) (fun _ s' => freshKeys.inv s' ∧ R s') w := by
    intro now w hiw hrw hinst
    dsimp only [finish]
    split
    · next y hy =>
      have hcalm : Calm w (w.modifyInst i fun _ => y) := calm_modifyInst fun x hx => by
        rw [Instance.keys_transition hy, World.inst, ← hinst, hx]
        rfl
      exact wp_update (hcalm.keysFresh hiw) hcalm.wall
        ⟨hcalm.keysFresh hiw, hR _ _ hrw hcalm.wall (hcalm.keysFresh hiw)⟩
    · exact ⟨hiw, hrw⟩
  split
  · have hc := calm_readWall s
    exact wp_update (hc.keysFresh hi) hc.wall (hfinish _ _ (hc.keysFresh hi) (hR _ _ hr hc.wall (hc.keysFresh hi)) rfl)
  · exact hfinish _ _ hi hr rfl

/-- A step's running entry is stamped with the reading just taken; the rest of the step is
sound. -/
theorem runStep_sound (rt : Runtime) (i index : Nat) (step : Step) (deadline : Option Nat) :
    freshKeys.Sound (runStep rt i index step deadline).run := by
  intro R hR s hi hr
  unfold runStep
  have hc := calm_readWall s
  refine wp_except_update_bind (hc.keysFresh hi) hc.wall ?_
  refine wp_except_read_bind (hc.keysFresh hi) ?_
  refine wp_except_pure_bind (fun _ _ => ⟨hc.keysFresh hi, hR _ _ hr hc.wall (hc.keysFresh hi)⟩) fun next _ => ?_
  refine wp_stamp_bind hi hR hr i (fun _ => ⟨_, rfl, rfl⟩)
    fun hi' hr' _ => Sound.wp ?_ hR hi' hr'
  -- the rest only settles the entry in place
  refine Sound.except_bind (persist_sound rt i) fun _ => ?_
  refine Sound.except_bind (Sound.except_lift (lifecycle_sound i _)) fun _ => ?_
  refine Sound.except_bind (publish_sound rt i _) fun _ => ?_
  refine Sound.except_bind (Sound.except_lift (canExecute_sound i step)) fun b => ?_
  refine Sound.except_bind (Sound.except_lift ?_) fun res => ?_
  · split
    · exact Sound.bind (inst_sound i) fun _ => retryStep_sound rt i step deadline _ _ _
    · exact Sound.pure _
  obtain ⟨result, attempt⟩ := res
  refine Sound.except_bind (Sound.except_lift wall_sound) fun finished => ?_
  refine Sound.except_bind (Sound.except_lift (modifyInst_sound i fun x =>
    Instance.keys_settle x _ _ fun _ => rfl)) fun _ => ?_
  refine Sound.except_bind (persist_sound rt i) fun _ => ?_
  rcases result with e | _ <;>
    exact Sound.except_bind (Sound.except_lift (lifecycle_sound i _)) fun _ =>
      Sound.except_bind (publish_sound rt i _) fun _ => Sound.except_pure _

theorem beginCompensation_sound (rt : Runtime) (i : Nat) (cause : Option Error) :
    freshKeys.Sound (beginCompensation rt i cause).run :=
  Sound.except_bind (transition_sound i _) fun _ => Sound.except_bind (persist_sound rt i) fun _ =>
    Sound.except_bind (Sound.except_lift (lifecycle_sound i _)) fun _ => publish_sound rt i _

/-- A compensation's entry is stamped with the reading just taken, and its outcome with the
reading taken once the compensation is over, which is later. -/
theorem compensateOne_sound (rt : Runtime) (i : Nat) (step : Step) :
    freshKeys.Sound (compensateOne rt i step).run := by
  intro R hR s hi hr
  unfold compensateOne
  refine wp_except_read_bind hi ?_
  dsimp only
  split
  · exact ⟨hi, hr⟩
  · have hc := calm_readWall s
    refine wp_except_update_bind (hc.keysFresh hi) hc.wall ?_
    refine wp_stamp_bind hi hR hr i (fun _ => ⟨_, rfl, rfl⟩) fun hi₁ hr₁ hlater => ?_
    -- from here on the clock stays past the start, whatever the other processes do
    have hR' : freshKeys.Stable fun w => R w ∧ s.readWall.1 < w.ambient.wall := hR.and (stable_before _)
    have herr : ∀ (_ : Error) w, KeysFresh w → R w ∧ s.readWall.1 < w.ambient.wall → KeysFresh w ∧ R w :=
      fun _ _ hiw hrw => ⟨hiw, hrw.1⟩
    refine Sound.except_frame (Sound.except_lift (lifecycle_sound i _)) hR' hi₁ ⟨hr₁, hlater⟩ herr
      fun _ w hiw hrw => ?_
    refine Sound.except_frame (publish_sound rt i _) hR' hiw hrw herr fun _ w hiw hrw => ?_
    refine Sound.except_frame (Sound.except_lift (compensate_sound i step)) hR' hiw hrw herr
      fun r w hiw hrw => ?_
    rw [wp_except_lift_bind]
    refine wp_strictlyAfter hiw hrw.2 ?_
    -- so the outcome is stamped with a plain reading as well
    rcases r with e | _
    · refine wp_stamp_bind hiw hR hrw.1 i (fun _ => ⟨_, rfl, rfl⟩) fun hi₂ hr₂ _ => Sound.wp ?_ hR hi₂ hr₂
      exact Sound.except_bind (transition_sound i _) fun _ => Sound.except_bind (persist_sound rt i) fun _ =>
        Sound.except_bind (Sound.except_lift (lifecycle_sound i _)) fun _ =>
          Sound.except_bind (publish_sound rt i _) fun _ => Sound.except_throw _
    · refine wp_stamp_bind hiw hR hrw.1 i (fun _ => ⟨_, rfl, rfl⟩) fun hi₂ hr₂ _ => Sound.wp ?_ hR hi₂ hr₂
      exact Sound.except_bind (persist_sound rt i) fun _ =>
        Sound.except_bind (Sound.except_lift (lifecycle_sound i _)) fun _ => publish_sound rt i _

theorem compensateSteps_sound (rt : Runtime) (i upto : Nat) (effectsLeft : Bool) :
    freshKeys.Sound (compensateSteps rt i upto effectsLeft).run := by
  unfold compensateSteps
  refine Sound.except_bind (Sound.except_lift (inst_sound i)) fun inst => ?_
  refine Sound.except_bind (Sound.except_loop _ _ fun k _ => ?_) fun _ => ?_
  · split
    · exact Sound.except_bind (compensateOne_sound rt i _) fun _ => Sound.except_pure _
    · exact Sound.except_pure _
  · split
    · exact Sound.except_bind (transition_sound i _) fun _ => Sound.except_bind (persist_sound rt i) fun _ =>
        Sound.except_pure _
    · exact Sound.except_bind (transition_sound i _) fun _ => Sound.except_bind (persist_sound rt i) fun _ =>
        Sound.except_bind (Sound.except_lift (lifecycle_sound i _)) fun _ => publish_sound rt i _

theorem failAndCompensate_sound (rt : Runtime) (i index : Nat) (name : String) (cause : Error) :
    freshKeys.Sound (failAndCompensate rt i index name cause).run := by
  unfold failAndCompensate
  refine Sound.except_bind (Sound.except_lift (inst_sound i)) fun inst => ?_
  refine Sound.except_bind (beginCompensation_sound rt i _) fun _ => ?_
  refine Sound.except_bind (Sound.except_lift (compensateSteps_sound rt i index _)) fun r => ?_
  rcases r with _ | _
  · dsimp only
    split <;> exact Sound.except_throw _
  · exact Sound.except_throw _

theorem runSteps_sound (rt : Runtime) (i : Nat) : freshKeys.Sound (runSteps rt i).run := by
  unfold runSteps
  refine Sound.except_bind (Sound.except_lift (modifyInst_sound i fun _ => rfl)) fun _ => ?_
  refine Sound.except_bind (Sound.except_lift (inst_sound i)) fun inst => ?_
  refine Sound.except_bind (Sound.except_lift now_sound) fun now => ?_
  refine Sound.except_bind (Sound.except_loop _ _ fun x _ => ?_) fun r => ?_
  · obtain ⟨step, index⟩ := x
    refine Sound.except_bind (runStep_sound rt i index step _) fun o => ?_
    rcases o with _ | _
    · exact Sound.except_pure _
    · exact Sound.except_bind (failAndCompensate_sound rt i index _ _) fun _ => Sound.except_pure _
  · dsimp only
    split
    · exact Sound.except_pure _
    · exact Sound.except_bind (transition_sound i _) fun _ => persist_sound rt i

theorem executeInstance_sound (rt : Runtime) (i : Nat) : freshKeys.Sound (executeInstance rt i).run := by
  unfold executeInstance
  refine Sound.except_bind (Sound.except_lift (inst_sound i)) fun inst => ?_
  dsimp only
  split
  · exact Sound.except_throw_bind _ _
  · refine Sound.except_bind (transition_sound i _) fun _ => ?_
    refine Sound.except_bind (Sound.except_lift wall_sound) fun _ => ?_
    refine Sound.except_bind (Sound.except_lift (modifyInst_sound i fun _ => rfl)) fun _ => ?_
    exact Sound.except_bind (persist_sound rt i) fun _ => runSteps_sound rt i

theorem resumeInstance_sound (rt : Runtime) (i : Nat) : freshKeys.Sound (resumeInstance rt i).run := by
  unfold resumeInstance
  refine Sound.except_bind (Sound.except_lift (inst_sound i)) fun inst => ?_
  split
  · exact executeInstance_sound rt i
  · exact runSteps_sound rt i
  · exact Sound.except_throw _

theorem compensateInstance_sound (rt : Runtime) (i : Nat) : freshKeys.Sound (compensateInstance rt i).run := by
  unfold compensateInstance
  refine Sound.except_bind (Sound.except_lift (inst_sound i)) fun inst => ?_
  dsimp only
  split
  · exact Sound.except_throw_bind _ _
  · exact Sound.except_bind (beginCompensation_sound rt i _) fun _ => compensateSteps_sound rt i _ _

/-! ## Whole runs -/

end Engine

end Saga
