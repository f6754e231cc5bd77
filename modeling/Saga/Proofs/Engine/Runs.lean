import Saga.Proofs.Engine.Calm
import Saga.Proofs.Engine.Writes
import Saga.Engine.Orchestrator

/-!
# Running instances in any mode that allows their changes

Executing, resuming and compensating an instance (`Engine.Instance`) is made of the processes
of its steps, of saves and announcements, and of the instance's own changes: moving its status,
running and compensating one step, and changing its other fields. A `Runs` mode is one of a
kit in which these are sound. In such a mode every entry point of the engine is sound: the
instance's (`Runs.executeInstance_sound`, `Runs.resumeInstance_sound`,
`Runs.compensateInstance_sound`) and the orchestrator's (`Runs.orchestratorExecute_sound`,
`Runs.orchestratorCompensate_sound`, `Runs.orchestratorCancel_sound`), which add saves, announcements and
the bookkeeping of running sagas.

A save changes only the stores, the wall clock and the identifiers, so it is a quiet change
(`save_quiet`) and sound in every mode with a kit (`Kit.persist_sound`); a load reads the
registry besides, and is quiet too (`load_quiet`).
-/

namespace Saga.Engine

open Proc.Pact

/-! ## Saves are quiet -/

/-- Quiet changes allow what a save does. -/
def quietChange : SaveChange where
  rel := Quiet
  refl := Quiet.refl
  trans := Quiet.trans
  stores hi hb ha := Quiet.of_eq hi hb ha
  readWall := quiet_readWall
  drawId := quiet_drawId

theorem save_quiet (s : Persist.Settings) (st : SagaState) (w : World) :
    Quiet w ((Persist.save s st).run w).2 :=
  quietChange.save s st w

section Kit

variable {P : Proc.Pact World} {m : Proc.Mode World} [Kit P m]

theorem Kit.save_sound (s : Persist.Settings) (st : SagaState) : P.Sound m (Act.state (Persist.save s st)) :=
  sound_quiet (save_quiet s st)

theorem Kit.persist_sound (rt : Runtime) (i : Nat) : P.Sound m (persist rt i).run := by
  unfold persist lift
  split
  · exact Sound.pure _
  · exact Sound.bind (inst_sound i) fun _ => Sound.bind (Kit.save_sound _ _) fun _ => Sound.pure _

end Kit

/-- A mode of pact `P`, with a kit, in which the changes an instance makes while it runs are
sound: moving its status, running or compensating one of its steps, and changing what is
neither its status nor its history. -/
class Runs (P : Proc.Pact World) (m : Proc.Mode World) : Prop extends Kit P m where
  transition_sound : ∀ i next, P.Sound m (transition i next).run
  runStep_sound : ∀ rt i index step deadline, P.Sound m (runStep rt i index step deadline).run
  compensateOne_sound : ∀ rt i step, P.Sound m (compensateOne rt i step).run
  reshape_sound : ∀ i {f : Instance → Instance}, (∀ x, (f x).status = x.status ∧ (f x).history = x.history) →
    P.Sound m (Act.modifyInst i f)

namespace Runs

variable {P : Proc.Pact World} {m : Proc.Mode World} [Runs P m]

/-! ## The instance's entry points -/

theorem beginCompensation_sound (rt : Runtime) (i : Nat) (cause : Option Error) :
    P.Sound m (beginCompensation rt i cause).run :=
  Sound.except_bind (transition_sound i _) fun _ => Sound.except_bind (Kit.persist_sound rt i) fun _ =>
    Sound.except_bind (Sound.except_lift (lifecycle_sound i _)) fun _ => publish_sound rt i _

theorem compensateSteps_sound (rt : Runtime) (i upto : Nat) (effectsLeft : Bool) :
    P.Sound m (compensateSteps rt i upto effectsLeft).run := by
  unfold compensateSteps
  refine Sound.except_bind (Sound.except_lift (inst_sound i)) fun inst => ?_
  refine Sound.except_bind (Sound.except_loop _ _ fun k _ => ?_) fun _ => ?_
  · split
    · exact Sound.except_bind (compensateOne_sound rt i _) fun _ => Sound.except_pure _
    · exact Sound.except_pure _
  · split
    · exact Sound.except_bind (transition_sound i _) fun _ =>
        Sound.except_bind (Kit.persist_sound rt i) fun _ => Sound.except_pure _
    · exact Sound.except_bind (transition_sound i _) fun _ => Sound.except_bind (Kit.persist_sound rt i) fun _ =>
        Sound.except_bind (Sound.except_lift (lifecycle_sound i _)) fun _ => publish_sound rt i _

theorem failAndCompensate_sound (rt : Runtime) (i index : Nat) (name : String) (cause : Error) :
    P.Sound m (failAndCompensate rt i index name cause).run := by
  unfold failAndCompensate
  refine Sound.except_bind (Sound.except_lift (inst_sound i)) fun inst => ?_
  refine Sound.except_bind (beginCompensation_sound rt i _) fun _ => ?_
  refine Sound.except_bind (Sound.except_lift (compensateSteps_sound rt i index _)) fun r => ?_
  rcases r with _ | _
  · dsimp only
    split <;> exact Sound.except_throw _
  · exact Sound.except_throw _

theorem runSteps_sound (rt : Runtime) (i : Nat) : P.Sound m (runSteps rt i).run := by
  unfold runSteps
  refine Sound.except_bind (Sound.except_lift (reshape_sound i fun _ => ⟨rfl, rfl⟩)) fun _ => ?_
  refine Sound.except_bind (Sound.except_lift (inst_sound i)) fun inst => ?_
  refine Sound.except_bind (Sound.except_lift now_sound) fun now => ?_
  refine Sound.except_bind (Sound.except_loop _ _ fun x _ => ?_) fun r => ?_
  · obtain ⟨step, index⟩ := x
    refine Sound.except_bind (runStep_sound rt i index step _) fun o => ?_
    rcases o with _ | _
    · exact Sound.except_pure _
    · exact Sound.except_bind (failAndCompensate_sound rt i index _ _) fun _ => Sound.except_pure _
  · dsimp only
    split
    · exact Sound.except_pure _
    · exact Sound.except_bind (transition_sound i _) fun _ => Kit.persist_sound rt i

theorem executeInstance_sound (rt : Runtime) (i : Nat) : P.Sound m (executeInstance rt i).run := by
  unfold executeInstance
  refine Sound.except_bind (Sound.except_lift (inst_sound i)) fun inst => ?_
  dsimp only
  split
  · exact Sound.except_throw_bind _ _
  · refine Sound.except_bind (transition_sound i _) fun _ => ?_
    refine Sound.except_bind (Sound.except_lift wall_sound) fun _ => ?_
    refine Sound.except_bind (Sound.except_lift (reshape_sound i fun _ => ⟨rfl, rfl⟩)) fun _ => ?_
    exact Sound.except_bind (Kit.persist_sound rt i) fun _ => runSteps_sound rt i

theorem resumeInstance_sound (rt : Runtime) (i : Nat) : P.Sound m (resumeInstance rt i).run := by
  unfold resumeInstance
  refine Sound.except_bind (Sound.except_lift (inst_sound i)) fun inst => ?_
  split
  · exact executeInstance_sound rt i
  · exact runSteps_sound rt i
  · exact Sound.except_throw _

theorem compensateInstance_sound (rt : Runtime) (i : Nat) : P.Sound m (compensateInstance rt i).run := by
  unfold compensateInstance
  refine Sound.except_bind (Sound.except_lift (inst_sound i)) fun inst => ?_
  dsimp only
  split
  · exact Sound.except_throw_bind _ _
  · exact Sound.except_bind (beginCompensation_sound rt i _) fun _ => compensateSteps_sound rt i _ _

/-! ## The orchestrator's entry points -/

theorem orchestratorRun_sound (o : Orchestrator) (i tok : Nat) (mode : RunMode) : P.Sound m (o.run i tok mode).run := by
  unfold Orchestrator.run
  refine Sound.except_bind (Sound.except_lift wall_sound) fun started => ?_
  extract_lets afterStart
  -- the run proper, after the announcement of its start when it executes
  have hafter : ∀ r, P.Sound m (afterStart r).run := by
    intro r
    dsimp only [afterStart]
    refine Sound.except_bind (Sound.except_lift ?_) fun result => ?_
    · cases mode
      · exact executeInstance_sound _ i
      · exact resumeInstance_sound _ i
    refine Sound.except_bind (Sound.except_lift wall_sound) fun finished => ?_
    -- the final announcement, the save of an unfinished saga, and the answer: the announcement's
    -- outcome after a success, the instance's error after a failure
    rcases result with e | ⟨⟩
    · refine Sound.except_bind (Sound.except_lift (lifecycle_sound i _)) fun _ => ?_
      refine Sound.except_bind (Sound.except_pure _) fun terminal => ?_
      refine Sound.except_bind (Sound.except_lift (publish_sound _ i _)) fun published => ?_
      refine Sound.except_bind (Sound.except_lift (inst_sound i)) fun inst => ?_
      split
      · exact Sound.except_bind (Sound.except_lift (Kit.save_sound _ _)) fun _ => Sound.except_throw _
      · exact Sound.except_throw _
    · refine Sound.except_bind (Sound.except_lift (lifecycle_sound i _)) fun _ => ?_
      refine Sound.except_bind (Sound.except_pure _) fun terminal => ?_
      refine Sound.except_bind (Sound.except_lift (publish_sound _ i _)) fun published => ?_
      refine Sound.except_bind (Sound.except_lift (inst_sound i)) fun inst => ?_
      split
      · exact Sound.except_bind (Sound.except_lift (Kit.save_sound _ _)) fun _ => Sound.pure _
      · exact Sound.pure _
  split
  · exact Sound.except_bind (Sound.except_lift (lifecycle_sound i _)) fun _ =>
      Sound.except_bind (publish_sound _ i _) hafter
  · exact hafter ()

/-- Tracking a saga changes only the ledger of running sagas. -/
theorem track_quiet (id : String) (w : World) : Quiet w (w.track id).2 :=
  Quiet.of_eq (by unfold World.track; split <;> rfl) (by unfold World.track; split <;> rfl)
    (by unfold World.track; split <;> rfl)

theorem track_sound (id : String) : P.Sound m (Orchestrator.track id).run :=
  sound_quiet (track_quiet id)

theorem runTracked_sound (o : Orchestrator) (i : Nat) (t : Tracked) (mode : RunMode) :
    P.Sound m (o.runTracked i t mode).run :=
  Sound.except_bind (Sound.except_lift (orchestratorRun_sound o i t.token mode)) fun _ =>
    Sound.except_bind (Sound.except_lift (modify_sound (fun _ => rfl) (fun _ => rfl) fun _ => rfl)) fun _ =>
      Sound.pure _

theorem orchestratorExecute_sound (o : Orchestrator) (i : Nat) : P.Sound m (o.execute i).run := by
  unfold Orchestrator.execute
  refine Sound.except_bind (Sound.except_lift (inst_sound i)) fun inst => ?_
  dsimp only
  split
  · exact Sound.except_throw_bind _ _
  · exact Sound.except_bind (track_sound _) fun t => runTracked_sound o i t _

theorem orchestratorCompensate_sound (o : Orchestrator) (i : Nat) : P.Sound m (o.compensate i).run := by
  unfold Orchestrator.compensate
  refine Sound.except_bind (Sound.except_lift (inst_sound i)) fun inst => ?_
  refine Sound.except_bind (Sound.except_lift (read_sound _)) fun running => ?_
  split
  · exact Sound.except_throw_bind _ _
  · exact Sound.except_bind (Sound.except_lift (sound_outside (fun _ => rfl) (fun _ => rfl) fun _ => rfl))
      fun tok => compensateInstance_sound _ i

theorem orchestratorCancel_sound (id : String) : P.Sound m (Orchestrator.cancel id).run := by
  unfold Orchestrator.cancel
  refine Sound.except_bind (Sound.except_lift (sound_outside (fun w => ?_) (fun w => ?_) fun w => ?_)) fun found => ?_
  · unfold World.dropRunning; split <;> rfl
  · unfold World.dropRunning; split <;> rfl
  · unfold World.dropRunning; split <;> rfl
  · rcases found with _ | t
    · exact Sound.except_throw _
    · exact Sound.except_lift (cancel_sound _)

end Runs

end Saga.Engine
