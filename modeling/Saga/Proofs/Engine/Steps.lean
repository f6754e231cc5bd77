import Saga.Proofs.Engine.Quiet
import Saga.Engine.Instance

/-!
# Steps leave the histories alone

Whatever a step does when it executes, compensates or asks its guard, it changes contexts,
tokens, inboxes, logs and the command bus, and reads the clocks, but never a history, a status
or the bus's health: every process of `Engine.Step` is sound in every mode with a `Kit`, and so
are the attempts and retries of a step in `Engine.Instance` and its announcements. The parallel
step's detached children run in the pact's mode of tasks, whose kit they need as well; their
end only drops a sender of their inbox.

The proofs follow the definitions: one lemma per function, the recursive ones by recursion on
their fuel or their list, and the steps themselves by recursion on the step, children
included.
-/

namespace Saga.Engine

open Proc.Pact

variable {P : Proc.Pact World}

section Parts

variable {m : Proc.Mode World} [Kit P m]

theorem applyEffects_sound (i : Nat) (fx : Effects) : P.Sound m (applyEffects i fx) := by
  unfold applyEffects
  refine Sound.bind (Sound.loop _ _ fun x _ => ?_) fun _ =>
    Sound.bind (Sound.loop _ _ fun k _ => ?_) fun _ => Sound.pure _
  · obtain ⟨k, v⟩ := x
    exact Sound.bind (setValue_sound i k v) fun _ => Sound.pure _
  · exact Sound.bind (removeValue_sound i k) fun _ => Sound.pure _

theorem play_sound (i : Nat) (call name : String) (s : Script) (fx : Effects) :
    P.Sound m (play i call name s fx) := by
  unfold play
  refine Sound.bind (noteCall_sound _ _ _) fun n => ?_
  dsimp only
  split
  next => exact Sound.bind (applyEffects_sound i fx) fun _ => Sound.pure _
  next => exact Sound.pure _
  next => exact Sound.halt _
  next d failure =>
    -- the delayed outcome settles like the immediate ones, after the pause if there is one
    split
    · refine Sound.bind (sleepFor_sound _) fun _ => ?_
      split
      · exact Sound.bind (applyEffects_sound i fx) fun _ => Sound.pure _
      · exact Sound.pure _
    · split
      · exact Sound.bind (applyEffects_sound i fx) fun _ => Sound.pure _
      · exact Sound.pure _

theorem allows_sound (i : Nat) (label name : String) :
    ∀ g : Option Guard, P.Sound m (allows i label name g)
  | none => Sound.pure _
  | some _ => Sound.bind (noteCall_sound _ _ _) fun _ => Sound.bind (context_sound i) fun _ => Sound.pure _

theorem attemptChild_sound (name : String) (limit : Option Span) (tok : Nat) {exec : Act (Outcome Unit)}
    (hexec : P.Sound m.narrow exec) : P.Sound m (attemptChild name limit tok exec) := by
  unfold attemptChild
  dsimp only
  refine Sound.bind (unlessCancelled_sound ?_ tok) fun r => ?_
  · cases limit with
    | none => exact hexec
    | some l =>
      exact Sound.bind (within_sound (m := m.narrow) hexec l) fun r => by cases r <;> exact Sound.pure _
  · cases r <;> exact Sound.pure _

theorem retryChild_sound (name : String) (limit : Option Span) (policy : Retry.Policy) (tok : Nat)
    {exec : Act (Outcome Unit)} (hexec : P.Sound m.narrow exec) :
    ∀ fuel attempt, P.Sound m (retryChild name limit policy tok exec fuel attempt)
  | 0, _ => by
    rw [retryChild]
    exact Sound.pure _
  | fuel + 1, attempt => by
    rw [retryChild]
    refine Sound.bind (attemptChild_sound name limit tok hexec) fun r => ?_
    rcases r with e | _
    · refine Sound.bind (isCancelled_sound tok) fun _ => ?_
      split
      · exact Sound.pure _
      · refine Sound.bind (unlessCancelled_sound (sleepFor_sound _) tok) fun r => ?_
        rcases r with _ | _
        · exact Sound.pure _
        · exact retryChild_sound name limit policy tok hexec fuel (attempt + 1)
    · exact Sound.pure _

theorem gather_sound (box : Nat) : ∀ fuel acc, P.Sound m (gather box fuel acc)
  | 0, _ => by
    rw [gather]
    exact Sound.pure _
  | fuel + 1, acc => by
    rw [gather]
    -- taking a result changes only the inbox
    have hrecv : ∀ w : World, (w.receive box).2 = { w with inboxes := (w.receive box).2.inboxes } := by
      intro w
      unfold World.receive
      split <;> rfl
    refine Sound.bind (Sound.await _) fun _ =>
      Sound.bind (sound_outside (fun w => by rw [hrecv]) (fun w => by rw [hrecv]) fun w => by rw [hrecv])
        fun r => ?_
    rcases r with _ | r
    · exact Sound.pure _
    · exact gather_sound box fuel _

theorem participantCall_sound (phase name : String) : P.Sound m (participantCall phase name) :=
  modify_sound (fun _ => rfl) (fun _ => rfl) fun _ => rfl

theorem prepare_sound (i : Nat) : ∀ v : Voter, P.Sound m (prepare i v)
  | .scripted .. => play_sound _ _ _ _ _
  | .fixture _ rejecting => Sound.bind (participantCall_sound _ _) fun _ => by
    cases rejecting <;> exact Sound.pure _

theorem commit_sound (i : Nat) : ∀ v : Voter, P.Sound m (commit i v)
  | .scripted .. => play_sound _ _ _ _ _
  | .fixture .. => Sound.bind (participantCall_sound _ _) fun _ => Sound.pure _

theorem abort_sound (i : Nat) : ∀ v : Voter, P.Sound m (abort i v)
  | .scripted .. => play_sound _ _ _ _ _
  | .fixture .. => Sound.bind (participantCall_sound _ _) fun _ => Sound.pure _

theorem abortAll_sound (i : Nat) : ∀ ps : List Voter, P.Sound m (abortAll i ps)
  | [] => Sound.pure _
  | p :: ps => Sound.bind (abortAll_sound i ps) fun _ => Sound.bind (abort_sound i p) fun _ => Sound.pure _

theorem prepareAll_sound (i tok : Nat) (tx : String) (all : List Voter) :
    ∀ (k : Nat) (ps : List Voter), P.Sound m (prepareAll i tok tx all k ps)
  | _, [] => by
    rw [prepareAll]
    exact Sound.pure _
  | k, p :: ps => by
    rw [prepareAll]
    refine Sound.bind (isCancelled_sound tok) fun c => ?_
    extract_lets next
    -- both votes, the participant's and the cancelled token's, go on to the same match
    have hnext : ∀ vote, P.Sound m (next vote) := by
      rintro (_ | _)
      · exact Sound.bind (abortAll_sound i _) fun _ => Sound.pure _
      · exact prepareAll_sound i tok tx all (k + 1) ps
    split
    · exact Sound.bind (Sound.pure _) hnext
    · exact Sound.bind (prepare_sound i p) hnext

theorem commitAll_sound (i : Nat) (tx : String) : ∀ ps : List Voter, P.Sound m (commitAll i tx ps)
  | [] => Sound.pure _
  | p :: ps => Sound.bind (commit_sound i p) fun r => by
    rcases r with _ | _
    · exact Sound.pure _
    · exact commitAll_sound i tx ps

theorem send_sound (env : Envelope) : P.Sound m (send env) :=
  sound_outside (fun _ => by dsimp only; split <;> rfl) (fun _ => by dsimp only; split <;> rfl) fun _ => by
    dsimp only; split <;> rfl

theorem dispatch_sound (i : Nat) (step : String) (build : SagaContext → Except CommandFault (String × Json))
    (tok : Option Nat) : P.Sound m (dispatch i step build tok) := by
  unfold dispatch
  refine Sound.bind (context_sound i) fun ctx => ?_
  split
  · exact Sound.pure _
  · refine Sound.bind wall_sound fun _ => ?_
    dsimp only
    split
    · refine Sound.bind (unlessCancelled_sound (send_sound _) _) fun r => ?_
      rcases r with _ | _ <;> exact Sound.bind (Sound.pure _) fun _ => Sound.pure _
    · exact Sound.bind (send_sound _) fun _ => Sound.pure _

theorem record_sound (action name : String) : P.Sound m (record action name) :=
  modify_sound (fun _ => rfl) (fun _ => rfl) fun _ => rfl

theorem recorderExecute_sound (i tok : Nat) (r : Recorder) : P.Sound m (recorderExecute i tok r) := by
  unfold recorderExecute
  refine Sound.bind (sound_outside (fun _ => rfl) (fun _ => rfl) fun _ => rfl) fun n =>
    Sound.bind (record_sound _ _) fun _ => ?_
  -- what follows once it is known whether the delay was cut short
  have finish : ∀ stopped : Bool, P.Sound m (if stopped = true then
      pure (.error (childCancelled r.name))
    else if n - 1 < r.failures then
      pure (.error (Error.stepExecution ("step '" ++ r.name ++ "' failed on attempt " ++ toString n)))
    else do Act.setValue i r.name (.bool true); pure (.ok ()) : Act (Outcome Unit)) := by
    intro stopped
    split
    · exact Sound.pure _
    · split
      · exact Sound.pure _
      · exact Sound.bind (setValue_sound _ _ _) fun _ => Sound.pure _
  dsimp only
  split
  · refine Sound.bind (unlessCancelled_sound (sleepFor_sound _) tok) fun o => ?_
    rcases o with _ | _ <;> exact Sound.bind (Sound.pure _) fun _ => finish _
  · exact Sound.bind (Sound.pure _) fun _ => finish _

theorem recorderCompensate_sound (i : Nat) (r : Recorder) : P.Sound m (recorderCompensate i r) := by
  unfold recorderCompensate
  refine Sound.bind (record_sound _ _) fun _ => ?_
  split
  · exact Sound.pure _
  · exact Sound.bind (setValue_sound _ _ _) fun _ => Sound.pure _

theorem canExecute_sound (i : Nat) : ∀ s : Step, P.Sound m (canExecute i s)
  | .conditional _ _ inner => by
    rw [canExecute]
    exact canExecute_sound i inner
  | .scripted .. => allows_sound _ _ _ _
  | .parallel .. => allows_sound _ _ _ _
  | .twoPhase .. => allows_sound _ _ _ _
  | .command .. => allows_sound _ _ _ _
  | .recording _ => Sound.pure _
  | .bare .. => Sound.pure _

theorem lifecycle_sound (i : Nat) (kind : LifecycleKind) : P.Sound m (lifecycle i kind) :=
  Sound.bind (inst_sound i) fun _ => Sound.bind wall_sound fun _ => Sound.pure _

theorem publish_sound (rt : Runtime) (i : Nat) (e : LifecycleEvent) : P.Sound m (publish rt i e).run := by
  unfold publish lift
  split
  · exact Sound.pure _
  · exact Sound.bind (inst_sound i) fun _ =>
      sound_outside (fun _ => by split <;> rfl) (fun _ => by split <;> rfl) fun _ => by split <;> rfl

end Parts

mutual

theorem execute_sound {m : Proc.Mode World} [Kit P m] [Kit P P.task] (i tok : Nat) : ∀ s : Step, P.Sound m (execute i tok s)
  | .scripted .. => play_sound _ _ _ _ _
  | .bare .. => play_sound _ _ _ _ _
  | .recording r => recorderExecute_sound i tok r
  | .conditional c g inner => by
    rw [execute]
    refine Sound.bind (allows_sound _ _ _ _) fun b => ?_
    split
    · exact Sound.bind (setValue_sound _ _ _) fun _ => execute_sound i tok inner
    · exact Sound.bind (setValue_sound _ _ _) fun _ => Sound.pure _
  | .twoPhase c ps => by
    rw [execute]
    refine Sound.bind freshId_sound fun tx => Sound.bind (setValue_sound _ _ _) fun _ => ?_
    refine Sound.bind (prepareAll_sound i tok tx ps 0 ps) fun r => ?_
    dsimp only
    rcases r with _ | _
    · exact Sound.bind (Sound.pure _) fun _ => Sound.pure _
    · exact Sound.bind (commitAll_sound i tx ps) fun _ => Sound.pure _
  | .command c spec => dispatch_sound _ _ _ _
  | .parallel c children => by
    rw [execute]
    refine Sound.bind (sound_outside (fun _ => rfl) (fun _ => rfl) fun _ => rfl) fun box =>
      Sound.bind (childToken_sound _) fun childTok =>
        Sound.bind (spawnChildren_sound i childTok box 0 children) fun _ =>
          Sound.bind (gather_sound _ _ _) fun _ => Sound.bind (cancel_sound _) fun _ => ?_
    dsimp only
    split
    · exact Sound.bind (setValue_sound _ _ _) fun _ => Sound.pure _
    · refine Sound.bind (rollBack_sound i children _) fun r => ?_
      rcases r with ⟨_, _⟩ | _
      · exact Sound.bind (setValue_sound _ _ _) fun _ => Sound.pure _
      · exact Sound.bind (setValue_sound _ _ _) fun _ => Sound.pure _

theorem compensate_sound {m : Proc.Mode World} [Kit P m] [Kit P P.task] (i : Nat) : ∀ s : Step, P.Sound m (compensate i s)
  | .scripted _ _ comp _ _ => by
    cases comp <;> simp only [compensate]
    · exact Sound.pure _
    · exact play_sound _ _ _ _ _
  | .bare .. => Sound.pure _
  | .recording r => recorderCompensate_sound i r
  | .conditional c _ inner => by
    rw [compensate]
    refine Sound.bind (context_sound i) fun _ => ?_
    split
    · exact Sound.pure _
    · exact compensate_sound i inner
  | .twoPhase c ps => by
    rw [compensate]
    refine Sound.bind (context_sound i) fun _ => ?_
    split
    · exact Sound.pure _
    · exact abortAll_sound i ps
  | .command c spec => by
    rw [compensate]
    split
    · exact dispatch_sound _ _ _ _
    · exact Sound.pure _
  | .parallel c children => by
    rw [compensate]
    exact Sound.bind (context_sound i) fun _ => compensateChildren_sound i c.name _ children

theorem spawnChildren_sound {m : Proc.Mode World} [Kit P m] [Kit P P.task] (i tok box : Nat) :
    ∀ (k : Nat) (ss : List Step), P.Sound m (spawnChildren i tok box k ss)
  | _, [] => by
    rw [spawnChildren]
    exact Sound.pure _
  | k, s :: rest => by
    rw [spawnChildren]
    refine Sound.bind (Sound.spawn ?_ ?_) fun _ => spawnChildren_sound i tok box (k + 1) rest
    · -- a child runs under its guard and its own retries, then reports
      refine Sound.bind (Sound.bind (canExecute_sound i s) fun b => ?_) fun _ =>
        modify_sound (fun _ => rfl) (fun _ => rfl) fun _ => rfl
      split
      · exact retryChild_sound _ _ _ _ (execute_sound (m := P.task.narrow) i tok s) _ _
      · exact Sound.pure _
    · intro _ w hi
      have h := Kit.quiet (m := P.task) w (w.dropSender box) hi (Quiet.of_eq rfl rfl rfl)
      exact ⟨h.1, P.task.part_own h.2⟩

theorem rollBack_sound {m : Proc.Mode World} [Kit P m] [Kit P P.task] (i : Nat) :
    ∀ (ss : List Step) (remaining : List String), P.Sound m (rollBack i ss remaining)
  | [], _ => by
    rw [rollBack]
    exact Sound.pure _
  | s :: rest, remaining => by
    rw [rollBack]
    refine Sound.bind (rollBack_sound i rest remaining) fun r => ?_
    rcases r with _ | remaining'
    · exact Sound.pure _
    · dsimp only
      split
      · exact Sound.pure _
      · refine Sound.bind (compensate_sound i s) fun r => ?_
        rcases r with _ | _ <;> exact Sound.pure _

theorem compensateChildren_sound {m : Proc.Mode World} [Kit P m] [Kit P P.task] (i : Nat) (parent : String) (succeeded : List String) :
    ∀ ss : List Step, P.Sound m (compensateChildren i parent succeeded ss)
  | [] => by
    rw [compensateChildren]
    exact Sound.pure _
  | s :: rest => by
    rw [compensateChildren]
    refine Sound.bind (compensateChildren_sound i parent succeeded rest) fun r => ?_
    rcases r with _ | _
    · exact Sound.pure _
    · dsimp only
      split
      · refine Sound.bind (compensate_sound i s) fun r => ?_
        rcases r with _ | _ <;> exact Sound.pure _
      · exact Sound.pure _

end

/-! ## Attempts and announcements -/

theorem runAttempt_sound {m : Proc.Mode World} [Kit P m] [Kit P P.task] (rt : Runtime) (i : Nat) (step : Step) (deadline : Option Nat) :
    P.Sound m (runAttempt rt i step deadline) := by
  unfold runAttempt
  refine Sound.bind (inst_sound i) fun inst => Sound.bind now_sound fun now => ?_
  dsimp only
  split
  · exact Sound.pure _
  · refine Sound.bind (childToken_sound _) fun tok => Sound.bind (unlessCancelled_sound ?_ rt.token) fun o => ?_
    · -- the attempt, within its limit when it has one
      split
      · exact Sound.bind (within_sound (execute_sound i tok step) _) fun r => by
          cases r <;> exact Sound.pure _
      · exact execute_sound i tok step
    · cases o <;> exact Sound.bind (Sound.pure _) fun _ => Sound.bind (cancel_sound tok) fun _ => Sound.pure _

theorem retryStep_sound {m : Proc.Mode World} [Kit P m] [Kit P P.task] (rt : Runtime) (i : Nat) (step : Step) (deadline : Option Nat) (policy : Retry.Policy) :
    ∀ fuel attempt, P.Sound m (retryStep rt i step deadline policy fuel attempt)
  | 0, _ => by
    rw [retryStep]
    exact Sound.pure _
  | fuel + 1, attempt => by
    rw [retryStep]
    refine Sound.bind (runAttempt_sound rt i step deadline) fun r => ?_
    rcases r with e | _
    · refine Sound.bind now_sound fun _ => Sound.bind (isCancelled_sound _) fun _ => ?_
      split
      · exact Sound.pure _
      · refine Sound.bind (unlessCancelled_sound (sleepFor_sound _) _) fun o => ?_
        rcases o with _ | _
        · exact Sound.bind (inst_sound i) fun _ => Sound.pure _
        · exact retryStep_sound rt i step deadline policy fuel (attempt + 1)
    · exact Sound.pure _

end Saga.Engine
