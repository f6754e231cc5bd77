import Saga.Proofs.Engine.Runs
import Saga.Proofs.Proc.Ghost
import Saga.Protocol.Scenario

/-!
# One compensation pass per instance

Executing, resuming and compensating one instance may run side by side: an orchestrator's run
cancelled while a manual compensation starts, or any other arrangement of the engine's entry
points that the scheduler interleaves at their waits (`Concurrent`). Whatever the arrangement,
instance `i` enters compensation at most once, so at most one compensation pass runs: every
other call that tries is refused with an `InvalidState` error before it compensates anything.

Two facts carry this. Every status only moves up its rank along the status machine
(`SagaStatus.rank_lt_of_canBecome`), and no change any process of the engine makes moves one
back: these processes are sound for `statusForward`, the promise that statuses only move
forward (`Concurrent.sound`, from the soundness of every entry point in `Engine.Runs`). And
compensating has rank three, reached only from below, so along any such path it is entered at
most once. The count of entries is ghost state beside the run (`compensationEntries`), and
`EnteredOnce` (at most one entry, and after one the status is at compensating or past it) is
kept by every forward move; `Proc.Guarantee.runRounds_ghost_keeps` carries it through every
run. A call that tries to begin compensating once the status is past it is refused at its
first step (`beginCompensation_refused`, `compensateInstance_refused`).
-/

namespace Saga

namespace SagaStatus

/-- How far along the status machine a status lies. -/
def rank : SagaStatus → Nat
  | .pending => 0
  | .running => 1
  | .completed => 2
  | .compensating => 3
  | .compensated => 4
  | .failed => 4

/-- Every transition moves up the ranks. -/
theorem rank_lt_of_canBecome {a b : SagaStatus} (h : a.canBecome b = true) : a.rank < b.rank := by
  cases a <;> cases b <;> simp_all [canBecome, rank]

theorem rank_eq_three {s : SagaStatus} : s.rank = 3 ↔ s = .compensating := by
  cases s <;> simp [rank]

/-- No transition leaves a status at compensating or past it for compensating. -/
theorem canBecome_compensating_of_rank {s : SagaStatus} (h : 3 ≤ s.rank) : s.canBecome .compensating = false := by
  cases s <;> simp_all [rank, canBecome]

end SagaStatus

theorem Instance.transition_ok {x y : Instance} {next : SagaStatus} {now : Instant}
    (h : x.transition next now = .ok y) : y.status = next ∧ x.status.canBecome next = true := by
  unfold Instance.transition at h
  split at h
  · cases h
    exact ⟨rfl, ‹_›⟩
  · cases h

namespace Engine

open Proc.Pact

/-! ## Statuses only move forward -/

/-- A change of the world that moves no instance's status back along the status machine. -/
def StatusForward (w w' : World) : Prop := ∀ j, (w.inst j).status.rank ≤ (w'.inst j).status.rank

/-- Statuses only move forward, as a promise between processes. -/
def statusForward : Proc.Guarantee World where
  inv _ := True
  moves := StatusForward
  refl _ _ := Nat.le_refl _
  trans h₁ h₂ j := Nat.le_trans (h₁ j) (h₂ j)

/-- A quiet change keeps every status: statuses are part of the frames. -/
theorem Quiet.status_inst {w w' : World} (h : Quiet w w') (j : Nat) :
    (w'.inst j).status = (w.inst j).status := by
  have hf := h.frame_getElem? j
  simp only [World.inst]
  cases h₁ : w.instances[j]? <;> cases h₂ : w'.instances[j]? <;> simp only [h₁, h₂, Option.map_none,
    Option.map_some, reduceCtorEq, Option.some.injEq, Option.getD_some] at hf ⊢
  -- the frame keeps everything but the context
  have hstatus := congrArg Instance.status hf
  exact hstatus

theorem Quiet.statusForward {w w' : World} (h : Quiet w w') : StatusForward w w' :=
  fun j => by rw [h.status_inst j]

instance : Kit statusForward.pact statusForward.mode := ⟨fun _ _ _ hq => ⟨trivial, hq.statusForward⟩⟩

instance : Kit statusForward.pact statusForward.pact.task :=
  inferInstanceAs (Kit statusForward.pact statusForward.mode)

/-- Changing instance `i` without moving its status back. -/
theorem statusForward_modifyInst {w : World} {i : Nat} {f : Instance → Instance}
    (hf : ∀ x, w.instances[i]? = some x → x.status.rank ≤ (f x).status.rank) :
    StatusForward w (w.modifyInst i f) := by
  intro j
  simp only [World.inst, World.modifyInst, List.getElem?_modify]
  cases hx : w.instances[j]? with
  | none => simp
  | some x =>
    by_cases hij : i = j
    · subst hij
      simpa using hf x hx
    · simp [hij]

/-- Changing an instance and keeping its status. -/
theorem keepStatus_sound (i : Nat) {f : Instance → Instance} (hf : ∀ x, (f x).status = x.status) :
    statusForward.Sound (Act.modifyInst i f) :=
  Sound.update fun _ _ => ⟨trivial, statusForward_modifyInst fun x _ => by rw [hf x],
    statusForward_modifyInst fun x _ => by rw [hf x]⟩

/-- A transition moves the status it read along the status machine. -/
theorem transition_forward (i : Nat) (next : SagaStatus) : statusForward.Sound (transition i next).run := by
  intro R hR s _ hr
  unfold transition lift
  rw [ExceptT.run_mk]
  refine wp_read trivial ?_
  beta_reduce
  extract_lets finish
  -- whatever the stamp, the instance read is the one the transition replaces
  have hfinish : ∀ now w, R w → w.instances = s.instances →
      statusForward.wp (finish now) (fun _ s' => statusForward.inv s' ∧ R s') w := by
    intro now w hrw hinst
    dsimp only [finish]
    split
    · next y hy =>
      have hmove : StatusForward w (w.modifyInst i fun _ => y) := statusForward_modifyInst fun x hx => by
        have hxs : s.inst i = x := by rw [World.inst, ← hinst, hx]; rfl
        obtain ⟨rfl, hcan⟩ := Instance.transition_ok hy
        exact Nat.le_of_lt (hxs ▸ SagaStatus.rank_lt_of_canBecome hcan)
      exact wp_update trivial hmove ⟨trivial, hR _ _ hrw hmove trivial⟩
    · exact ⟨trivial, hrw⟩
  split
  · have hq := (quiet_readWall s).statusForward
    exact wp_update trivial hq (hfinish _ _ (hR _ _ hr hq trivial) rfl)
  · exact hfinish _ _ hr rfl

/-- Running a step changes its instance's history, chain and position, never its status. -/
theorem runStep_forward (rt : Runtime) (i index : Nat) (step : Step) (deadline : Option Nat) :
    statusForward.Sound (runStep rt i index step deadline).run := by
  unfold runStep
  refine Sound.except_bind (Sound.except_lift wall_sound) fun started => ?_
  refine Sound.except_bind (Sound.except_lift (inst_sound i)) fun inst => ?_
  refine Sound.except_bind (Sound.pure _) fun next => ?_
  refine Sound.except_bind (Sound.except_lift (keepStatus_sound i fun _ => rfl)) fun _ => ?_
  refine Sound.except_bind (Kit.persist_sound rt i) fun _ => ?_
  refine Sound.except_bind (Sound.except_lift (lifecycle_sound i _)) fun _ => ?_
  refine Sound.except_bind (publish_sound rt i _) fun _ => ?_
  refine Sound.except_bind (Sound.except_lift (canExecute_sound i step)) fun b => ?_
  refine Sound.except_bind (Sound.except_lift ?_) fun res => ?_
  · split
    · exact Sound.bind (inst_sound i) fun _ => retryStep_sound rt i step deadline _ _ _
    · exact Sound.pure _
  obtain ⟨result, attempt⟩ := res
  refine Sound.except_bind (Sound.except_lift wall_sound) fun finished => ?_
  refine Sound.except_bind (Sound.except_lift (keepStatus_sound i fun _ => rfl)) fun _ => ?_
  refine Sound.except_bind (Kit.persist_sound rt i) fun _ => ?_
  rcases result with e | _ <;>
    exact Sound.except_bind (Sound.except_lift (lifecycle_sound i _)) fun _ =>
      Sound.except_bind (publish_sound rt i _) fun _ => Sound.except_pure _

/-- Compensating a step pushes entries onto its instance's history, and moves the status only
by a transition, to failed when the compensation fails. -/
theorem compensateOne_forward (rt : Runtime) (i : Nat) (step : Step) :
    statusForward.Sound (compensateOne rt i step).run := by
  unfold compensateOne
  refine Sound.except_bind (Sound.except_lift (inst_sound i)) fun inst => ?_
  dsimp only
  split
  · exact Sound.except_pure _
  · refine Sound.except_bind (Sound.except_lift wall_sound) fun started => ?_
    refine Sound.except_bind (Sound.except_lift (keepStatus_sound i fun _ => rfl)) fun _ => ?_
    refine Sound.except_bind (Sound.except_lift (lifecycle_sound i _)) fun _ => ?_
    refine Sound.except_bind (publish_sound rt i _) fun _ => ?_
    refine Sound.except_bind (Sound.except_lift (compensate_sound i step)) fun r => ?_
    refine Sound.except_bind (Sound.except_lift (strictlyAfter_sound _)) fun finished => ?_
    rcases r with e | _
    · refine Sound.except_bind (Sound.except_lift (keepStatus_sound i fun _ => rfl)) fun _ => ?_
      exact Sound.except_bind (transition_forward i _) fun _ => Sound.except_bind (Kit.persist_sound rt i) fun _ =>
        Sound.except_bind (Sound.except_lift (lifecycle_sound i _)) fun _ =>
          Sound.except_bind (publish_sound rt i _) fun _ => Sound.except_throw _
    · refine Sound.except_bind (Sound.except_lift (keepStatus_sound i fun _ => rfl)) fun _ => ?_
      exact Sound.except_bind (Kit.persist_sound rt i) fun _ =>
        Sound.except_bind (Sound.except_lift (lifecycle_sound i _)) fun _ => publish_sound rt i _

instance : Runs statusForward.pact statusForward.mode where
  toKit := inferInstance
  transition_sound := transition_forward
  runStep_sound := runStep_forward
  compensateOne_sound := compensateOne_forward
  reshape_sound i _ hf := keepStatus_sound i fun x => (hf x).1

/-! ## Calls side by side -/

/-- Processes made of the engine's entry points, run one after another, side by side, in a race
and after sleeps: every arrangement of calls whose waits the scheduler interleaves. -/
inductive Concurrent : {α : Type} → Act α → Prop
  | execute (rt : Runtime) (i : Nat) : Concurrent (executeInstance rt i).run
  | resume (rt : Runtime) (i : Nat) : Concurrent (resumeInstance rt i).run
  | compensate (rt : Runtime) (i : Nat) : Concurrent (compensateInstance rt i).run
  | orchestratorExecute (o : Orchestrator) (i : Nat) : Concurrent (o.execute i).run
  | orchestratorCompensate (o : Orchestrator) (i : Nat) : Concurrent (o.compensate i).run
  | orchestratorCancel (id : String) : Concurrent (Orchestrator.cancel id).run
  | sleep (d : Span) : Concurrent (Act.sleepFor d)
  | pure {α : Type} (a : α) : Concurrent (Proc.pure a : Act α)
  | bind {α β : Type} {p : Act β} {k : β → Act α} : Concurrent p → (∀ b, Concurrent (k b)) →
      Concurrent (p >>= k)
  | race {α β : Type} {l : Act α} {r : Act β} : Concurrent l → Concurrent r → Concurrent (Proc.race l r)
  | both {α β : Type} {l : Act α} {r : Act β} : Concurrent l → Concurrent r → Concurrent (Proc.both l r)
  | fair {α β : Type} {l : Act α} {r : Act β} (swapped : Bool) : Concurrent l → Concurrent r →
      Concurrent (Proc.fair l r swapped)

/-- Calls side by side move no status back. -/
theorem Concurrent.sound {α : Type} {p : Act α} (hp : Concurrent p) : statusForward.Sound p := by
  induction hp with
  | execute rt i => exact Runs.executeInstance_sound rt i
  | resume rt i => exact Runs.resumeInstance_sound rt i
  | compensate rt i => exact Runs.compensateInstance_sound rt i
  | orchestratorExecute o i => exact Runs.orchestratorExecute_sound o i
  | orchestratorCompensate o i => exact Runs.orchestratorCompensate_sound o i
  | orchestratorCancel id => exact Runs.orchestratorCancel_sound id
  | sleep d => exact sleepFor_sound d
  | pure a => exact Sound.pure a
  | bind _ _ hp hk => exact Sound.bind hp hk
  | race _ _ hl hr => exact Sound.race hl hr
  | both _ _ hl hr => exact Sound.both hl hr
  | fair swapped _ _ hl hr => exact Sound.fair hl hr swapped


/-! ## Counting the entries into compensation -/

/-- The ghost of a run: the entries of instance `i` into compensation so far, one more for each
change that moves its status to compensating. -/
def compensationEntries (i : Nat) (w w' : World) (n : Nat) : Nat :=
  if (w.inst i).status ≠ .compensating ∧ (w'.inst i).status = .compensating then n + 1 else n

/-- At most one entry of instance `i` into compensation so far, and once there was one the
status is at compensating or past it. -/
def EnteredOnce (i : Nat) (x : World × Nat) : Prop := x.2 ≤ 1 ∧ (0 < x.2 → 3 ≤ (x.1.inst i).status.rank)

/-- A change that moves no status back keeps `EnteredOnce`: an entry comes from below
compensating, so from a state where nothing was counted yet. -/
theorem EnteredOnce.forward {i : Nat} {w w' : World} {n : Nat} (h : EnteredOnce i (w, n))
    (hf : StatusForward w w') : EnteredOnce i (w', compensationEntries i w w' n) := by
  have hmono := hf i
  unfold EnteredOnce at h ⊢
  dsimp only at h ⊢
  obtain ⟨hn, hpast⟩ := h
  unfold compensationEntries
  split
  · next hentry =>
    obtain ⟨hbefore, hafter⟩ := hentry
    have hthree : (w'.inst i).status.rank = 3 := SagaStatus.rank_eq_three.mpr hafter
    have hbelow : (w.inst i).status.rank ≠ 3 := fun h => hbefore (SagaStatus.rank_eq_three.mp h)
    have hzero : n = 0 := by
      by_contra hne
      have := hpast (Nat.pos_of_ne_zero hne)
      omega
    exact ⟨by omega, fun _ => by omega⟩
  · exact ⟨hn, fun hpos => Nat.le_trans (hpast hpos) hmono⟩

/-- A run of `p` for `rounds` rounds of the scheduler from `w`, as a scenario runs it, with the
entries of instance `i` into compensation counted beside it. -/
def countedRun {α : Type} (i rounds : Nat) (p : Act α) (w : World) : Proc.Ending α × World × Nat :=
  Proc.runRounds (fun y => Protocol.clockOf y.1) (fun t y => (Protocol.setClock t y.1, y.2)) rounds
    (Proc.ghost (compensationEntries i) p) [] (w, 0)

/-- Every run of calls side by side is the run with its count beside it, and the count is at
most one. -/
theorem countedRun_le_one {α : Type} {p : Act α} (hp : Concurrent p) (i rounds : Nat) (w : World) :
    ∃ n, countedRun i rounds p w =
        ((Proc.runRounds Protocol.clockOf Protocol.setClock rounds p [] w).1,
          (Proc.runRounds Protocol.clockOf Protocol.setClock rounds p [] w).2, n) ∧ n ≤ 1 := by
  obtain ⟨n, hrun, hJ⟩ := Proc.Guarantee.runRounds_ghost_keeps (compensationEntries i) statusForward (EnteredOnce i)
    Protocol.clockOf Protocol.setClock (fun _ _ _ => ⟨trivial, fun _ => Nat.le_refl _⟩)
    (fun _ _ _ hf h => h.forward hf) (fun _ _ _ h => h) hp.sound rounds trivial
    (show EnteredOnce i (w, 0) from ⟨Nat.zero_le _, fun h => absurd h (Nat.lt_irrefl 0)⟩)
  exact ⟨n, hrun, hJ.1⟩

/-! ## Late attempts are refused -/

/-- A call that ends at once with an `InvalidState` error and leaves the world as it found it. -/
def Refused (f : Flow Unit) (w : World) : Prop :=
  statusForward.wp f.run (fun r w' => w' = w ∧ ∃ e : Error, r = .error e ∧ e.kind = .invalidState) w

/-- A transition the status does not allow, to a status that is not terminal, is refused. -/
theorem transition_refused {i : Nat} {next : SagaStatus} {w : World} (hnext : next.isTerminal = false)
    (hcan : (w.inst i).status.canBecome next = false) : Refused (transition i next) w := by
  unfold Refused transition lift
  rw [ExceptT.run_mk]
  refine wp_read trivial ?_
  simp only [hnext, Bool.false_eq_true, if_false, Instance.transition, hcan]
  exact ⟨rfl, _, rfl, rfl⟩

/-- What follows a refused call is skipped. -/
theorem Refused.bind {α : Type} {f : Flow Unit} {k : Unit → Flow α} {w : World} (h : Refused f w) :
    statusForward.wp (f >>= k).run (fun r w' => w' = w ∧ ∃ e : Error, r = .error e ∧ e.kind = .invalidState) w :=
  wp_except_bind (wp_mono _ _ (fun r w' hr => by
    obtain ⟨rfl, e, rfl, he⟩ := hr
    exact ⟨rfl, e, rfl, he⟩) _ h)

/-- Once instance `i` is at compensating or past it, beginning its compensation is refused. -/
theorem beginCompensation_refused (rt : Runtime) {i : Nat} (cause : Option Error) {w : World}
    (h : 3 ≤ (w.inst i).status.rank) : Refused (beginCompensation rt i cause) w :=
  Refused.bind (transition_refused rfl (SagaStatus.canBecome_compensating_of_rank h))

/-- Once instance `i` is at compensating or past it, compensating it by hand is refused by the
check of its status. -/
theorem compensateInstance_refused (rt : Runtime) {i : Nat} {w : World} (h : 3 ≤ (w.inst i).status.rank) :
    Refused (compensateInstance rt i) w := by
  unfold Refused compensateInstance
  refine wp_except_read_bind trivial ?_
  have hcheck : (!((w.inst i).status == .running || (w.inst i).status == .completed)) = true := by
    revert h
    cases (w.inst i).status <;> decide
  dsimp only
  rw [if_pos hcheck]
  exact ⟨rfl, _, rfl, rfl⟩

/-- Once instance `i` is at compensating or past it, a run whose step failed is refused when it
begins to compensate. -/
theorem failAndCompensate_refused (rt : Runtime) {i : Nat} (index : Nat) (name : String) (cause : Error)
    {w : World} (h : 3 ≤ (w.inst i).status.rank) : Refused (failAndCompensate rt i index name cause) w := by
  unfold Refused failAndCompensate
  refine wp_except_read_bind trivial ?_
  exact Refused.bind (beginCompensation_refused rt _ h)

/-! ## At most one pass -/

/-- Instance `i` enters compensation at most once, whatever calls run side by side: every run of
them, cut after any number of rounds of the scheduler, is the run with a count of the entries
beside it, and the count is at most one. Once the instance is at compensating or past it, every
call that would compensate it, by hand or after a failed step, is refused at once with an
`InvalidState` error and changes nothing, so it compensates no step. -/
theorem compensation_begins_at_most_once {α : Type} {p : Act α} (hp : Concurrent p) (i : Nat) :
    (∀ rounds w, ∃ n, countedRun i rounds p w =
        ((Proc.runRounds Protocol.clockOf Protocol.setClock rounds p [] w).1,
          (Proc.runRounds Protocol.clockOf Protocol.setClock rounds p [] w).2, n) ∧ n ≤ 1) ∧
      ∀ (rt : Runtime) (w : World), 3 ≤ (w.inst i).status.rank →
        Refused (compensateInstance rt i) w ∧
          ∀ index name cause, Refused (failAndCompensate rt i index name cause) w :=
  ⟨countedRun_le_one hp i, fun rt _ h =>
    ⟨compensateInstance_refused rt h, fun index name cause => failAndCompensate_refused rt index name cause h⟩⟩

/-- A manual compensation beside an execution of the same instance. -/
theorem compensation_beside_execution_begins_at_most_once :
    Concurrent (Proc.both (compensateInstance default 0).run (executeInstance default 0).run) ∧
      (∀ rounds w, ∃ n, countedRun 0 rounds (Proc.both (compensateInstance default 0).run
          (executeInstance default 0).run) w =
        ((Proc.runRounds Protocol.clockOf Protocol.setClock rounds
            (Proc.both (compensateInstance default 0).run (executeInstance default 0).run) [] w).1,
          (Proc.runRounds Protocol.clockOf Protocol.setClock rounds
            (Proc.both (compensateInstance default 0).run (executeInstance default 0).run) [] w).2, n) ∧ n ≤ 1) ∧
      ∀ (rt : Runtime) (w : World), 3 ≤ (w.inst 0).status.rank →
        Refused (compensateInstance rt 0) w ∧
          ∀ index name cause, Refused (failAndCompensate rt 0 index name cause) w :=
  have hp := Concurrent.both (.compensate default 0) (.execute default 0)
  ⟨hp, compensation_begins_at_most_once hp 0⟩

end Engine

end Saga
