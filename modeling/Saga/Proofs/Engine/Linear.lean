import Saga.Proofs.Engine.FailedWrites
import Saga.Proofs.Engine.Runs

/-!
# The chain is the order of the steps

The chain compiled from distinct step names accepts a sequence of events from `initial`, one
`fire` after another, exactly when the sequence begins the steps' events in their order, and it
then stands in the state of the last step whose event it took (`Chain.fireAll_initial_eq_ok`).
Link `m` of the chain starts in the state before step `m`, and those states are distinct
(`Chain.states_nodup`), so in each state only the next step's event is accepted
(`Chain.fire_compile_eq_ok`).

A run of an instance's steps resets its chain and fires the steps' events in the order of the
definition. While no other run changes the instance (`mainMode`: the others change it only
quietly), the chain of a built definition stands before step `j` when step `j` fires
(`ChainAt`), so the event is accepted, and whatever the steps, the saves and the bus do, the
run never ends with the chain's refusal (`runSteps_unrefused`). A refusal is an `invalid_state`
error whose text starts `event '` (`Error.IsRefusal`); every other error a run can end with has
another kind or another text, which `KeepsChain` carries through the pieces of the run.
-/

namespace Saga

namespace Chain

/-- Fires `events` one after another from `state`: the state the last one leads to, or the
refusal of the first one not accepted. -/
def fireAll (c : Chain) (state : String) (events : List String) : Outcome String :=
  events.foldlM c.fire state

theorem fireAll_cons (c : Chain) (s ev : String) (evs : List String) :
    c.fireAll s (ev :: evs) = c.fire s ev >>= fun t => c.fireAll t evs := rfl

theorem initial_ne_stateFor (n : String) : initial ≠ stateFor n := by
  intro h
  have := congrArg (fun s : String => s.toList.head?) h
  simp [initial, stateFor] at this

theorem stateFor_inj {a b : String} (h : stateFor a = stateFor b) : a = b :=
  (String.append_right_inj _).mp h

/-- Link `m` of a chain goes from the state before name `m`, by that name's event, to the state
after it. -/
theorem mem_links_getD : ∀ {names : List String} {prev : String} {t : (String × String) × String},
    t ∈ links prev names → ∃ m < names.length, t.1.1 = (prev :: names.map stateFor).getD m "" ∧
      t.1.2 = eventFor (names.getD m "") ∧ t.2 = stateFor (names.getD m "")
  | [], _, _, h => absurd h List.not_mem_nil
  | n :: ns, prev, t, h => by
    rcases List.mem_cons.mp h with rfl | h
    · exact ⟨0, by simp, rfl, rfl, rfl⟩
    · obtain ⟨m, hm, hs, he, ht⟩ := mem_links_getD h
      exact ⟨m + 1, by simpa using hm, by simpa using hs, by simpa using he, by simpa using ht⟩

/-- With distinct names, the states of a chain are distinct. -/
theorem states_nodup {names : List String} (hnd : names.Nodup) : (compile names).states.Nodup := by
  refine List.nodup_cons.mpr ⟨fun h => ?_, hnd.map fun _ _ => stateFor_inj⟩
  obtain ⟨n, -, hn⟩ := List.mem_map.mp h
  exact initial_ne_stateFor n hn.symm

variable {names : List String}

theorem length_states (names : List String) : (compile names).states.length = names.length + 1 := by
  simp [compile]

theorem getD_states_inj (hnd : names.Nodup) {m j : Nat} (hm : m ≤ names.length) (hj : j ≤ names.length)
    (h : (compile names).states.getD m "" = (compile names).states.getD j "") : m = j := by
  have hlen := length_states names
  rw [List.getD_eq_getElem _ _ (by omega), List.getD_eq_getElem _ _ (by omega)] at h
  exact (states_nodup hnd).getElem_inj_iff.mp h

/-- With distinct names, the state before step `j` accepts that step's event, leading to the state
after it, and no other event. -/
theorem fire_compile_eq_ok (hnd : names.Nodup) {j : Nat} (hj : j ≤ names.length) {ev t : String} :
    (compile names).fire ((compile names).states.getD j "") ev = .ok t ↔
      ∃ h : j < names.length, ev = eventFor names[j] ∧ t = stateFor names[j] := by
  constructor
  · intro hf
    unfold fire at hf
    split at hf
    · rename_i t' ht'
      cases hf
      -- the transition taken is a link of the chain, and only link `j` starts in state `j`
      obtain ⟨x, hx, rfl⟩ := Option.map_eq_some_iff.mp ht'
      have hkey : x.1 = ((compile names).states.getD j "", ev) :=
        beq_iff_eq.mp (List.find?_eq_some_iff_append.mp hx).1
      have hmem : x ∈ links initial names := List.mem_reverse.mp (List.mem_of_find?_eq_some hx)
      obtain ⟨m, hm, hs, he, ht⟩ := mem_links_getD hmem
      have hmj : m = j := getD_states_inj hnd (by omega) hj (hs.symm.trans (congrArg Prod.fst hkey))
      subst hmj
      refine ⟨hm, ?_, ?_⟩
      · rw [show ev = x.1.2 from (congrArg Prod.snd hkey).symm, he, List.getD_eq_getElem _ _ hm]
      · rw [ht, List.getD_eq_getElem _ _ hm]
    · cases hf
  · rintro ⟨hjl, rfl, rfl⟩
    exact fire_compile hnd hjl

/-- From the state before step `j`, a sequence of events is accepted exactly when it begins the
events of the steps from `j` on, and it leads as many states further. -/
theorem fireAll_compile_eq_ok (hnd : names.Nodup) (evs : List String) :
    ∀ {j : Nat}, j ≤ names.length → ∀ {s : String},
    (compile names).fireAll ((compile names).states.getD j "") evs = .ok s ↔
      evs <+: (names.drop j).map eventFor ∧ s = (compile names).states.getD (j + evs.length) "" := by
  induction evs with
  | nil =>
    intro j hj s
    simp [fireAll, pure, Except.pure, eq_comm]
  | cons ev evs ih =>
    intro j hj s
    rw [fireAll_cons]
    cases hf : (compile names).fire ((compile names).states.getD j "") ev with
    | error e =>
      -- a refused event is not the next step's
      refine ⟨fun h => (by cases h), fun ⟨hp, _⟩ => ?_⟩
      rcases Nat.lt_or_ge j names.length with hjl | hjl
      · rw [List.drop_eq_getElem_cons hjl, List.map_cons, List.cons_prefix_cons] at hp
        rw [(fire_compile_eq_ok hnd hj).mpr ⟨hjl, hp.1, rfl⟩] at hf
        cases hf
      · rw [List.drop_eq_nil_of_le hjl] at hp
        exact absurd hp (by simp)
    | ok t =>
      obtain ⟨hjl, rfl, rfl⟩ := (fire_compile_eq_ok hnd hj).mp hf
      have hnext : stateFor names[j] = (compile names).states.getD (j + 1) "" := (states_getD_succ hjl).symm
      show (compile names).fireAll (stateFor names[j]) evs = .ok s ↔ _
      rw [hnext, ih (by omega), List.drop_eq_getElem_cons hjl, List.map_cons, List.cons_prefix_cons,
        List.length_cons, show j + (evs.length + 1) = j + 1 + evs.length by omega]
      simp

/-- From `initial`, a sequence of events is accepted exactly when it begins the steps' events. -/
theorem fireAll_initial_eq_ok (hnd : names.Nodup) (evs : List String) (s : String) :
    (compile names).fireAll initial evs = .ok s ↔
      evs <+: names.map eventFor ∧ s = (compile names).states.getD evs.length "" := by
  have h := fireAll_compile_eq_ok hnd evs (Nat.zero_le names.length) (s := s)
  rwa [List.drop_zero, Nat.zero_add] at h

end Chain

/-- An error of the chain refusing an event: of kind `invalid_state`, with a text that starts
`event '`. -/
def Error.IsRefusal (e : Error) : Prop := e.kind = .invalidState ∧ "event '".toList <+: e.message.toList

/-- Every error the chain gives is a refusal. -/
theorem Chain.isRefusal_of_fire {c : Chain} {state event : String} {e : Error}
    (h : c.fire state event = .error e) : e.IsRefusal := by
  unfold Chain.fire at h
  split at h
  · cases h
  · cases h
    exact ⟨rfl, by simp [Error.withContext, Error.invalidState, Error.new, String.toList_append]⟩

namespace Engine

open Proc.Pact

/-- A result that is no refusal of the chain. -/
def Unrefused {α : Type} (r : Except Error α) : Prop := ∀ e, r = .error e → ¬ e.IsRefusal

theorem unrefused_ok {α : Type} (a : α) : Unrefused (.ok a : Except Error α) := fun _ h => nomatch h

theorem unrefused_error {α : Type} {e : Error} (h : ¬ e.IsRefusal) : Unrefused (.error e : Except Error α) := by
  rintro _ ⟨⟩
  exact h

theorem not_isRefusal_of_kind {e : Error} (h : e.kind ≠ .invalidState) : ¬ e.IsRefusal := fun hr => h hr.1

/-- The promise of a run on any runtime: the detached children change things quietly, and
nothing else is asked of the world. -/
def anyRunPact : Proc.Pact World := ⟨fun _ => True, childMode⟩

instance : Kit anyRunPact mainMode := ⟨fun _ _ _ hq => ⟨trivial, hq⟩⟩

instance : Kit anyRunPact childMode := ⟨fun _ _ _ hq => ⟨trivial, hq⟩⟩

instance : Kit anyRunPact anyRunPact.task := inferInstanceAs (Kit anyRunPact childMode)

/-- Instance `i` runs definition `d`, and its chain stands in state `c`. -/
def ChainAt (i : Nat) (d : Definition) (c : String) (w : World) : Prop :=
  w.instances[i]?.map (fun x => (x.definition, x.chainState)) = some (d, c)

variable {i : Nat} {d : Definition} {c : String}

theorem ChainAt.quiet {w w' : World} (h : ChainAt i d c w) (hq : Quiet w w') : ChainAt i d c w' := by
  have hpair : ∀ l : List Instance, l[i]?.map (fun x => (x.definition, x.chainState)) =
      (l[i]?.map Instance.frame).map (fun x => (x.definition, x.chainState)) := by
    intro l
    rw [Option.map_map]
    rfl
  unfold ChainAt at *
  rw [hpair, hq.frame_getElem?, ← hpair, h]

theorem stable_chainAt : anyRunPact.Stable mainMode (ChainAt i d c) := fun _ _ h hq _ => h.quiet hq

theorem ChainAt.inst {w : World} (h : ChainAt i d c w) : (w.inst i).definition = d ∧ (w.inst i).chainState = c := by
  unfold ChainAt at h
  unfold World.inst
  cases hx : w.instances[i]? with
  | none => simp [hx] at h
  | some x => simpa [hx] using h

theorem ChainAt.modifyInst {w : World} {c' : String} (h : ChainAt i d c w) {f : Instance → Instance}
    (hf : ∀ x, x.definition = d → x.chainState = c → (f x).definition = d ∧ (f x).chainState = c') :
    ChainAt i d c' (w.modifyInst i f) := by
  unfold ChainAt at *
  unfold World.modifyInst
  rw [List.getElem?_modify]
  cases hx : w.instances[i]? with
  | none => simp [hx] at h
  | some x =>
    simp only [hx, Option.map_some, Option.some.injEq, Prod.mk.injEq] at h
    simp [(hf x h.1 h.2).1, (hf x h.1 h.2).2]

/-- A process that leaves the chain of instance `i` where it stands, and fails with no refusal. -/
def KeepsChain (i : Nat) {α : Type} (p : Flow α) : Prop :=
  ∀ d c w, ChainAt i d c w → anyRunPact.wp mainMode p.run (fun r w' => Unrefused r ∧ ChainAt i d c w') w

namespace KeepsChain

theorem pure {α : Type} (a : α) : KeepsChain i (Pure.pure a : Flow α) :=
  fun _ _ _ h => ⟨unrefused_ok a, h⟩

theorem throw {α : Type} {e : Error} (he : ¬ e.IsRefusal) : KeepsChain i (MonadExcept.throw e : Flow α) :=
  fun _ _ _ h => ⟨unrefused_error he, h⟩

theorem bind {α β : Type} {x : Flow β} {f : β → Flow α} (hx : KeepsChain i x) (hf : ∀ b, KeepsChain i (f b)) :
    KeepsChain i (x >>= f) := fun d c w h =>
  wp_except_bind (wp_mono _ _ (fun r w' ⟨hr, hc⟩ => by
    cases r with
    | error e => exact ⟨unrefused_error (hr e rfl), hc⟩
    | ok b => exact hf b d c w' hc) _ (hx d c w h))

/-- A sound process of the engine, then the rest. -/
theorem liftM_bind {α β : Type} {p : Act β} (hp : anyRunPact.Sound mainMode p) {f : β → Flow α}
    (hf : ∀ b, KeepsChain i (f b)) : KeepsChain i ((liftM p : Flow β) >>= f) := fun d c _ h =>
  Sound.frame hp stable_chainAt trivial h fun b w' _ h' => hf b d c w' h'

/-- A process run for its result, which is no refusal, then the rest. -/
theorem act_run_bind {α β : Type} {x : Flow β} {f : Except Error β → Flow α} (hx : KeepsChain i x)
    (hf : ∀ r, Unrefused r → KeepsChain i (f r)) : KeepsChain i ((act x.run : Flow (Except Error β)) >>= f) :=
  fun d c w h => (wp_mono mainMode x.run (fun r w' ⟨hr, hc⟩ => hf r hr d c w' hc) w (hx d c w h) :
    anyRunPact.wp mainMode x.run (fun r => anyRunPact.wp mainMode (f r).run
      (fun r w' => Unrefused r ∧ ChainAt i d c w')) w)

theorem forIn {α β : Type} (xs : List α) (b : β) {f : α → β → Flow (ForInStep β)}
    (hf : ∀ x b, KeepsChain i (f x b)) : KeepsChain i (forIn xs b f) := by
  induction xs generalizing b with
  | nil => exact pure b
  | cons x xs ih =>
    rw [List.forIn_cons]
    refine bind (hf x b) fun r => ?_
    cases r with
    | done b' => exact pure b'
    | yield b' => exact ih b'

/-- A change of instance `i` that keeps its definition and chain state. -/
theorem modifyInst_bind {α : Type} {f : Instance → Instance} {k : Unit → Flow α}
    (hf : ∀ x, (f x).definition = x.definition ∧ (f x).chainState = x.chainState) (hk : KeepsChain i (k ())) :
    KeepsChain i ((liftM (Act.modifyInst i f) : Flow Unit) >>= k) := fun d c _ h =>
  wp_except_update_bind trivial trivial
    (hk d c _ (h.modifyInst fun x hd hc => ⟨(hf x).1.trans hd, (hf x).2.trans hc⟩))

end KeepsChain

/-! ## The pieces of a run -/

open KeepsChain

/-- A save fails with an error of the stores or of the persistence. -/
theorem persist_keepsChain (rt : Runtime) (i : Nat) : KeepsChain i (persist rt i) := by
  intro d c w h
  unfold persist lift
  rw [ExceptT.run_mk]
  cases rt.keeping with
  | none => exact ⟨unrefused_ok (), h⟩
  | some s =>
    refine ⟨trivial, trivial, trivial, trivial, ?_⟩
    dsimp only
    have hq := save_quiet s (w.inst i).toState w
    have hkind := save_avoids (k := .invalidState) (by decide) s (w.inst i).toState w
    generalize (Persist.save s (w.inst i).toState).run w = o at hq hkind ⊢
    obtain ⟨r, w'⟩ := o
    refine ⟨fun e he => ?_, h.quiet hq⟩
    cases r with
    | ok u => cases he
    | error e' =>
      cases he
      exact not_isRefusal_of_kind (hkind e' rfl)

/-- An announcement fails only with the bus's error. -/
theorem publish_keepsChain (rt : Runtime) (i : Nat) (e : LifecycleEvent) : KeepsChain i (publish rt i e) := by
  intro d c w h
  unfold publish lift
  rw [ExceptT.run_mk]
  cases rt.bus
  · exact ⟨unrefused_ok (), h⟩
  · refine ⟨trivial, trivial, trivial, trivial, ?_⟩
    dsimp only
    split
    · exact ⟨unrefused_error (not_isRefusal_of_kind (by simp [Error.ofBus, Error.ofFailure, Error.withSource,
        Error.withContext])), h⟩
    · exact ⟨unrefused_ok (), h.quiet (Quiet.of_eq rfl rfl rfl)⟩

/-- A transition moves the status only, or is refused with a text of its own. -/
theorem transition_keepsChain (i : Nat) (next : SagaStatus) : KeepsChain i (transition i next) := by
  intro d c w h
  unfold transition lift
  rw [ExceptT.run_mk]
  refine wp_read trivial ?_
  beta_reduce
  extract_lets finish
  have hfinish : ∀ now w', ChainAt i d c w' →
      anyRunPact.wp mainMode (finish now) (fun r w'' => Unrefused r ∧ ChainAt i d c w'') w' := by
    intro now w' h'
    have hread := h.inst
    dsimp only [finish]
    by_cases hcan : (w.inst i).status.canBecome next = true
    · rw [Instance.transition, if_pos hcan]
      exact ⟨trivial, trivial, unrefused_ok (), h'.modifyInst fun _ _ _ => hread⟩
    · rw [Instance.transition, if_neg hcan]
      refine ⟨unrefused_error ?_, h'⟩
      simp [Error.IsRefusal, Error.withContext, Error.invalidState, Error.new, String.toList_append]
  split
  · exact ⟨trivial, trivial, hfinish _ _ (h.quiet (quiet_readWall w))⟩
  · exact hfinish _ _ h

theorem beginCompensation_keepsChain (rt : Runtime) (i : Nat) (cause : Option Error) :
    KeepsChain i (beginCompensation rt i cause) :=
  bind (transition_keepsChain i _) fun _ => bind (persist_keepsChain rt i) fun _ =>
    liftM_bind (lifecycle_sound i _) fun _ => publish_keepsChain rt i _

theorem compensateOne_keepsChain (rt : Runtime) (i : Nat) (step : Step) :
    KeepsChain i (compensateOne rt i step) := by
  unfold compensateOne
  refine liftM_bind (inst_sound i) fun inst => ?_
  dsimp only
  split
  · exact pure ()
  refine liftM_bind wall_sound fun started => ?_
  refine modifyInst_bind (fun _ => ⟨rfl, rfl⟩) ?_
  refine liftM_bind (lifecycle_sound i _) fun _ => bind (publish_keepsChain rt i _) fun _ => ?_
  refine liftM_bind (compensate_sound i step) fun r => ?_
  refine liftM_bind (strictlyAfter_sound started) fun finished => ?_
  rcases r with e | ⟨⟩
  · refine modifyInst_bind (fun _ => ⟨rfl, rfl⟩) (bind (transition_keepsChain i _) fun _ => ?_)
    refine bind (persist_keepsChain rt i) fun _ => liftM_bind (lifecycle_sound i _) fun _ => ?_
    refine bind (publish_keepsChain rt i _) fun _ => throw ?_
    simp [Error.IsRefusal, Error.withContext, Error.withSource]
  · refine modifyInst_bind (fun _ => ⟨rfl, rfl⟩) (bind (persist_keepsChain rt i) fun _ => ?_)
    exact liftM_bind (lifecycle_sound i _) fun _ => publish_keepsChain rt i _

theorem compensateSteps_keepsChain (rt : Runtime) (i upto : Nat) (effectsLeft : Bool) :
    KeepsChain i (compensateSteps rt i upto effectsLeft) := by
  unfold compensateSteps
  refine liftM_bind (inst_sound i) fun inst => ?_
  refine bind (forIn _ _ fun k _ => ?_) fun _ => ?_
  · split
    · exact bind (compensateOne_keepsChain rt i _) fun _ => pure _
    · exact pure _
  · split
    · exact bind (transition_keepsChain i _) fun _ => bind (persist_keepsChain rt i) fun _ => pure _
    · exact bind (transition_keepsChain i _) fun _ => bind (persist_keepsChain rt i) fun _ =>
        liftM_bind (lifecycle_sound i _) fun _ => publish_keepsChain rt i _

theorem failAndCompensate_keepsChain (rt : Runtime) (i index : Nat) (name : String) (cause : Error) :
    KeepsChain i (failAndCompensate rt i index name cause) := by
  unfold failAndCompensate
  refine liftM_bind (inst_sound i) fun inst => ?_
  refine bind (beginCompensation_keepsChain rt i _) fun _ => ?_
  refine act_run_bind (compensateSteps_keepsChain rt i index _) fun r hr => ?_
  rcases r with comp | ⟨⟩
  · dsimp only
    split
    · refine throw ?_
      simp [Error.IsRefusal, Error.withContext, Error.withSource]
    · exact throw (hr comp rfl)
  · refine throw ?_
    simp [Error.IsRefusal, Error.withContext, Error.withSource, String.toList_append]

/-! ## Running the steps -/

/-- A step whose event the chain accepts moves the chain to the state the event leads to, and
fails with no refusal. -/
theorem runStep_moves (rt : Runtime) (i index : Nat) (step : Step) (deadline : Option Nat) {c next : String}
    (hfire : d.chain.fire c (Chain.eventFor step.name) = .ok next) {w : World} (h : ChainAt i d c w) :
    anyRunPact.wp mainMode (runStep rt i index step deadline).run
      (fun r w' => Unrefused r ∧ ChainAt i d next w') w := by
  unfold runStep
  refine Sound.frame wall_sound stable_chainAt trivial h fun started w₁ _ h₁ => ?_
  refine wp_except_read_bind trivial ?_
  rw [show (w₁.inst i).definition = d from h₁.inst.1, show (w₁.inst i).chainState = c from h₁.inst.2, hfire]
  refine wp_except_pure_bind (fun _ h => nomatch h) fun next' hnext => ?_
  cases hnext
  refine wp_except_update_bind trivial trivial ((?_ : KeepsChain i _) d next _
    (h₁.modifyInst fun _ hd _ => ⟨hd, rfl⟩))
  -- the rest keeps the chain where the step's event left it
  refine bind (persist_keepsChain rt i) fun _ => ?_
  refine liftM_bind (lifecycle_sound i _) fun _ => bind (publish_keepsChain rt i _) fun _ => ?_
  refine liftM_bind (canExecute_sound i step) fun b => ?_
  refine liftM_bind (?_ : anyRunPact.Sound mainMode _) fun res => ?_
  · cases b
    · exact Sound.pure _
    · exact Sound.bind (inst_sound i) fun _ => retryStep_sound rt i step deadline _ _ _
  obtain ⟨result, attempt⟩ := res
  refine liftM_bind wall_sound fun finished => ?_
  refine modifyInst_bind (fun _ => ⟨rfl, rfl⟩) (bind (persist_keepsChain rt i) fun _ => ?_)
  rcases result with e | ⟨⟩
  · exact liftM_bind (lifecycle_sound i _) fun _ => bind (publish_keepsChain rt i _) fun _ => pure _
  · exact liftM_bind (lifecycle_sound i _) fun _ => bind (publish_keepsChain rt i _) fun _ => pure _

theorem runSteps_unrefused (rt : Runtime) (i : Nat) {steps : List Step} (hsteps : d.steps = steps)
    (hchain : d.chain = Chain.compile (steps.map Step.name)) (hnd : (steps.map Step.name).Nodup)
    {w : World} (h : ChainAt i d c w) :
    anyRunPact.wp mainMode (runSteps rt i).run (fun r _ => Unrefused r) w := by
  unfold runSteps
  refine wp_except_update_bind trivial trivial ?_
  have h₁ : ChainAt i d Chain.initial
      (w.modifyInst i fun inst => { inst with chainState := Chain.initial, currentStep := 0 }) :=
    h.modifyInst fun _ hd _ => ⟨hd, rfl⟩
  refine wp_except_read_bind trivial ?_
  refine wp_except_read_bind trivial ?_
  dsimp only
  rw [h₁.inst.1, hsteps]
  refine wp_except_bind ?_
  -- the loop runs over the steps from `j` on, with the chain standing after those before it
  refine wp_except_forIn (fun xs b w => b = (none, ()) ∧ ∃ j ≤ steps.length,
      xs = (steps.drop j).zipIdx j ∧ ChainAt i d ((Chain.compile (steps.map Step.name)).states.getD j "") w)
    ?_ ?_ _ _ _ ⟨rfl, 0, Nat.zero_le _, rfl, h₁⟩
  · intro x xs b w₂ ⟨hb, j, hj, hxs, hc⟩
    obtain ⟨hjl, rfl, rfl⟩ := zipIdx_drop_eq_cons hxs.symm
    subst hb
    have hj' : j < (steps.map Step.name).length := by simpa using hjl
    have hfire : d.chain.fire ((Chain.compile (steps.map Step.name)).states.getD j "")
        (Chain.eventFor steps[j].name) = .ok (Chain.stateFor steps[j].name) := by
      simpa [hchain] using Chain.fire_compile hnd hj'
    refine wp_except_bind (wp_mono _ _ (fun r w₃ ⟨hr, hc₃⟩ => ?_) _ (runStep_moves rt i j steps[j] _ hfire hc))
    rcases r with e | _ | cause
    · exact unrefused_error (hr e rfl)
    · refine ⟨rfl, j + 1, hjl, rfl, ?_⟩
      rwa [Chain.states_getD_succ hj', List.getElem_map]
    · -- a failed step ends the loop with the compensation's outcome
      refine wp_except_bind (wp_mono _ _ (fun r' w₄ ⟨hr', _⟩ => ?_) _
        (failAndCompensate_keepsChain rt i j _ cause d _ w₃ hc₃))
      rcases r' with e | v
      · exact unrefused_error (hr' e rfl)
      · exact unrefused_ok v
  · intro b w₂ ⟨hb, _, _, _, hc⟩
    subst hb
    -- every step ran: the saga completes and is saved
    exact wp_mono _ _ (fun r _ hr => hr.1) _
      ((bind (transition_keepsChain i .completed) fun _ => persist_keepsChain rt i) d _ w₂ hc)

/-! ## Runs of the scheduler -/

/-- A run of the steps of an instance of a built definition, with no other run beside it, never
ends with the chain's refusal: from whatever state the instance's chain was in, every step's
event fires in turn. -/
theorem runSteps_never_refused (rt : Runtime) (i rounds : Nat) {w : World} {x : Instance}
    (hx : w.instances[i]? = some x) {name : String} {steps : List Step} {policy : Option Retry.Policy}
    {timeout : Option Span} (hd : Definition.build name steps policy timeout = .ok x.definition)
    {r : Except Error Unit}
    (hr : (Proc.runRounds Protocol.clockOf Protocol.setClock rounds (runSteps rt i).run [] w).1 = .done r) :
    Unrefused r := by
  obtain ⟨hsteps, hchain, hnd⟩ := Definition.build_ok hd
  have h : ChainAt i x.definition x.chainState w := by rw [ChainAt, hx]; rfl
  have hwp := runSteps_unrefused rt i hsteps hchain hnd h
  -- the children put up with anything, the main process with their quiet changes, and moving
  -- the virtual clock is quiet
  have hset : ∀ n w, anyRunPact.inv w →
      anyRunPact.inv (Protocol.setClock n w) ∧ Quiet w (Protocol.setClock n w) ∧ True :=
    fun _ _ _ => ⟨trivial, Quiet.of_eq rfl rfl rfl, trivial⟩
  obtain ⟨-, hpost⟩ := runRounds_sound (P := anyRunPact) Protocol.clockOf (fun _ => trivial) Protocol.setClock
    (m := mainMode) (fun _ => trivial) id hset rounds _ [] w _ trivial hwp (by simp)
  exact hpost r hr

/-- The chain compiled from distinct step names accepts a sequence of events from `initial`
exactly when the sequence begins the steps' events in their order, and it then stands after the
last step whose event it took; what the chain refuses, it refuses with a refusal; and a run of
the steps of an instance of a built definition, with no other run beside it, never ends with
one. -/
theorem compiled_chain_is_step_chain :
    (∀ names : List String, names.Nodup → ∀ (events : List String) (s : String),
      (Chain.compile names).fireAll Chain.initial events = .ok s ↔
        events <+: names.map Chain.eventFor ∧
          s = (Chain.initial :: names.map Chain.stateFor).getD events.length "") ∧
    (∀ (c : Chain) (state event : String) (e : Error), c.fire state event = .error e → e.IsRefusal) ∧
    ∀ (rt : Runtime) (i rounds : Nat) (w : World) (x : Instance) (name : String) (steps : List Step)
      (policy : Option Retry.Policy) (timeout : Option Span), w.instances[i]? = some x →
      Definition.build name steps policy timeout = .ok x.definition →
      ∀ r, (Proc.runRounds Protocol.clockOf Protocol.setClock rounds (runSteps rt i).run [] w).1 = .done r →
        Unrefused r :=
  ⟨fun _ hnd => Chain.fireAll_initial_eq_ok hnd, fun _ _ _ _ h => Chain.isRefusal_of_fire h,
    fun rt i rounds _ _ _ _ _ _ hx hd _ hr => runSteps_never_refused rt i rounds hx hd hr⟩

/-- The steps of an order saga: reserve, then charge. -/
def orderSteps : List Step := [.bare "reserve" ⟨0, [.succeed]⟩, .bare "charge" ⟨1, [.fail]⟩]

/-- A world holding one running instance of the order saga, with the runtime's token. -/
def orderWorld : World :=
  { ambient := Ambient.beginAt ⟨100, 0⟩
    tokens := [{ parent := none }]
    instances := [{ (default : Instance) with
      status := .running
      definition := { name := "order", steps := orderSteps, chain := Chain.compile (orderSteps.map Step.name) } }] }

theorem order_chain_runs :
    (Chain.compile ["reserve", "charge"]).fireAll Chain.initial ["execute_reserve"] = .ok "step_reserve" ∧
    ∃ x r, orderWorld.instances[0]? = some x ∧ Definition.build "order" orderSteps none none = .ok x.definition ∧
      (Proc.runRounds Protocol.clockOf Protocol.setClock Proc.roundBudget (runSteps { token := 0 } 0).run []
        orderWorld).1 = .done r ∧ Unrefused r :=
  ⟨(compiled_chain_is_step_chain.1 ["reserve", "charge"] (by decide) _ _).mpr ⟨by decide, rfl⟩,
    _, _, rfl, rfl, rfl,
    compiled_chain_is_step_chain.2.2 { token := 0 } 0 Proc.roundBudget orderWorld _ "order" orderSteps none none
      rfl rfl _ rfl⟩

end Engine

end Saga
