import Saga.Proofs.Persist.Positions
import Saga.Proofs.Persist.Rebuild

/-!
# How a stream grows

A saga's history grows run by run: each saved history keeps what the save before it
counted as saved, may settle a trailing running entry, and may append entries (`Grows`).
Over such saves the saved count is always the settled length of the last history
(`savedCount_of_growing`), so no save finds the persisted history ahead of the instance.

Each save then writes exactly the entries after that count. Read entry by entry, the step
events of the whole stream are `entryForms`: every entry of the last history once in the
form it ended with, preceded by the forms it had at the saves where it was the trailing
running entry (`entryForms_snoc`). So a stream of `M` saves holds `M` state events, `M`
checkpoints, and as many step events as the last history has entries plus the saves before
the last that ended on a running entry (`stream_grows_with_history`).
-/

namespace Saga

namespace Persist

/-- How a saved history grows from the one saved before it: the entries that save counted as
saved stay as they were and nothing is removed; a trailing running entry may change (its
step settles) and entries may follow. -/
structure Grows (prev next : List HistoryEntry) : Prop where
  kept : next.take (settledLength prev) = prev.take (settledLength prev)
  longer : prev.length ≤ next.length

/-- The trailing entry of a history, when it is running. -/
def runningTail? (history : List HistoryEntry) : Option HistoryEntry :=
  history.getLast?.filter (·.status == .running)

/-- The forms entry `j` had at the saves of `sts` that ended on it while it ran. -/
def runningForms (sts : List SagaState) (j : Nat) : List HistoryEntry :=
  sts.filterMap fun st => if st.history.length = j + 1 then runningTail? st.history else none

/-- The entries the step events of saves of `sts` record, entry by entry of the last history:
its forms at the earlier saves that ended on it while it ran, then the form it ended with. -/
def entryForms (sts : List SagaState) : List HistoryEntry :=
  match sts.getLast? with
  | none => []
  | some last => last.history.zipIdx.flatMap fun p => runningForms sts.dropLast p.2 ++ [p.1]

/-! ## Trailing running entries -/

theorem settledLength_of_runningTail?_none {history : List HistoryEntry}
    (h : runningTail? history = none) : settledLength history = history.length := by
  unfold runningTail? at h
  unfold settledLength
  cases hl : history.getLast? with
  | none => simp_all
  | some e =>
    rw [hl, Option.filter_some] at h
    have he : (e.status == .running) = false := by
      revert h
      cases e.status == .running <;> simp
    simp [he]

theorem eq_of_runningTail?_some {history : List HistoryEntry} {r : HistoryEntry}
    (h : runningTail? history = some r) :
    ∃ init, history = init ++ [r] ∧ settledLength history = init.length := by
  unfold runningTail? at h
  cases hl : history.getLast? with
  | none => rw [hl] at h; cases h
  | some e =>
    rw [hl, Option.filter_some] at h
    have he : (e.status == .running) = true := by
      revert h
      cases e.status == .running <;> simp
    rw [if_pos he] at h
    cases h
    obtain ⟨init, rfl⟩ := List.getLast?_eq_some_iff.mp hl
    refine ⟨init, rfl, ?_⟩
    unfold settledLength
    simp [he]

/-- A history counts one entry less as settled when it ends on a running entry. -/
theorem settledLength_add_running (history : List HistoryEntry) :
    settledLength history + (if (runningTail? history).isSome then 1 else 0) = history.length := by
  cases h : runningTail? history with
  | none => simp [settledLength_of_runningTail?_none h]
  | some r =>
    obtain ⟨init, rfl, hs⟩ := eq_of_runningTail?_some h
    simp [hs]

theorem Grows.settledLength_le {prev next : List HistoryEntry} (h : Grows prev next) :
    settledLength prev ≤ settledLength next := by
  have hn := settledLength_ge next
  have hl := h.longer
  cases hq : runningTail? prev with
  | some r =>
    -- the previous history counted its last entry out
    obtain ⟨init, rfl, hs⟩ := eq_of_runningTail?_some hq
    simp only [List.length_append, List.length_singleton] at hl
    omega
  | none =>
    have hk := h.kept
    rw [settledLength_of_runningTail?_none hq] at hk ⊢
    by_cases heq : next.length = prev.length
    · -- a history that keeps all of the previous one and is no longer is that one
      have hnext : next = prev := by
        rw [← List.take_length (l := next), heq, hk, List.take_length]
      rw [hnext, settledLength_of_runningTail?_none hq]
    · have := Persist.settledLength_le next
      omega

/-! ## Runs of growing histories -/

section Chain

variable {sts : List SagaState} {st : SagaState}

/-- Saves of growing histories count the settled length of the last one as saved. -/
theorem savedCount_of_growing (h : sts.IsChain fun a b => Grows a.history b.history) :
    (positionAfter sts).savedCount = (sts.getLast?.map fun st => settledLength st.history).getD 0 := by
  induction sts using List.reverseRecOn with
  | nil => rfl
  | append_singleton ys y ih =>
    have hys := ih h.left_of_append
    rw [positionAfter_append, List.getLast?_concat]
    simp only [Position.next, Option.map_some, Option.getD_some]
    rw [hys]
    cases hl : ys.getLast? with
    | none => simp
    | some prev =>
      have hg : Grows prev.history y.history :=
        (List.isChain_append.mp h).2.2 prev hl y (by simp)
      have := hg.settledLength_le
      simp only [Option.map_some, Option.getD_some]
      omega

/-- No earlier history of a growing run is longer than the last. -/
theorem length_le_of_growing (h : sts.IsChain fun a b => Grows a.history b.history) :
    ∀ x ∈ sts, ∀ last ∈ sts.getLast?, x.history.length ≤ last.history.length := by
  induction sts using List.reverseRecOn with
  | nil => simp
  | append_singleton ys y ih =>
    intro x hx last hlast
    rw [List.getLast?_concat, Option.mem_def, Option.some.injEq] at hlast
    subst hlast
    rcases List.mem_append.mp hx with hx | hx
    · cases hl : ys.getLast? with
      | none => simp [List.getLast?_eq_none_iff.mp hl] at hx
      | some prev =>
        have hg : Grows prev.history y.history :=
          (List.isChain_append.mp h).2.2 prev hl y (by simp)
        exact Nat.le_trans (ih h.left_of_append x hx prev hl) hg.longer
    · rw [List.mem_singleton.mp hx]

/-! ## The forms entries are written in -/

theorem runningForms_concat (l : List SagaState) (x : SagaState) (j : Nat) :
    runningForms (l ++ [x]) j = runningForms l j ++
      if x.history.length = j + 1 then (runningTail? x.history).toList else [] := by
  simp only [runningForms, List.filterMap_append, List.filterMap_cons, List.filterMap_nil]
  by_cases hx : x.history.length = j + 1
  · rw [if_pos hx, if_pos hx]
    cases runningTail? x.history <;> rfl
  · rw [if_neg hx, if_neg hx]

theorem runningForms_eq_nil {l : List SagaState} {j : Nat} (h : ∀ x ∈ l, x.history.length ≤ j) :
    runningForms l j = [] :=
  List.filterMap_eq_nil_iff.mpr fun x hx => if_neg (by have := h x hx; omega)

/-- Entries with no earlier forms are written once each, as they are. -/
theorem flatMap_forms_of_nil {F : Nat → List HistoryEntry} :
    ∀ (ys : List HistoryEntry) (n : Nat), (∀ j, n ≤ j → F j = []) →
      (ys.zipIdx n).flatMap (fun p => F p.2 ++ [p.1]) = ys
  | [], _, _ => rfl
  | y :: ys, n, hF => by
    rw [List.zipIdx_cons, List.flatMap_cons, hF n (Nat.le_refl n),
      flatMap_forms_of_nil ys (n + 1) fun j hj => hF j (by omega)]
    rfl

theorem flatMap_forms_congr {F G : Nat → List HistoryEntry} {xs : List HistoryEntry}
    (h : ∀ j, j < xs.length → F j = G j) :
    xs.zipIdx.flatMap (fun p => F p.2 ++ [p.1]) = xs.zipIdx.flatMap (fun p => G p.2 ++ [p.1]) :=
  List.flatMap_congr fun p hp => by
    have := (List.mem_zipIdx hp).2.1
    rw [h p.2 (by omega)]

theorem entryForms_concat (l : List SagaState) (x : SagaState) :
    entryForms (l ++ [x]) = x.history.zipIdx.flatMap fun p => runningForms l p.2 ++ [p.1] := by
  simp [entryForms]

/-- The step events of the next save of a growing history are the entries after the saved
count: in entry order, they continue `entryForms`. -/
theorem entryForms_snoc (h : (sts ++ [st]).IsChain fun a b => Grows a.history b.history) :
    entryForms (sts ++ [st]) = entryForms sts ++ st.history.drop (positionAfter sts).savedCount := by
  have hsts := h.left_of_append
  rw [entryForms_concat, savedCount_of_growing hsts]
  cases hl : sts.getLast? with
  | none =>
    -- the first save writes the whole history
    rw [List.getLast?_eq_none_iff.mp hl]
    exact flatMap_forms_of_nil _ 0 fun j _ => runningForms_eq_nil (by simp)
  | some prev =>
    obtain ⟨ys, rfl⟩ := List.getLast?_eq_some_iff.mp hl
    have hg : Grows prev.history st.history := (List.isChain_append.mp h).2.2 prev hl st (by simp)
    have hlen : ∀ x ∈ ys ++ [prev], x.history.length ≤ prev.history.length :=
      fun x hx => length_le_of_growing hsts x hx prev hl
    have hk := hg.kept
    rw [entryForms_concat, Option.map_some, Option.getD_some]
    cases hr : runningTail? prev.history with
    | none =>
      -- the previous history is kept whole and the new entries follow it
      rw [settledLength_of_runningTail?_none hr, List.take_length] at hk
      rw [settledLength_of_runningTail?_none hr]
      conv_lhs => rw [← List.take_append_drop prev.history.length st.history, hk]
      rw [List.zipIdx_append, List.flatMap_append]
      congr 1
      · refine flatMap_forms_congr fun j _ => ?_
        rw [runningForms_concat, hr]
        split <;> exact List.append_nil _
      · exact flatMap_forms_of_nil _ _ fun j hj =>
          runningForms_eq_nil fun x hx => Nat.le_trans (hlen x hx) (by omega)
    | some r =>
      -- the previous history ended on `r`, which this save writes again in its new form
      obtain ⟨init, hprev, hs⟩ := eq_of_runningTail?_some hr
      rw [hs, hprev, List.take_left' rfl] at hk
      have hlong : init.length < st.history.length := by
        have := hg.longer
        rw [hprev, List.length_append, List.length_singleton] at this
        omega
      rw [hs, hprev, List.zipIdx_append, List.flatMap_append]
      conv_lhs => rw [← List.take_append_drop init.length st.history, hk,
        List.drop_eq_getElem_cons hlong]
      rw [List.zipIdx_append, List.flatMap_append, List.append_assoc]
      congr 1
      · refine flatMap_forms_congr fun j hj => ?_
        rw [runningForms_concat, hprev, if_neg (by simp; omega), List.append_nil]
      · rw [List.zipIdx_cons, List.flatMap_cons, List.zipIdx_singleton, List.flatMap_singleton,
          flatMap_forms_of_nil (F := runningForms (ys ++ [prev])) _ _ fun j hj =>
            runningForms_eq_nil fun x hx => by
              have := hlen x hx
              rw [hprev, List.length_append, List.length_singleton] at this
              omega,
          runningForms_concat, hr, hprev, List.drop_eq_getElem_cons hlong]
        simp

/-- As many entries are written as the last history holds, plus one for each earlier save
that ended on a running entry. -/
theorem length_entryForms (h : sts.IsChain fun a b => Grows a.history b.history) :
    (entryForms sts).length = (sts.getLast?.map (·.history.length)).getD 0 +
      sts.dropLast.countP (fun st => (runningTail? st.history).isSome) := by
  induction sts using List.reverseRecOn with
  | nil => rfl
  | append_singleton ys y ih =>
    have hys := h.left_of_append
    rw [entryForms_snoc h, List.length_append, ih hys, List.length_drop, savedCount_of_growing hys,
      List.getLast?_concat, List.dropLast_concat]
    cases hl : ys.getLast? with
    | none => simp [List.getLast?_eq_none_iff.mp hl]
    | some prev =>
      obtain ⟨zs, rfl⟩ := List.getLast?_eq_some_iff.mp hl
      have hg : Grows prev.history y.history := (List.isChain_append.mp h).2.2 prev hl y (by simp)
      have hsum := settledLength_add_running prev.history
      have hlong := hg.longer
      simp only [Option.map_some, Option.getD_some, List.dropLast_concat, List.countP_append,
        List.countP_singleton]
      split at hsum <;> simp_all <;> omega

end Chain

/-! ## Batches and streams -/

/-- A batch holds one state event and one checkpoint. -/
theorem BatchOf.countP_kind {st : SagaState} {pos : Position} {b : List StoredEvent}
    (hb : BatchOf st pos b) {k : EventKind} (hk : k = .stateChanged ∨ k = .checkpoint) :
    b.countP (·.kind == k) = 1 := by
  cases hb with
  | @mk head steps close hhead hsteps hclose _ =>
    have hsteps0 : steps.countP (·.kind == k) = 0 := List.countP_eq_zero.mpr fun e he => by
      obtain ⟨_, _, hs⟩ := forall₂_mem_right hsteps he
      have := hs.isStepEvent
      rcases hk with rfl | rfl <;> intro heq <;> rw [beq_iff_eq.mp heq] at this <;> cases this
    rw [List.cons_append, List.countP_cons, List.countP_append, hsteps0, List.countP_singleton,
      hhead.kind, hclose.kind]
    rcases hk with rfl | rfl <;> rfl

/-- The step events of a batch record the entries after the position it starts from. -/
theorem BatchOf.stepEvents {st : SagaState} {pos : Position} {b : List StoredEvent}
    (hb : BatchOf st pos b) :
    List.Forall₂ (StepEventOf st.id) (st.history.drop pos.savedCount) (b.filter (·.kind.isStepEvent)) := by
  cases hb with
  | @mk head steps close hhead hsteps hclose _ =>
    have hs : steps.filter (·.kind.isStepEvent) = steps :=
      List.filter_eq_self.mpr fun e he => by
        obtain ⟨_, _, hse⟩ := forall₂_mem_right hsteps he
        exact hse.isStepEvent
    rw [List.cons_append, List.filter_cons_of_neg (by rw [hhead.kind]; decide), List.filter_append, hs,
      List.filter_cons_of_neg (by rw [hclose.kind]; decide), List.filter_nil, List.append_nil]
    exact hsteps

namespace Written

variable {sid : String} {sts : List SagaState} {es : List StoredEvent}

/-- A stream written by saves holds one state event and one checkpoint per save. -/
theorem countP_kind (h : Written sid sts es) {k : EventKind} (hk : k = .stateChanged ∨ k = .checkpoint) :
    es.countP (·.kind == k) = sts.length := by
  induction h with
  | nil => rfl
  | save _ _ _ hb ih =>
    rw [List.countP_append, ih, hb.countP_kind hk, List.length_append, List.length_singleton]

/-- The step events of a stream written by saves of growing histories record `entryForms`. -/
theorem stepEvents (h : Written sid sts es) (hg : sts.IsChain fun a b => Grows a.history b.history) :
    List.Forall₂ (StepEventOf sid) (entryForms sts) (es.filter (·.kind.isStepEvent)) := by
  induction h with
  | nil => exact .nil
  | save _ hid _ hb ih =>
    rw [entryForms_snoc hg, List.filter_append]
    exact List.rel_append (ih hg.left_of_append) (hid ▸ hb.stepEvents)

end Written

/-- Saves of a fresh saga whose histories grow leave a stream with one state event and one
checkpoint per save, and step events that record every entry of the last history in the form
it ended with, each preceded by its forms at the earlier saves that ended on it while it ran:
as many as the last history has entries plus those saves. The next save of a history that
grows from the last is never refused as ahead of the instance. Versions are assumed to fit in
64 bits, as the metadata reader requires. -/
theorem stream_grows_with_history {sid : String} {w₀ w : World} {sts : List SagaState}
    (run : SaveRun sid w₀ sts w) (hkeyed : w₀.events.Keyed) (hempty : w₀.events.stream sid = [])
    (hnone : w₀.snapshots.get? sid = none)
    (hbound : (positionAfter sts).version < StoredEvent.wordBound)
    (hgrows : sts.IsChain fun a b => Grows a.history b.history) :
    (w.events.stream sid).countP (·.kind == .stateChanged) = sts.length ∧
      (w.events.stream sid).countP (·.kind == .checkpoint) = sts.length ∧
      List.Forall₂ (StepEventOf sid) (entryForms sts)
        ((w.events.stream sid).filter (·.kind.isStepEvent)) ∧
      ((w.events.stream sid).filter (·.kind.isStepEvent)).length =
        (sts.getLast?.map (·.history.length)).getD 0 +
          sts.dropLast.countP (fun st => (runningTail? st.history).isSome) ∧
      ∀ st : SagaState, (∀ prev ∈ sts.getLast?, Grows prev.history st.history) →
        ∀ pos w', (resolvePosition sid (w.snapshots.get? sid) st.createdAt).run w = (.ok pos, w') →
          pos.savedCount ≤ st.history.length := by
  have hk := run.kept (Kept.start hkeyed hempty hnone) hbound
  have hsteps := hk.written.stepEvents hgrows
  refine ⟨hk.written.countP_kind (.inl rfl), hk.written.countP_kind (.inr rfl), hsteps, ?_, ?_⟩
  · rw [← hsteps.length_eq, length_entryForms hgrows]
  · -- the next save starts from the last settled length, which the grown history covers
    intro st hst pos w' hres
    obtain ⟨rfl, -⟩ := resolvePosition_ok hk hbound hres
    rw [savedCount_of_growing hgrows]
    cases hl : sts.getLast? with
    | none => exact Nat.zero_le _
    | some prev => exact Nat.le_trans (Persist.settledLength_le _) (hst prev hl).longer

/-- A step started, then settled, then the next step started: three saves. -/
theorem three_saves_grow_stream :
    let sts := [sampleSaga [sampleEntry "a" .running], sampleSaga [sampleEntry "a" .completed],
      sampleSaga [sampleEntry "a" .completed, sampleEntry "b" .running]]
    let w := ((Persist.save {} sts[2]).run ((Persist.save {} sts[1]).run
      ((Persist.save {} sts[0]).run sampleWorld).2).2).2
    SaveRun "saga-1" sampleWorld sts w ∧ sts.IsChain (fun a b => Grows a.history b.history) ∧
      (w.events.stream "saga-1").countP (·.kind == .stateChanged) = sts.length ∧
      (w.events.stream "saga-1").countP (·.kind == .checkpoint) = sts.length ∧
      List.Forall₂ (StepEventOf "saga-1") (entryForms sts)
        ((w.events.stream "saga-1").filter (·.kind.isStepEvent)) ∧
      ((w.events.stream "saga-1").filter (·.kind.isStepEvent)).length =
        (sts.getLast?.map (·.history.length)).getD 0 +
          sts.dropLast.countP (fun st => (runningTail? st.history).isSome) ∧
      ∀ st : SagaState, (∀ prev ∈ sts.getLast?, Grows prev.history st.history) →
        ∀ pos w', (resolvePosition "saga-1" (w.snapshots.get? "saga-1") st.createdAt).run w =
          (.ok pos, w') → pos.savedCount ≤ st.history.length := by
  intro sts w
  have run₁ : SaveRun "saga-1" sampleWorld [sts[0]] ((Persist.save {} sts[0]).run sampleWorld).2 :=
    .save {} _ .start rfl (save_run_ok (by decide +kernel))
  have run₂ := SaveRun.save {} sts[1] run₁ rfl (save_run_ok (by decide +kernel))
  have run₃ := SaveRun.save {} sts[2] run₂ rfl (save_run_ok (by decide +kernel))
  have hgrows : sts.IsChain (fun a b => Grows a.history b.history) :=
    List.isChain_cons_cons.mpr ⟨⟨rfl, by decide⟩, List.isChain_cons_cons.mpr ⟨⟨rfl, by decide⟩, .singleton _⟩⟩
  exact ⟨run₃, hgrows, stream_grows_with_history run₃ keyed_sampleWorld rfl rfl (by decide) hgrows⟩

end Persist

end Saga
