import Saga.Proofs.Persist.Batch
import Saga.Proofs.Time.Strict

/-!
# Replaying what saves wrote

A replay reads back every field a save writes, as long as the state is one the event
metadata can carry (`SagaState.Replayable`): its instants are regular (`Instant.Regular`),
its counters fit the fields that carry them, and its history entries have distinct keys.

* `applyState_stateEvent`, `applyStep_stepEvent`: a state event sets the state's fields, a
  step event puts its entry back into the history;
* `applyAll_batch`: replaying one save's batch on a replay that holds the previous save's
  image gives the saved state, when the saved history keeps what the previous save counted as
  saved and gives its unsaved last entry again under its key (`Follows`);
* `applyAll_written`: so the whole stream written by a run of such saves (`Continues`), or
  any tail of it that starts after a save, replays to the last saved state.
-/

namespace Saga

theorem Instant.beq_iff {a b : Instant} : (a == b) = true ↔ a = b := by
  rcases a with ⟨s, n⟩
  rcases b with ⟨s', n'⟩
  show (s == s' && n == n') = true ↔ _
  simp

instance : LawfulBEq Instant where
  eq_of_beq := Instant.beq_iff.mp
  rfl := Instant.beq_iff.mpr rfl

theorem SagaStatus.parse_name (s : SagaStatus) : SagaStatus.parse s.name = .ok s := by
  cases s <;> rfl

theorem StepStatus.parse_name (s : StepStatus) : StepStatus.parse s.name = .ok s := by
  cases s <;> rfl

/-- A history entry whose step event a replay reads back: regular instants, and an attempt
counter that fits 32 bits. -/
structure HistoryEntry.Replayable (e : HistoryEntry) : Prop where
  started : e.startedAt.Regular
  completed : ∀ t ∈ e.completedAt, t.Regular
  attempt : e.retryAttempt < Persist.Replay.attemptBound

/-- A state whose events a replay reads back: regular instants, a current step that fits 64
bits, replayable entries with distinct keys. -/
structure SagaState.Replayable (st : SagaState) : Prop where
  step : st.currentStep < StoredEvent.wordBound
  created : st.createdAt.Regular
  started : ∀ t ∈ st.startedAt, t.Regular
  completed : ∀ t ∈ st.completedAt, t.Regular
  entries : ∀ e ∈ st.history, e.Replayable
  keys : (st.history.map HistoryEntry.key).Nodup

/-- A state whose state event a replay reads back, whatever its history: regular instants and a
current step that fits 64 bits. -/
structure SagaState.HeaderReplayable (st : SagaState) : Prop where
  step : st.currentStep < StoredEvent.wordBound
  created : st.createdAt.Regular
  started : ∀ t ∈ st.startedAt, t.Regular
  completed : ∀ t ∈ st.completedAt, t.Regular

theorem SagaState.Replayable.header {st : SagaState} (h : st.Replayable) : st.HeaderReplayable :=
  ⟨h.step, h.created, h.started, h.completed⟩

namespace StoredEvent

theorem getStr?_of_get? {e : StoredEvent} {k s : String} (h : e.get? k = some (.str s)) :
    e.getStr? k = some s := by
  simp [getStr?, h]

theorem getTime?_of_get? {e : StoredEvent} {k : String} {t : Instant}
    (h : e.get? k = some (.str t.writeNanos)) (ht : t.Regular) : e.getTime? k = some t := by
  simp [getTime?, getStr?_of_get? h, Instant.parseStrict_writeNanos ht]

theorem getTime?_of_map {e : StoredEvent} {k : String} {o : Option Instant}
    (h : e.get? k = o.map fun t => .str t.writeNanos) (ht : ∀ t ∈ o, t.Regular) : e.getTime? k = o := by
  cases o with
  | none => simp [getTime?, getStr?, h]
  | some t => exact getTime?_of_get? h (ht t rfl)

end StoredEvent

namespace Persist

namespace Replay

/-- A replay after the state event of a save of `st`: the state's fields, its start time or
the one the replay had, and the history as it was. -/
def withState (r : Replay) (st : SagaState) : Replay :=
  { r with
    definitionName := some st.definitionName
    status := some st.status
    currentStep := st.currentStep
    context := st.context
    createdAt := some st.createdAt
    startedAt := st.startedAt.orElse fun _ => r.startedAt
    completedAt := st.completedAt }

theorem applyState_stateEvent {st : SagaState} {pos : Position} {e : StoredEvent} (r : Replay)
    (he : StateEventOf st pos e) (hst : st.HeaderReplayable) : r.applyState e = .ok (r.withState st) := by
  have hstatus : e.getStr? MetaKey.status = some st.status.name := StoredEvent.getStr?_of_get? he.status
  have hstep : e.getU64? MetaKey.step = some st.currentStep := getU64?_of_get? he.step hst.step
  have hname : e.getStr? MetaKey.definitionName = some st.definitionName :=
    StoredEvent.getStr?_of_get? he.name
  have hcreated : e.getTime? MetaKey.sagaCreatedAt = some st.createdAt :=
    StoredEvent.getTime?_of_get? he.created hst.created
  have hstarted : e.getTime? MetaKey.sagaStartedAt = st.startedAt :=
    StoredEvent.getTime?_of_map he.started hst.started
  have hcompleted : e.getTime? MetaKey.sagaCompletedAt = st.completedAt :=
    StoredEvent.getTime?_of_map he.completed hst.completed
  simp only [applyState, hstatus, he.context, SagaStatus.parse_name, hstep, hname, hcreated, hstarted,
    hcompleted, bind, Except.bind, pure, Except.pure, Option.getD_some, Option.orElse_some]
  rfl

theorem applyStep_stepEvent {id : String} {entry : HistoryEntry} {e : StoredEvent} (r : Replay)
    (he : StepEventOf id entry e) (hentry : entry.Replayable) :
    r.applyStep e = .ok { r with history := upsert entry r.history } := by
  have hname : e.getStr? MetaKey.stepName = some entry.stepName := StoredEvent.getStr?_of_get? he.name
  have hstarted : e.getTime? MetaKey.startedAt = some entry.startedAt :=
    StoredEvent.getTime?_of_get? he.started hentry.started
  have hstatus : e.getStr? MetaKey.stepStatus = some entry.status.name :=
    StoredEvent.getStr?_of_get? he.status
  have hcompleted : e.getTime? MetaKey.completedAt = entry.completedAt :=
    StoredEvent.getTime?_of_map he.completed hentry.completed
  have hattempt : e.getU64? MetaKey.retryAttempt = some entry.retryAttempt :=
    getU64?_of_get? he.attempt (Nat.lt_of_lt_of_le hentry.attempt (by decide))
  have herror : ((e.getStr? MetaKey.errorMessage).orElse fun _ => e.getStr? MetaKey.error) = entry.error := by
    cases hx : entry.error with
    | none => simp [StoredEvent.getStr?, he.errorMessage, he.error, hx]
    | some text => simp [StoredEvent.getStr?_of_get? (he.errorMessage.trans (by rw [hx]; rfl))]
  simp only [applyStep, hname, hstarted, hstatus, StepStatus.parse_name, hcompleted, hattempt, herror,
    Option.getD_some, Nat.mod_eq_of_lt hentry.attempt, bind, Except.bind, pure, Except.pure]

theorem apply_stateEvent {st : SagaState} {pos : Position} {e : StoredEvent} (r : Replay)
    (he : StateEventOf st pos e) : r.apply e = r.applyState e := by
  simp [apply, he.kind]

theorem apply_stepEvent {id : String} {entry : HistoryEntry} {e : StoredEvent} (r : Replay)
    (he : StepEventOf id entry e) : r.apply e = r.applyStep e := by
  unfold apply
  rw [he.kind]
  cases entry.status <;> rfl

theorem apply_checkpoint {id : String} {p : Position} {e : StoredEvent} (r : Replay)
    (he : CheckpointOf id p e) : r.apply e = .ok r := by
  simp [apply, he.kind]

theorem applyAll_cons (r : Replay) (e : StoredEvent) (es : List StoredEvent) :
    r.applyAll (e :: es) = r.apply e >>= fun r' => r'.applyAll es := by
  simp [applyAll, List.foldlM_cons]

theorem applyAll_append (r : Replay) (es es' : List StoredEvent) :
    r.applyAll (es ++ es') = r.applyAll es >>= fun r' => r'.applyAll es' := by
  simp [applyAll, List.foldlM_append]

/-! ## The history a replay rebuilds -/

theorem upsert_go_fresh (entry : HistoryEntry) :
    ∀ h : List HistoryEntry, (∀ x ∈ h, x.key ≠ entry.key) → upsert.go entry h = (h, false)
  | [], _ => rfl
  | x :: h, hx => by
    have hrest := upsert_go_fresh entry h fun y hy => hx y (List.mem_cons_of_mem _ hy)
    have hne : (x.key == entry.key) = false := by simpa using hx x List.mem_cons_self
    simp [upsert.go, hrest, hne]

theorem upsert_go_in_place {entry x : HistoryEntry} (hx : x.key = entry.key) {post : List HistoryEntry}
    (hpost : ∀ y ∈ post, y.key ≠ entry.key) (pre : List HistoryEntry) :
    upsert.go entry (pre ++ x :: post) = (pre ++ entry :: post, true) := by
  induction pre with
  | nil => simp [upsert.go, upsert_go_fresh entry post hpost, hx]
  | cons y pre ih => simp [upsert.go, ih]

/-- An entry with a new key goes to the end of the history. -/
theorem upsert_fresh {entry : HistoryEntry} {h : List HistoryEntry} (hx : ∀ x ∈ h, x.key ≠ entry.key) :
    upsert entry h = h ++ [entry] := by
  simp [upsert, upsert_go_fresh entry h hx]

/-- An entry with a key the history has takes the place of the last entry with that key. -/
theorem upsert_in_place {entry x : HistoryEntry} (hx : x.key = entry.key) {post : List HistoryEntry}
    (hpost : ∀ y ∈ post, y.key ≠ entry.key) (pre : List HistoryEntry) :
    upsert entry (pre ++ x :: post) = pre ++ entry :: post := by
  simp [upsert, upsert_go_in_place hx hpost pre]

/-- An entry with the key of the last one takes its place. -/
theorem upsert_last {entry x : HistoryEntry} (hx : x.key = entry.key) (h : List HistoryEntry) :
    upsert entry (h ++ [x]) = h ++ [entry] :=
  upsert_in_place hx (List.forall_mem_nil _) h

theorem foldl_upsert_fresh :
    ∀ (entries h : List HistoryEntry), ((h ++ entries).map HistoryEntry.key).Nodup →
      entries.foldl (fun h e => upsert e h) h = h ++ entries
  | [], h, _ => by simp
  | e :: es, h, hnd => by
    have hfresh : ∀ x ∈ h, x.key ≠ e.key := by
      intro x hx hk
      rw [List.map_append] at hnd
      exact (List.nodup_append.mp hnd).2.2 _ (List.mem_map_of_mem hx) _
        (List.mem_map_of_mem List.mem_cons_self) hk
    rw [List.foldl_cons, upsert_fresh hfresh, foldl_upsert_fresh es (h ++ [e]) (by simpa using hnd)]
    simp

/-- Upserting a saved history's unsaved tail into the previous image gives the saved history,
when the saved history keeps the entries counted as saved and gives the one entry not counted
again under its key. -/
theorem foldl_upsert_saved {c : Nat} {old new : List HistoryEntry}
    (hkeys : (new.map HistoryEntry.key).Nodup) (hkeep : new.take c = old.take c)
    (hlen : old.length ≤ c + 1) (hlast : ∀ x ∈ old[c]?, ∃ y ∈ new[c]?, y.key = x.key)
    (hcount : c ≤ new.length) : (new.drop c).foldl (fun h e => upsert e h) old = new := by
  have hold : c ≤ old.length := by
    have := congrArg List.length hkeep
    simp only [List.length_take] at this
    omega
  rcases Nat.lt_or_ge c old.length with hc | hc
  · -- the previous image ends in the entry not counted; the saved history gives it again first
    obtain ⟨x, hx⟩ : ∃ x, old[c]? = some x := ⟨old[c], List.getElem?_eq_getElem hc⟩
    obtain ⟨y, hy, hyx⟩ := hlast x hx
    obtain ⟨hcn, hyc⟩ := List.getElem?_eq_some_iff.mp hy
    have hdrop : old.drop c = [x] := by
      rw [List.drop_eq_getElem_cons hc, List.drop_eq_nil_of_le (by omega),
        (List.getElem?_eq_some_iff.mp hx).2]
    have hold' : old = old.take c ++ [x] := by
      rw [← hdrop, List.take_append_drop]
    have hnew : new.drop c = y :: new.drop (c + 1) := by
      rw [List.drop_eq_getElem_cons hcn, hyc]
    have hsplit : new.take c ++ [y] ++ new.drop (c + 1) = new := by
      rw [List.append_assoc, List.singleton_append, ← hnew, List.take_append_drop]
    rw [hnew, List.foldl_cons, hold', upsert_last hyx.symm, ← hkeep,
      foldl_upsert_fresh _ _ (by rw [hsplit]; exact hkeys), hsplit]
  · -- the previous image holds exactly the entries counted as saved
    have : old = new.take c := by rw [hkeep, List.take_of_length_le hc]
    rw [this, foldl_upsert_fresh _ _ (by rw [List.take_append_drop]; exact hkeys), List.take_append_drop]

/-! ## Batches -/

theorem applyAll_steps {id : String} {entries : List HistoryEntry} {steps : List StoredEvent}
    (h : List.Forall₂ (StepEventOf id) entries steps) (he : ∀ e ∈ entries, e.Replayable) (r : Replay) :
    r.applyAll steps = .ok { r with history := entries.foldl (fun h e => upsert e h) r.history } := by
  induction h generalizing r with
  | nil => rfl
  | cons hstep _ ih =>
    rw [applyAll_cons, apply_stepEvent r hstep, applyStep_stepEvent r hstep (he _ List.mem_cons_self)]
    exact ih (fun e he' => he e (List.mem_cons_of_mem _ he')) _

/-- One save's batch, replayed on a replay that holds the previous image, gives the saved
state: the previous history agrees with the saved one on the entries counted as saved, has
at most one more, which the saved history gives again under its key, and the saved state
has a start time if the previous image had one. -/
theorem applyAll_batch {st : SagaState} {pos : Position} {b : List StoredEvent} {r : Replay}
    (hb : BatchOf st pos b) (hst : st.Replayable)
    (hkeep : st.history.take pos.savedCount = r.history.take pos.savedCount)
    (hlen : r.history.length ≤ pos.savedCount + 1)
    (hlast : ∀ x ∈ r.history[pos.savedCount]?, ∃ y ∈ st.history[pos.savedCount]?, y.key = x.key)
    (hcount : pos.savedCount ≤ st.history.length) (hstart : st.startedAt = none → r.startedAt = none) :
    r.applyAll b = .ok (ofState st) := by
  cases hb with
  | @mk head steps close hhead hsteps hclose _ =>
    have hentries : ∀ e ∈ st.history.drop pos.savedCount, e.Replayable :=
      fun e he => hst.entries e (List.mem_of_mem_drop he)
    rw [List.cons_append, applyAll_cons, apply_stateEvent r hhead, applyState_stateEvent r hhead hst.header]
    show (r.withState st).applyAll (steps ++ [close]) = _
    rw [applyAll_append, applyAll_steps hsteps hentries]
    show Replay.applyAll _ [close] = _
    rw [applyAll_cons, apply_checkpoint _ hclose]
    show Except.ok _ = _
    have hhist := foldl_upsert_saved hst.keys hkeep hlen hlast hcount
    have hstarted : (st.startedAt.orElse fun _ => r.startedAt) = st.startedAt := by
      cases h : st.startedAt with
      | none => simp [hstart h]
      | some t => rfl
    simp only [withState, hhist, hstarted]
    rfl

end Replay

/-! ## Runs of saves -/

/-- How a saved state follows the one saved before it, whose save counted `c` entries as
saved: it keeps those entries, gives the entry after them (not counted, since it was
running) again under its key, and has a start time if the previous one had. -/
structure Follows (c : Nat) (prev st : SagaState) : Prop where
  kept : st.history.take c = prev.history.take c
  reemitted : ∀ x ∈ prev.history[c]?, ∃ y ∈ st.history[c]?, y.key = x.key
  started : st.startedAt = none → prev.startedAt = none

/-- States saved one after another, each following the one before. -/
inductive Continues : List SagaState → Prop
  | nil : Continues []
  | snoc {sts : List SagaState} {st : SagaState} : Continues sts →
      (∀ prev ∈ sts.getLast?, Follows (positionAfter sts).savedCount prev st) → Continues (sts ++ [st])

/-- Where a replay of the saves after the last of some states starts: from nothing, or from
the last state. -/
def Replay.seed : Option SagaState → Replay
  | none => {}
  | some st => Replay.ofState st

theorem settledLength_ge (history : List HistoryEntry) : history.length ≤ settledLength history + 1 := by
  unfold settledLength
  split
  · split <;> omega
  · rename_i h
    simp_all

theorem Continues.init {sts : List SagaState} {st : SagaState} (h : Continues (sts ++ [st])) :
    Continues sts ∧ ∀ prev ∈ sts.getLast?, Follows (positionAfter sts).savedCount prev st := by
  generalize hl : sts ++ [st] = l at h
  cases h with
  | nil => simp at hl
  | snoc h' hf =>
    obtain ⟨rfl, hst⟩ := List.append_inj' hl rfl
    cases hst
    exact ⟨h', hf⟩

theorem positionAfter_version_mono (A : List SagaState) :
    ∀ L : List SagaState, (positionAfter A).version ≤ (positionAfter (A ++ L)).version := by
  intro L
  induction L generalizing A with
  | nil => simp
  | cons y L ih =>
    have := ih (A ++ [y])
    simp only [List.append_assoc, List.singleton_append] at this
    have hy : (positionAfter A).version ≤ (positionAfter (A ++ [y])).version :=
      Nat.le_of_lt positionAfter_version_lt
    omega

/-- The batch of the save after those of `sts` replays, from their last state, to the saved one. -/
theorem applyAll_next {sts : List SagaState} {st : SagaState} {b : List StoredEvent}
    (hb : BatchOf st (positionAfter sts) b) (hst : st.Replayable)
    (hcount : (positionAfter sts).savedCount ≤ st.history.length)
    (hf : ∀ prev ∈ sts.getLast?, Follows (positionAfter sts).savedCount prev st) :
    (Replay.seed sts.getLast?).applyAll b = .ok (Replay.ofState st) := by
  cases hl : sts.getLast? with
  | none =>
    -- the first save: the stream starts empty, and nothing is counted as saved
    have hnil : sts = [] := List.getLast?_eq_none_iff.mp hl
    subst hnil
    exact Replay.applyAll_batch hb hst (by simp [Replay.seed]) (by simp [Replay.seed])
      (by simp [Replay.seed]) hcount (fun _ => rfl)
  | some prev =>
    -- a later save: the previous image is the previous state, its last entry perhaps not counted
    have hfp := hf prev hl
    obtain ⟨ys, rfl⟩ := List.getLast?_eq_some_iff.mp hl
    have hsettled : prev.history.length ≤ (positionAfter (ys ++ [prev])).savedCount + 1 := by
      have := settledLength_ge prev.history
      simp only [positionAfter_append, Position.next]
      omega
    exact Replay.applyAll_batch hb hst hfp.kept hsettled hfp.reemitted hcount hfp.started

/-- The stream written by saves of `sts`, or its tail after the saves of a prefix `A`,
replays from that prefix's last state to the last saved state. -/
theorem applyAll_written {sid : String} {sts : List SagaState} {es : List StoredEvent}
    (hw : Written sid sts es) (hc : Continues sts) (hr : ∀ st ∈ sts, st.Replayable) :
    ∀ A B, sts = A ++ B →
      (Replay.seed A.getLast?).applyAll (es.drop (positionAfter A).version) = .ok (Replay.seed sts.getLast?) := by
  induction hw with
  | nil =>
    intro A B h
    obtain ⟨rfl, rfl⟩ := List.append_eq_nil_iff.mp h.symm
    rfl
  | save hw' hid hcount hb ih =>
    rename_i sts' es' st b
    intro A B h
    obtain ⟨hc', hf⟩ := hc.init
    rcases List.eq_nil_or_concat B with rfl | ⟨L, y, rfl⟩
    · -- the prefix is every save: nothing is left to replay
      rw [List.append_nil] at h
      subst h
      have hlen : (es' ++ b).length = (positionAfter (sts' ++ [st])).version := (hw'.save hid hcount hb).length
      rw [List.drop_eq_nil_of_le (by omega)]
      rfl
    · -- the tail is the tail of the saves before, then the last batch
      rw [List.concat_eq_append, ← List.append_assoc] at h
      obtain ⟨hAL, hy⟩ := List.append_inj' h.symm rfl
      cases hy
      have hv : (positionAfter A).version ≤ es'.length := by
        rw [hw'.length, ← hAL]
        exact positionAfter_version_mono A L
      rw [List.drop_append_of_le_length hv, Replay.applyAll_append,
        ih hc' (fun s hs => hr s (List.mem_append_left _ hs)) A L hAL.symm]
      show (Replay.seed sts'.getLast?).applyAll b = _
      rw [applyAll_next hb (hr st (by simp)) hcount hf]
      simp [Replay.seed]

end Persist

end Saga
