import Saga.Proofs.Persist.Rebuild
import Saga.Proofs.Persist.Positions

/-!
# Loading from a snapshot agrees with a full replay

A load first tries the snapshot: it decodes the state the snapshot holds and replays the
events after the version it was taken at (`fromSnapshot`). Otherwise it replays the whole
stream. The two paths agree on every stream that successive saves write
(`snapshot_load_agrees`): whenever the snapshot path yields a state, it is the last state
saved, the full replay yields it too, and the status read from the last state event is its
status.

The argument has three parts:

* a snapshot's state is always the stored form of the last state of some prefix of the saves,
  taken at the version that prefix reached (`StateFrom`, kept by every save and every change
  around them: `SaveRun.stateFrom`);
* the snapshot path decodes that state and replays the rest of the stream after it
  (`fromSnapshot_some`);
* replaying the stream from any save on gives the last saved state (`applyAll_written`).

The saves must follow on from each other (`Continues`): a history keeps the entries the
stream already counts as saved, gives an unsaved last entry again under its key, and a start
time, once set, is not cleared. Otherwise the snapshot holds a state that the events do not
rebuild; `cleared_start_loads_differ` shows a run where the two paths part. The states must be
ones the event metadata carries (`SagaState.Replayable`), and the codec must read back the
stored form of each (`Codec.decode (Codec.encode st) = .ok st`), which some floats in a
context break: the JSON reader does not round every decimal it reads to the nearest float.
-/

namespace Saga

namespace Persist

open EventLog

theorem encodeState_ok {s : Settings} {st : SagaState} {blob : ByteArray}
    (h : encodeState s st = .ok blob) : blob = Codec.encode st := by
  unfold encodeState at h
  split at h
  · cases h
  · cases h
    rfl

theorem decodeState_ok {s : Settings} {blob : ByteArray} {st : SagaState}
    (h : decodeState s blob = .ok st) : Codec.decode blob = .ok st := by
  unfold decodeState at h
  split at h
  · cases h
  · exact h

theorem verifiedState_state {sn : Snapshot} {blob : ByteArray} (h : sn.verifiedState = some blob) :
    sn.state = some blob := by
  unfold Snapshot.verifiedState at h
  split at h
  · split at h
    · cases h
      assumption
    · cases h
  · cases h
    assumption
  · cases h

/-- A refreshed snapshot keeps the state it had, or holds the saved state, taken at the
version the save reached. -/
theorem refreshed_state (s : Settings) (snap : Option Snapshot) (st : SagaState) (version saved : Nat) :
    ((refreshed s snap st version saved).state = (snap.getD (Snapshot.new st.id st.definitionName)).state ∧
      (refreshed s snap st version saved).stateVersion =
        (snap.getD (Snapshot.new st.id st.definitionName)).stateVersion) ∨
    ((refreshed s snap st version saved).state = some (Codec.encode st) ∧
      (refreshed s snap st version saved).stateVersion = version) := by
  unfold refreshed
  dsimp only
  split
  · split
    · rename_i blob hblob
      rw [encodeState_ok hblob]
      exact .inr ⟨rfl, rfl⟩
    · exact .inl ⟨rfl, rfl⟩
  · exact .inl ⟨rfl, rfl⟩

/-- The state a snapshot holds, if any, is the stored form of the last state of a prefix `A`
of the saves, taken at the version that prefix reached. -/
def StateFrom (sts : List SagaState) (snap : Option Snapshot) : Prop :=
  ∀ sn ∈ snap, ∀ blob, sn.state = some blob →
    ∃ A B, sts = A ++ B ∧ ∃ st ∈ A.getLast?, blob = Codec.encode st ∧
      sn.stateVersion = (positionAfter A).version

theorem StateFrom.snoc {sts : List SagaState} {snap : Option Snapshot} (h : StateFrom sts snap)
    (st : SagaState) : StateFrom (sts ++ [st]) snap := by
  intro sn hsn blob hblob
  obtain ⟨A, B, rfl, hA⟩ := h sn hsn blob hblob
  exact ⟨A, B ++ [st], List.append_assoc .., hA⟩

theorem StateFrom.none (sts : List SagaState) : StateFrom sts none := by
  intro sn hsn
  cases hsn

/-- The snapshot a save leaves holds the state it held before or the one just saved. -/
theorem StateFrom.refreshed {sts : List SagaState} {snap : Option Snapshot} (h : StateFrom sts snap)
    (s : Settings) (st : SagaState) :
    StateFrom (sts ++ [st])
      (some (refreshed s snap st (positionAfter (sts ++ [st])).version
        (positionAfter (sts ++ [st])).savedCount)) := by
  intro sn hsn blob hblob
  cases hsn
  rcases refreshed_state s snap st (positionAfter (sts ++ [st])).version
      (positionAfter (sts ++ [st])).savedCount with ⟨hs, hv⟩ | ⟨hs, hv⟩
  · -- the state is the old snapshot's; a new snapshot has none
    rw [hs] at hblob
    cases snap with
    | none => cases hblob
    | some old =>
      rw [hv]
      exact h.snoc st old rfl blob hblob
  · rw [hs] at hblob
    cases hblob
    exact ⟨sts ++ [st], [], (List.append_nil _).symm, st, by simp, rfl, hv⟩

theorem StateFrom.save {sid : String} {sts : List SagaState} {w w' : World} {s : Settings}
    {st : SagaState} (hk : Kept sid sts w) (hs : StateFrom sts (w.snapshots.get? sid)) (hid : st.id = sid)
    (hbound : (positionAfter (sts ++ [st])).version < StoredEvent.wordBound)
    (h : (Persist.save s st).run w = (.ok (), w')) : StateFrom (sts ++ [st]) (w'.snapshots.get? sid) := by
  obtain ⟨-, -, -, -, -, hsnap⟩ := hk.save_spec hid hbound h
  rw [hsnap, SnapshotShelf.get?_save]
  split
  · exact hs.snoc st
  · rw [SnapshotShelf.get?_put]
    split
    · rw [← hid] at hs
      exact hid ▸ hs.refreshed s st
    · exact hs.snoc st

/-- Along every run of saves from a fresh saga, the snapshot's state comes from one of the
saves. -/
theorem SaveRun.stateFrom {sid : String} {w₀ w : World} {sts : List SagaState} (run : SaveRun sid w₀ sts w)
    (h₀ : Kept sid [] w₀) (hnone : w₀.snapshots.get? sid = none)
    (hbound : (positionAfter sts).version < StoredEvent.wordBound) :
    StateFrom sts (w.snapshots.get? sid) := by
  induction run with
  | start => rw [hnone]; exact StateFrom.none []
  | save s st run hid hsave ih =>
    have hb := Nat.lt_trans positionAfter_version_lt hbound
    exact (ih hb).save (run.kept h₀ hb) hid hbound hsave
  | frame _ _ _ hsnap ih =>
    rcases hsnap with h | h
    · rw [h]; exact ih hbound
    · rw [h]; exact StateFrom.none _

/-- What a snapshot load that yields a state has read: the snapshot's verified state, decoded,
and the stream after the version it was taken at, replayed on it and finished. -/
theorem fromSnapshot_some {s : Settings} {sid : String} {sn : Snapshot} {w : World} {st : SagaState}
    (h : ((fromSnapshot s sid sn).run w).1 = some st) :
    ∃ blob st₀ now, sn.verifiedState = some blob ∧ decodeState s blob = .ok st₀ ∧
      w.events.failReads = false ∧
      ((Replay.ofState st₀).applyAll ((w.events.stream sid).filter (·.version ≥ sn.stateVersion + 1)) >>=
        fun r => r.finish sid (some sn.definitionName) now) = .ok st := by
  unfold fromSnapshot at h
  rcases hv : sn.verifiedState with _ | blob
  · simp [hv] at h
  rcases hd : decodeState s blob with _ | st₀
  · simp [hv, hd] at h
  simp only [hv, hd, StateT.run_bind, StateT.run_get, bind_id, fst_pure_id, snd_pure_id] at h
  split at h
  · simp [fst_pure_id] at h
  simp only [StateT.run_bind, onEvents_run, bind_id] at h
  split at h
  · rename_i tail heq
    -- the tail was read, so reads were on, and it is the stream after the state's version
    have hf : w.events.failReads = false := by
      unfold EventLog.getEvents at heq
      split at heq
      · cases heq
      · rename_i hfr
        simpa using hfr
    rw [EventLog.getEvents_ok _ _ _ hf] at heq
    cases heq
    split at h
    · simp [fst_pure_id] at h
    simp only [StateT.run_bind, bind_id] at h
    split at h
    · rename_i st' heq
      simp only [StateT.run_pure, fst_pure_id, Option.some.injEq] at h
      subst h
      exact ⟨blob, st₀, _, rfl, hd, hf, heq⟩
    · simp [fst_pure_id] at h
  · simp [fst_pure_id] at h

/-- Finishing the replay of a state gives the state back, whatever the fallback name and
clock reading. -/
theorem finish_ofState (st : SagaState) (fallback : Option String) (now : Instant) :
    (Replay.ofState st).finish st.id fallback now = .ok st := rfl

/-- The last state event of a stream that saves wrote is the last save's. -/
theorem Written.last_stateEvent {sid : String} {sts : List SagaState} {st : SagaState}
    {es : List StoredEvent} (h : Written sid (sts ++ [st]) es) :
    ∃ e, (es.filter (·.kind == .stateChanged)).getLast? = some e ∧ StateEventOf st (positionAfter sts) e := by
  generalize hs : sts ++ [st] = l at h
  cases h with
  | nil => simp at hs
  | @save sts' es' st' b _ _ _ hb =>
    obtain ⟨rfl, hst⟩ := List.append_inj' hs (rfl : [st'].length = [st].length)
    cases hst
    cases hb with
    | @mk head steps close hhead hsteps hclose _ =>
      -- step events and the checkpoint are of other kinds: only the state event is kept
      have hsteps' : steps.filter (·.kind == .stateChanged) = [] := by
        refine List.filter_eq_nil_iff.mpr fun e he => ?_
        obtain ⟨_, _, hse⟩ := forall₂_mem_right hsteps he
        have := hse.isStepEvent
        intro hk
        rw [EventKind.beq_iff.mp hk] at this
        cases this
      refine ⟨head, ?_, hhead⟩
      simp [List.filter_append, hhead.kind, hclose.kind, hsteps']

/-- The status of a saga whose stream saves wrote is the last saved state's. -/
theorem status_written {sid : String} {sts : List SagaState} {st : SagaState} {w : World}
    (hw : Written sid (sts ++ [st]) (w.events.stream sid)) (hf : w.events.failReads = false) :
    ((Persist.status sid).run w).1 = .ok st.status := by
  obtain ⟨e, he, hs⟩ := hw.last_stateEvent
  unfold Persist.status
  simp only [StateT.run_bind, onEvents_run, bind_id, lastOfKind_ok _ _ _ hf, he,
    StoredEvent.getStr?_of_get? hs.status, StateT.run_pure, fst_pure_id, SagaStatus.parse_name]

theorem Written.id_of_mem {sid : String} {sts : List SagaState} {es : List StoredEvent}
    (h : Written sid sts es) : ∀ st ∈ sts, st.id = sid := by
  induction h with
  | nil => simp
  | save _ hid _ _ ih =>
    intro st hst
    rcases List.mem_append.mp hst with hst | hst
    · exact ih st hst
    · rw [List.mem_singleton.mp hst]
      exact hid

/-- The full replay of a stream that successive saves wrote, finished with any fallback name
and at any clock reading, gives the last saved state. -/
theorem replay_written {sid : String} {sts : List SagaState} {st : SagaState} {es : List StoredEvent}
    (hw : Written sid (sts ++ [st]) es) (hc : Continues (sts ++ [st]))
    (hr : ∀ x ∈ sts ++ [st], x.Replayable) (fallback : Option String) (now : Instant) :
    (({} : Replay).applyAll es >>= fun r => r.finish sid fallback now) = .ok st := by
  have hall := applyAll_written hw hc hr [] (sts ++ [st]) rfl
  rw [List.getLast?_concat] at hall
  change ({} : Replay).applyAll (es.drop 0) = .ok (Replay.ofState st) at hall
  rw [List.drop_zero] at hall
  rw [hall, ← hw.id_of_mem st (by simp)]
  exact finish_ofState st fallback now

/-- On a stream that successive saves wrote, with a snapshot whose state comes from one of
them, a snapshot load that yields a state yields the last saved state. -/
theorem fromSnapshot_written {sid : String} {sts : List SagaState} {st : SagaState} {w : World}
    {s : Settings} {sn : Snapshot} (hw : Written sid sts (w.events.stream sid))
    (hsf : StateFrom sts (some sn)) (hc : Continues sts) (hr : ∀ x ∈ sts, x.Replayable)
    (hcodec : ∀ x ∈ sts, Codec.decode (Codec.encode x) = .ok x)
    (hload : ((fromSnapshot s sid sn).run w).1 = some st) : sts.getLast? = some st := by
  obtain ⟨blob, st₀, now, hv, hd, -, hreplay⟩ := fromSnapshot_some hload
  -- the snapshot holds the stored form of the last state of a prefix `A` of the saves
  obtain ⟨A, B, hAB, stA, hstA, rfl, hver⟩ := hsf sn rfl blob (verifiedState_state hv)
  have hA : stA ∈ sts := hAB ▸ List.mem_append_left B (List.mem_of_getLast? hstA)
  have hdec : Except.ok st₀ = (.ok stA : Except CodecFault SagaState) :=
    (decodeState_ok hd).symm.trans (hcodec stA hA)
  have hst₀ : st₀ = stA := by injection hdec
  subst hst₀
  obtain ⟨stL, hL⟩ : ∃ stL, sts.getLast? = some stL := by
    rw [hAB, List.getLast?_append, hstA]
    cases B.getLast? with
    | none => exact ⟨st₀, rfl⟩
    | some b => exact ⟨b, rfl⟩
  -- the tail after the snapshot's version replays from its state to the last saved one
  have htail : (w.events.stream sid).filter (·.version ≥ sn.stateVersion + 1) =
      (w.events.stream sid).drop (positionAfter A).version := by
    rw [← hver, ← filter_numberedFrom hw.numbered sn.stateVersion, Nat.zero_add]
  have hfrom := applyAll_written hw hc hr A B hAB
  rw [hstA, hL] at hfrom
  change (Replay.ofState st₀).applyAll _ = .ok (Replay.ofState stL) at hfrom
  rw [htail, hfrom] at hreplay
  change (Replay.ofState stL).finish sid (some sn.definitionName) now = .ok st at hreplay
  rw [← hw.id_of_mem stL (List.mem_of_getLast? hL), finish_ofState] at hreplay
  have hst : stL = st := by injection hreplay
  rw [hL, hst]

/-- Along every run of successive saves of a fresh saga, with states that a replay reads back
and that the state codec reads back from their stored form, a load from the snapshot that
yields a state yields the last saved state; a full replay of the stream, finished with the
snapshot's definition name as fallback and at any clock reading, yields the same state, and the
status read from the last state event is its status. -/
theorem snapshot_load_agrees {sid : String} {w₀ w : World} {sts : List SagaState}
    (run : SaveRun sid w₀ sts w) (hkeyed : w₀.events.Keyed) (hempty : w₀.events.stream sid = [])
    (hnone : w₀.snapshots.get? sid = none)
    (hbound : (positionAfter sts).version < StoredEvent.wordBound)
    (hcont : Continues sts) (hrep : ∀ st ∈ sts, st.Replayable)
    (hcodec : ∀ st ∈ sts, Codec.decode (Codec.encode st) = .ok st)
    {s : Settings} {sn : Snapshot} {st : SagaState}
    (hsn : w.snapshots.get? sid = some sn) (hload : ((fromSnapshot s sid sn).run w).1 = some st) :
    sts.getLast? = some st ∧
      (∀ now, (({} : Replay).applyAll (w.events.stream sid) >>= fun r =>
        r.finish sid (some sn.definitionName) now) = .ok st) ∧
      ((Persist.status sid).run w).1 = .ok st.status := by
  have h₀ := Kept.start hkeyed hempty hnone
  have hw := (run.kept h₀ hbound).written
  have hsf := run.stateFrom h₀ hnone hbound
  rw [hsn] at hsf
  have hL := fromSnapshot_written hw hsf hcont hrep hcodec hload
  obtain ⟨-, -, -, -, -, hf, -⟩ := fromSnapshot_some hload
  obtain ⟨sts', rfl⟩ := List.getLast?_eq_some_iff.mp hL
  exact ⟨hL, replay_written hw hcont hrep _, status_written hw hf⟩

/-- Two history entries that agree on every field are equal. -/
theorem HistoryEntry.eq_of_fields {a b : HistoryEntry}
    (h₁ : (a.stepName, a.status, a.startedAt) = (b.stepName, b.status, b.startedAt))
    (h₂ : (a.completedAt, a.error, a.retryAttempt) = (b.completedAt, b.error, b.retryAttempt)) :
    a = b := by
  cases a
  cases b
  simp only [Prod.mk.injEq] at h₁ h₂
  obtain ⟨rfl, rfl, rfl⟩ := h₁
  obtain ⟨rfl, rfl, rfl⟩ := h₂
  rfl

theorem history_eq_of_fields : ∀ {xs ys : List HistoryEntry},
    xs.map (fun e => (e.stepName, e.status, e.startedAt)) =
      ys.map (fun e => (e.stepName, e.status, e.startedAt)) →
    xs.map (fun e => (e.completedAt, e.error, e.retryAttempt)) =
      ys.map (fun e => (e.completedAt, e.error, e.retryAttempt)) →
    xs = ys
  | [], [], _, _ => rfl
  | [], _ :: _, h, _ => by cases h
  | _ :: _, [], h, _ => by cases h
  | x :: xs, y :: ys, h₁, h₂ => by
    simp only [List.map_cons, List.cons.injEq] at h₁ h₂
    rw [HistoryEntry.eq_of_fields h₁.1 h₂.1, history_eq_of_fields h₁.2 h₂.2]

/-- A blob decodes to a state with an empty context when what it decodes to agrees with the
state field by field. The fields are compared in four groups, each an equality that can be
decided, so that a concrete blob is checked by evaluation. -/
theorem decode_eq_of_fields {blob : ByteArray} {st : SagaState} (hctx : st.context = [])
    (h : (Codec.decode blob).toOption.map (fun d => (d.id, d.definitionName, d.status, d.currentStep)) =
          some (st.id, st.definitionName, st.status, st.currentStep) ∧
        (Codec.decode blob).toOption.map (fun d => (d.createdAt, d.startedAt, d.completedAt, d.context.isEmpty)) =
          some (st.createdAt, st.startedAt, st.completedAt, true) ∧
        (Codec.decode blob).toOption.map (fun d => d.history.map fun e => (e.stepName, e.status, e.startedAt)) =
          some (st.history.map fun e => (e.stepName, e.status, e.startedAt)) ∧
        (Codec.decode blob).toOption.map
            (fun d => d.history.map fun e => (e.completedAt, e.error, e.retryAttempt)) =
          some (st.history.map fun e => (e.completedAt, e.error, e.retryAttempt))) :
    Codec.decode blob = .ok st := by
  rcases hd : Codec.decode blob with e | d
  · rw [hd] at h
    cases h.1
  · rw [hd] at h
    simp only [Except.toOption, Option.map_some, Option.some.injEq, Prod.mk.injEq, List.isEmpty_iff] at h
    obtain ⟨⟨h₁, h₂, h₃, h₄⟩, ⟨h₅, h₆, h₇, h₈⟩, h₉, h₁₀⟩ := h
    have hh := history_eq_of_fields h₉ h₁₀
    rcases d with ⟨i, dn, s, c, x, hist, cr, sa, co⟩
    rcases st with ⟨i', dn', s', c', x', hist', cr', sa', co'⟩
    dsimp only at *
    subst h₁ h₂ h₃ h₄ h₅ h₆ h₇ h₈ hh hctx
    rfl

theorem sampleStart_regular : sampleStart.Regular := ⟨by decide +kernel, by decide +kernel, by decide⟩

theorem sampleEntry_replayable (name : String) (status : StepStatus) :
    (sampleEntry name status).Replayable :=
  ⟨sampleStart_regular, fun t ht => (by cases ht), show 0 < Replay.attemptBound by decide⟩

theorem sampleSaga_replayable {history : List HistoryEntry} (he : ∀ e ∈ history, e.Replayable)
    (hk : (history.map HistoryEntry.key).Nodup) : (sampleSaga history).Replayable where
  step := show 0 < StoredEvent.wordBound by decide
  created := sampleStart_regular
  started := fun t ht => by cases ht; exact sampleStart_regular
  completed := fun t ht => by cases ht
  entries := he
  keys := hk

/-- The sample saga after its first step completed. -/
def firstSaved : SagaState := sampleSaga [sampleEntry "a" .completed]

/-- The sample saga with its second step running. -/
def secondSaved : SagaState := sampleSaga [sampleEntry "a" .completed, sampleEntry "b" .running]

/-- Snapshot states taken whenever an entry completed since the last one, without a checksum. -/
def eagerSnapshots : Settings := { snapshots := ⟨1, false⟩ }

theorem firstSaved_readable : firstSaved.Replayable ∧ Codec.decode (Codec.encode firstSaved) = .ok firstSaved :=
  ⟨sampleSaga_replayable (by simp [sampleEntry_replayable]) (by decide +kernel),
    decode_eq_of_fields rfl (by decide +kernel)⟩

theorem secondSaved_readable :
    secondSaved.Replayable ∧ Codec.decode (Codec.encode secondSaved) = .ok secondSaved :=
  ⟨sampleSaga_replayable (by simp [sampleEntry_replayable]) (by decide +kernel),
    decode_eq_of_fields rfl (by decide +kernel)⟩

theorem two_saves_load_agree :
    let w₁ := ((Persist.save eagerSnapshots firstSaved).run sampleWorld).2
    let w₂ := ((Persist.save eagerSnapshots secondSaved).run w₁).2
    SaveRun "saga-1" sampleWorld [firstSaved, secondSaved] w₂ ∧ Continues [firstSaved, secondSaved] ∧
      (∀ st ∈ [firstSaved, secondSaved], st.Replayable ∧ Codec.decode (Codec.encode st) = .ok st) ∧
      ∃ sn st, w₂.snapshots.get? "saga-1" = some sn ∧
        ((fromSnapshot eagerSnapshots "saga-1" sn).run w₂).1 = some st ∧
        [firstSaved, secondSaved].getLast? = some st ∧
        (∀ now, (({} : Replay).applyAll (w₂.events.stream "saga-1") >>= fun r =>
          r.finish "saga-1" (some sn.definitionName) now) = .ok st) ∧
        ((Persist.status "saga-1").run w₂).1 = .ok st.status := by
  intro w₁ w₂
  -- the saves succeed; the snapshot holds the first state, and the load replays the second
  -- save's batch on it
  have hrun : ((Persist.save eagerSnapshots firstSaved).run sampleWorld).1.toBool = true ∧
      ((Persist.save eagerSnapshots secondSaved).run w₁).1.toBool = true ∧
      ((w₂.snapshots.get? "saga-1").map fun sn =>
        (sn.stateVersion, ((fromSnapshot eagerSnapshots "saga-1" sn).run w₂).1.isSome)) = some (3, true) := by
    decide +kernel
  obtain ⟨hok₁, hok₂, hload⟩ := hrun
  obtain ⟨sn, hsn, hsome⟩ := Option.map_eq_some_iff.mp hload
  have hsome : ((fromSnapshot eagerSnapshots "saga-1" sn).run w₂).1.isSome = true :=
    (Prod.mk.inj hsome).2
  have run : SaveRun "saga-1" sampleWorld [firstSaved, secondSaved] w₂ :=
    @SaveRun.save _ _ [firstSaved] w₁ w₂ eagerSnapshots secondSaved
      (.save eagerSnapshots firstSaved .start rfl (save_run_ok hok₁)) rfl (save_run_ok hok₂)
  -- the second state keeps the entry the first save counted as saved
  have hcont : Continues [firstSaved, secondSaved] := by
    refine @Continues.snoc [firstSaved] secondSaved (.snoc .nil fun prev h => by cases h) ?_
    intro prev hprev
    cases hprev
    have hc : (positionAfter [firstSaved]).savedCount = 1 := by decide
    rw [hc]
    exact ⟨rfl, fun x hx => (by cases hx), fun h => (by cases h)⟩
  have hst : ∀ st ∈ [firstSaved, secondSaved], st.Replayable ∧ Codec.decode (Codec.encode st) = .ok st := by
    intro st hmem
    simp only [List.mem_cons, List.not_mem_nil, or_false] at hmem
    rcases hmem with rfl | rfl
    · exact firstSaved_readable
    · exact secondSaved_readable
  have hld := (Option.some_get hsome).symm
  refine ⟨run, hcont, hst, sn, _, hsn, hld, ?_⟩
  exact snapshot_load_agrees run keyed_sampleWorld rfl rfl (by decide) hcont
    (fun st h => (hst st h).1) (fun st h => (hst st h).2) hsn hld

/-- The two paths part once a save clears the start time: the snapshot holds the state without
it, while a replay keeps the start time of the state event before. -/
theorem cleared_start_loads_differ :
    let st₁ := sampleSaga [sampleEntry "a" .completed]
    let st₂ := { sampleSaga [sampleEntry "a" .completed] with status := .completed, startedAt := none }
    let w₁ := ((Persist.save eagerSnapshots st₁).run sampleWorld).2
    let w₂ := ((Persist.save eagerSnapshots st₂).run w₁).2
    SaveRun "saga-1" sampleWorld [st₁, st₂] w₂ ∧
      ((w₂.snapshots.get? "saga-1").map fun sn =>
        (((fromSnapshot eagerSnapshots "saga-1" sn).run w₂).1.map (·.startedAt),
          ((({} : Replay).applyAll (w₂.events.stream "saga-1") >>= fun r =>
            r.finish "saga-1" (some sn.definitionName) sampleStart).toOption.map (·.startedAt)))) =
        some (some none, some (some sampleStart)) := by
  intro st₁ st₂ w₁ w₂
  have h : ((Persist.save eagerSnapshots st₁).run sampleWorld).1.toBool = true ∧
      ((Persist.save eagerSnapshots st₂).run w₁).1.toBool = true ∧
      ((w₂.snapshots.get? "saga-1").map fun sn =>
        (((fromSnapshot eagerSnapshots "saga-1" sn).run w₂).1.map (·.startedAt),
          ((({} : Replay).applyAll (w₂.events.stream "saga-1") >>= fun r =>
            r.finish "saga-1" (some sn.definitionName) sampleStart).toOption.map (·.startedAt)))) =
        some (some none, some (some sampleStart)) := by
    decide +kernel
  exact ⟨@SaveRun.save _ _ [st₁] w₁ w₂ eagerSnapshots st₂
    (.save eagerSnapshots st₁ .start rfl (save_run_ok h.1)) rfl (save_run_ok h.2.1), h.2.2⟩

end Persist

end Saga
