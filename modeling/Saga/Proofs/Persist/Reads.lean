import Saga.Proofs.Persist.Growth

/-!
# What a save reads

On a stream that a single writer's saves wrote, position resolution never gets past its
second tier: a snapshot, which always carries a checkpoint (`SavedSnapshot`), is behind the
stream's end or at it, so the snapshot tier reads just the events after its checkpoint
(`fromSnapshotMeta_tail`); without a snapshot the last checkpoint is the stream's last event,
so the checkpoint tier reads nothing at all (`fromCheckpoint_last`). The rest of a save
leaves the read counters alone (`save_readCounters`, from the frame rule `KeepsReads`).

A save whose snapshot write goes through leaves the refreshed snapshot: its checkpoint at the
stream's end, and, when its state encodes, a state at most `frequency - 1` completed entries
behind, taken at the stream's end if the saga finished (`refreshed_fresh`). A codec that
refuses to encode leaves the state as it was (`refused_encoding_leaves_state_behind`).
-/

namespace Saga

namespace EventLog

@[simp] theorem setStream_eventsRead (l : EventLog) (id : String) (evs : List StoredEvent) :
    (l.setStream id evs).eventsRead = l.eventsRead := by
  unfold setStream; split <;> rfl

@[simp] theorem setStream_fullReads (l : EventLog) (id : String) (evs : List StoredEvent) :
    (l.setStream id evs).fullReads = l.fullReads := by
  unfold setStream; split <;> rfl

theorem append_counters (l : EventLog) (id : String) (expected : Nat) (events : List StoredEvent) :
    (l.append id expected events).2.eventsRead = l.eventsRead ∧
      (l.append id expected events).2.fullReads = l.fullReads := by
  unfold append
  dsimp only
  split <;> simp

end EventLog

namespace Persist

open EventLog

/-! ## A frame rule for the read counters -/

/-- The event log's read counters: events returned by reads, and reads from the first
version. -/
def readCounters (w : World) : Nat × Nat := (w.events.eventsRead, w.events.fullReads)

/-- `m` leaves the read counters as they were. -/
def KeepsReads {α : Type} (m : StateM World α) : Prop :=
  ∀ w, readCounters (m.run w).2 = readCounters w

theorem KeepsReads.pure {α : Type} (a : α) : KeepsReads (Pure.pure a : StateM World α) :=
  fun _ => rfl

theorem KeepsReads.bind {α β : Type} {x : StateM World α} {k : α → StateM World β}
    (hx : KeepsReads x) (hk : ∀ a, KeepsReads (k a)) : KeepsReads (x >>= k) := by
  intro w
  rw [StateT.run_bind]
  exact (hk _ _).trans (hx w)

theorem KeepsReads.of_ambient {α : Type} {m : StateM World α} (h : ∀ w, AmbientOnly w (m.run w).2) :
    KeepsReads m := fun w => by
  unfold readCounters
  rw [(h w).events]

theorem keepsReads_append (id : String) (expected : Nat) (events : List StoredEvent) :
    KeepsReads (onEvents (·.append id expected events)) := fun w => by
  obtain ⟨h₁, h₂⟩ := append_counters w.events id expected events
  simp only [readCounters, onEvents_run, h₁, h₂]

/-- A save changes the read counters only while it resolves the position: building the
batch, appending it and refreshing the snapshot read nothing. -/
theorem save_readCounters (s : Settings) (st : SagaState) (w : World) :
    readCounters ((Persist.save s st).run w).2 =
      readCounters ((resolvePosition st.id (w.snapshots.get? st.id) st.createdAt).run w).2 := by
  unfold Persist.save
  simp only [StateT.run_bind, StateT.run_get, bind_id]
  rcases (resolvePosition st.id (w.snapshots.get? st.id) st.createdAt).run w with ⟨res, w₁⟩
  refine (?_ : KeepsReads _) w₁
  split
  · exact .pure _
  · split
    · exact .pure _
    · refine .bind (.of_ambient (stateChanged_ambient st _)) fun _ =>
        .bind (.of_ambient (stepEvents_ambient st.id _)) fun _ =>
        .bind (.of_ambient (checkpoint_ambient st.id _ _)) fun _ =>
        .bind (keepsReads_append _ _ _) fun _ => ?_
      split
      · exact .pure _
      · exact .bind (fun _ => rfl) fun _ => .pure _

/-! ## The first two tiers on a written stream -/

/-- `w` after reading `n` more events, none of them from the first version. -/
def readMore (w : World) (n : Nat) : World :=
  { w with events := { w.events with eventsRead := w.events.eventsRead + n } }

@[simp] theorem readMore_zero (w : World) : readMore w 0 = w := rfl

@[simp] theorem readMore_snapshots (w : World) (n : Nat) : (readMore w n).snapshots = w.snapshots := rfl

@[simp] theorem readMore_stream (w : World) (n : Nat) (x : String) :
    (readMore w n).events.stream x = w.events.stream x := rfl

theorem refine_at {sid : String} {known : Position} {current : Nat} (w : World)
    (h : known.version = current) : (refine sid known current).run w = (some known, w) := by
  unfold refine
  simp [h]
  rfl

theorem Written.checkpoint_at_end {sid : String} {sts : List SagaState} {es : List StoredEvent}
    (hw : Written sid sts es) (hne : sts ≠ []) :
    ∃ es' close, es = es' ++ [close] ∧ CheckpointOf sid (positionAfter sts) close ∧
      close.version = (positionAfter sts).version := by
  obtain ⟨es', close, rfl, hclose⟩ := hw.ends_in_checkpoint hne
  refine ⟨es', close, rfl, hclose, ?_⟩
  have hn := (numberedFrom_append.mp hw.numbered).2
  rw [← hw.length]
  simp only [NumberedFrom] at hn
  simp [hn.1]

section Written

variable {w : World} {sid : String} {sts : List SagaState}
  (hw : Written sid sts (w.events.stream sid))
  (hbound : (positionAfter sts).version < StoredEvent.wordBound)
  (hreads : w.events.failReads = false)
include hw hbound hreads

/-- Behind the stream's end, a refinement reads exactly the events after the known version,
and reaches the position the saves left. -/
theorem refine_behind {v : Nat} (h0 : 0 < v) (hv : v < (positionAfter sts).version) (c : Nat) :
    (refine sid ⟨v, c⟩ (w.events.currentVersion sid)).run w =
      (some (positionAfter sts), readMore w ((positionAfter sts).version - v)) := by
  have hlen := hw.length
  have htail : (w.events.stream sid).filter (·.version ≥ v + 1) = (w.events.stream sid).drop v := by
    have := filter_numberedFrom hw.numbered v
    rwa [Nat.zero_add] at this
  have hnum : NumberedFrom v ((w.events.stream sid).drop v) := by
    have := (numberedFrom_append.mp
      ((List.take_append_drop v (w.events.stream sid)).symm ▸ hw.numbered)).2
    rwa [Nat.zero_add, List.length_take, Nat.min_eq_left (by omega)] at this
  have hscan := hw.scan_drop hbound (k := v) (by omega) ⟨v, c⟩
  unfold refine
  simp only [currentVersion_written hw, gt_iff_lt, Nat.lt_asymm hv, if_false, beq_iff_eq,
    Nat.ne_of_lt hv, StateT.run_bind, onEvents_run, bind_id, getEvents, hreads, htail,
    Bool.false_eq_true, isContiguous_of_numbered hnum, Bool.not_true, hscan, if_true,
    StateT.run_pure]
  simp only [show ¬ v + 1 ≤ 1 by omega, if_false, Nat.add_zero, List.length_drop, hlen, readMore,
    hreads]
  rfl

/-- A snapshot written by a save yields the position the saves left, after reading just the
events past its checkpoint. -/
theorem fromSnapshotMeta_tail {sn : Snapshot} (h0 : 0 < sn.lastSavedVersion)
    (hat : SnapshotAt (positionAfter sts) sn) :
    (fromSnapshotMeta sid (some sn) (w.events.currentVersion sid)).run w =
      (some (positionAfter sts), readMore w ((positionAfter sts).version - sn.lastSavedVersion)) := by
  dsimp only [fromSnapshotMeta]
  rw [if_pos h0]
  rcases hat with hlt | ⟨heq, hc⟩
  · exact refine_behind hw hbound hreads h0 hlt _
  · rw [refine_at w (by rw [currentVersion_written hw, heq]), heq, hc, Nat.sub_self, readMore_zero]

/-- Without reading any event, the last checkpoint yields the position the saves left, when
the store finds it by itself. -/
theorem fromCheckpoint_last (hdirect : w.events.delegating = false) (hne : sts ≠ []) :
    (fromCheckpoint sid (w.events.currentVersion sid)).run w = (some (positionAfter sts), w) := by
  obtain ⟨es', close, hes, hclose, hv⟩ := hw.checkpoint_at_end hne
  have hlast : ((w.events.stream sid).filter (·.kind == .checkpoint)).getLast? = some close := by
    rw [hes, List.filter_append, List.filter_singleton, hclose.kind]
    simp
  have hcount : close.getU64? MetaKey.savedHistoryCount = some (positionAfter sts).savedCount :=
    getU64?_of_get? hclose.count (Nat.lt_of_le_of_lt hw.savedCount_le hbound)
  have hl : w.events.lastOfKind sid .checkpoint = (.ok (some close), w.events) := by
    simp [lastOfKind, hdirect, hreads, hlast]
  unfold fromCheckpoint
  simp only [StateT.run_bind, onEvents_run, bind_id, hl, hcount]
  rw [refine_at _ (by rw [hv, currentVersion_written hw]), hv]

end Written

/-! ## Position resolution on a single writer's stream -/

/-- A snapshot that a save of saga `sid` wrote: it names the saga and records a checkpoint. -/
structure SavedSnapshot (sid : String) (sn : Snapshot) : Prop where
  sagaId : sn.sagaId = sid
  checkpointed : 0 < sn.lastSavedVersion

section Resolve

variable {w : World} {sid : String} {sts : List SagaState} (hk : Kept sid sts w)
  (hbound : (positionAfter sts).version < StoredEvent.wordBound)
  (hreads : w.events.failReads = false)
  (hsaved : ∀ sn, w.snapshots.get? sid = some sn → SavedSnapshot sid sn)
include hk hbound hreads hsaved

omit hbound hreads in
/-- Before the first save there is no snapshot to read from. -/
theorem snapshot_none_of_empty (h0 : (positionAfter sts).version = 0) : w.snapshots.get? sid = none := by
  cases hs : w.snapshots.get? sid with
  | none => rfl
  | some sn =>
    have h1 := (hsaved sn hs).checkpointed
    rcases hk.snapshot sn hs with hlt | ⟨heq, -⟩ <;> omega

/-- Position resolution stops at the snapshot tier when there is a snapshot, and at the
checkpoint tier otherwise: it never looks events up by kind nor replays the stream. -/
theorem resolvePosition_early_tiers (hdirect : w.events.delegating = false) :
    w.events.currentVersion sid = 0 ∨
      ((fromSnapshotMeta sid (w.snapshots.get? sid) (w.events.currentVersion sid)).run w).1 =
        some (positionAfter sts) ∨
      (w.snapshots.get? sid = none ∧
        ((fromCheckpoint sid (w.events.currentVersion sid)).run w).1 = some (positionAfter sts)) := by
  have hcur := currentVersion_written hk.written
  by_cases h0 : (positionAfter sts).version = 0
  · exact .inl (hcur.trans h0)
  · have hne : sts ≠ [] := by rintro rfl; exact h0 rfl
    cases hs : w.snapshots.get? sid with
    | some sn =>
      exact .inr (.inl (by rw [fromSnapshotMeta_tail hk.written hbound hreads
        (hsaved sn hs).checkpointed (hk.snapshot sn hs)]))
    | none => exact .inr (.inr ⟨rfl, by rw [fromCheckpoint_last hk.written hbound hreads hdirect hne]⟩)

/-- Position resolution reads exactly the events past the snapshot's checkpoint, or none
without a snapshot, and finds the position the saves left. -/
theorem resolvePosition_tail (hdirect : w.events.delegating = false) (t : Instant) :
    (resolvePosition sid (w.snapshots.get? sid) t).run w =
      (.ok (positionAfter sts), readMore w (((w.snapshots.get? sid).map fun sn =>
        (positionAfter sts).version - sn.lastSavedVersion).getD 0)) := by
  have hcur := currentVersion_written hk.written
  unfold resolvePosition
  simp only [StateT.run_bind, StateT.run_get, bind_id, fst_pure_id, snd_pure_id, beq_iff_eq]
  by_cases h0 : (positionAfter sts).version = 0
  · -- nothing was saved yet, so there is no snapshot either
    have hpos : positionAfter sts = ⟨0, 0⟩ := by
      have := hk.written.savedCount_le
      rw [← position_eq (p := positionAfter sts), h0,
        show (positionAfter sts).savedCount = 0 by omega]
    rw [if_pos (hcur.trans h0), snapshot_none_of_empty hk hsaved h0, hpos]
    rfl
  · have hne : sts ≠ [] := by rintro rfl; exact h0 rfl
    rw [if_neg (by rw [hcur]; exact h0), StateT.run_bind]
    cases hs : w.snapshots.get? sid with
    | some sn =>
      rw [fromSnapshotMeta_tail hk.written hbound hreads (hsaved sn hs).checkpointed
        (hk.snapshot sn hs)]
      rfl
    | none =>
      show (fromCheckpoint sid (w.events.currentVersion sid) >>= _).run w = _
      rw [StateT.run_bind, fromCheckpoint_last hk.written hbound hreads hdirect hne]
      rfl

end Resolve

/-! ## The snapshot a save leaves -/

/-- Along a run of saves from a fresh saga, every snapshot of the saga was written by one of
them. -/
theorem SaveRun.savedSnapshot {sid : String} {w₀ w : World} {sts : List SagaState}
    (run : SaveRun sid w₀ sts w) (hkeyed : w₀.events.Keyed) (hempty : w₀.events.stream sid = [])
    (hnone : w₀.snapshots.get? sid = none)
    (hbound : (positionAfter sts).version < StoredEvent.wordBound) :
    ∀ sn, w.snapshots.get? sid = some sn → SavedSnapshot sid sn := by
  induction run with
  | start => intro sn hsn; rw [hnone] at hsn; cases hsn
  | save s st run' hid hsave ih =>
    have hb := Nat.lt_trans positionAfter_version_lt hbound
    obtain ⟨-, -, -, -, -, hsnap⟩ :=
      (run'.kept (Kept.start hkeyed hempty hnone) hb).save_spec hid hbound hsave
    intro sn hsn
    rw [hsnap, SnapshotShelf.get?_save] at hsn
    split at hsn
    · exact ih hb sn hsn
    · rw [SnapshotShelf.get?_put] at hsn
      split at hsn
      · -- the refreshed snapshot, filed under the saga it names
        rename_i hsid
        cases hsn
        exact ⟨hsid.symm, by
          rw [refreshed_lastSavedVersion]
          exact Nat.lt_of_le_of_lt (Nat.zero_le _) positionAfter_version_lt⟩
      · exact ih hb sn hsn
  | frame _ _ _ hsnap ih =>
    intro sn hsn
    rcases hsnap with h | h
    · exact ih hbound sn (h ▸ hsn)
    · rw [h] at hsn; cases hsn

/-- A save whose snapshot write goes through leaves the refreshed snapshot at the position it
reached. -/
theorem Kept.save_snapshot {sid : String} {sts : List SagaState} {w w' : World} {s : Settings}
    {st : SagaState} (hk : Kept sid sts w) (hid : st.id = sid)
    (hbound : (positionAfter (sts ++ [st])).version < StoredEvent.wordBound)
    (hsaved : ∀ sn, w.snapshots.get? sid = some sn → SavedSnapshot sid sn)
    (hok : w.snapshots.failSaves = false) (h : (Persist.save s st).run w = (.ok (), w')) :
    w'.snapshots.get? sid = some (refreshed s (w.snapshots.get? sid) st
      (positionAfter (sts ++ [st])).version (positionAfter (sts ++ [st])).savedCount) := by
  obtain ⟨-, -, -, -, -, hsnap⟩ := hk.save_spec hid hbound h
  rw [hsnap, SnapshotShelf.get?_save, if_neg (by simp [hok]), SnapshotShelf.get?_put, if_pos]
  -- the refreshed snapshot names the saga: the old one did, and a new one is made for it
  rw [refreshed_sagaId]
  cases hs : w.snapshots.get? sid with
  | none => exact hid.symm
  | some sn => exact (hsaved sn hs).sagaId.symm

/-- When snapshots are on and the state encodes, a refreshed snapshot's state is fewer than
`frequency` completed entries behind the saved state, and is taken at the new version once
the saga finished. -/
theorem refreshed_fresh (s : Settings) (snap : Option Snapshot) (st : SagaState) (version saved : Nat)
    (hf : 0 < s.snapshots.frequency) (henc : ∃ blob, encodeState s st = .ok blob) :
    (st.history.filter (·.status == .completed)).length <
        (refreshed s snap st version saved).stateCompletedCount + s.snapshots.frequency ∧
      (st.status.isTerminal = true → (refreshed s snap st version saved).stateVersion = version) := by
  obtain ⟨blob, hblob⟩ := henc
  have hon : s.snapshots.isEnabled = true := by simp [SnapshotConfig.isEnabled, hf]
  unfold refreshed
  dsimp only
  rw [hon, Bool.true_and]
  split
  · -- the state is taken again, with the current completed count
    rw [hblob]
    exact ⟨by simp [Snapshot.setState]; omega, fun _ => rfl⟩
  · -- not due yet, and the saga has not finished
    rename_i hnot
    simp only [Bool.or_eq_true, not_or, Bool.not_eq_true] at hnot
    obtain ⟨hdue, hterm⟩ := hnot
    refine ⟨?_, fun h => by rw [h] at hterm; cases hterm⟩
    simp only [SnapshotConfig.isDue, hon, Bool.true_and, Bool.and_eq_false_iff, decide_eq_false_iff_not,
      Nat.not_lt, Nat.not_le] at hdue
    simp only [Snapshot.setCheckpoint] at hdue ⊢
    omega

/-! ## A save on a single writer's stream -/

/-- A save on a stream that a single writer's saves wrote, from a fresh saga, whose reads go
through and whose store finds the last checkpoint by itself: position resolution stops at the
snapshot tier, or at the checkpoint tier without a snapshot, so the save never looks events up
by kind; it reads exactly the events past the snapshot's checkpoint (none without a snapshot)
and none from the first version. When the snapshot write goes through, the snapshot's
checkpoint is at the stream's end with the last checkpoint's count; with snapshots on and a
state that encodes, the snapshot's state is fewer than `frequency` completed entries behind,
and is taken at the stream's end once the saga finished. Versions are assumed to fit in 64
bits, as the metadata reader requires. -/
theorem save_reads_snapshot_tail {sid : String} {w₀ w w' : World} {sts : List SagaState}
    {s : Settings} {st : SagaState}
    (run : SaveRun sid w₀ sts w) (hkeyed : w₀.events.Keyed) (hempty : w₀.events.stream sid = [])
    (hnone : w₀.snapshots.get? sid = none) (hid : st.id = sid)
    (hbound : (positionAfter (sts ++ [st])).version < StoredEvent.wordBound)
    (hreads : w.events.failReads = false) (hdirect : w.events.delegating = false)
    (hsave : (Persist.save s st).run w = (.ok (), w')) :
    (w.events.currentVersion sid = 0 ∨
      ((fromSnapshotMeta sid (w.snapshots.get? sid) (w.events.currentVersion sid)).run w).1 =
        some (positionAfter sts) ∨
      (w.snapshots.get? sid = none ∧
        ((fromCheckpoint sid (w.events.currentVersion sid)).run w).1 = some (positionAfter sts))) ∧
    w'.events.fullReads = w.events.fullReads ∧
    w'.events.eventsRead = w.events.eventsRead +
      ((w.snapshots.get? sid).map fun sn => w.events.currentVersion sid - sn.lastSavedVersion).getD 0 ∧
    (w.snapshots.failSaves = false → ∃ sn, w'.snapshots.get? sid = some sn ∧
      sn.lastSavedVersion = w'.events.currentVersion sid ∧
      (∃ c, ((w'.events.stream sid).filter (·.kind == .checkpoint)).getLast? = some c ∧
        c.getU64? MetaKey.savedHistoryCount = some sn.savedHistoryCount) ∧
      (0 < s.snapshots.frequency → (∃ blob, encodeState s st = .ok blob) →
        (st.history.filter (·.status == .completed)).length <
          sn.stateCompletedCount + s.snapshots.frequency ∧
        (st.status.isTerminal = true → sn.stateVersion = w'.events.currentVersion sid))) := by
  have hb := Nat.lt_trans positionAfter_version_lt hbound
  have hk := run.kept (Kept.start hkeyed hempty hnone) hb
  have hsaved := run.savedSnapshot hkeyed hempty hnone hb
  have hk' := hk.save hid hbound hsave
  have hcur := currentVersion_written hk.written
  have hcur' := currentVersion_written hk'.written
  -- the counters move only while the position is resolved
  have hcounters := save_readCounters s st w
  rw [hsave, hid, resolvePosition_tail hk hb hreads hsaved hdirect] at hcounters
  simp only [readCounters, readMore, Prod.mk.injEq] at hcounters
  refine ⟨resolvePosition_early_tiers hk hb hreads hsaved hdirect, hcounters.2,
    by rw [hcur]; exact hcounters.1, fun hok => ⟨_, hk.save_snapshot hid hbound hsaved hok hsave,
      by rw [refreshed_lastSavedVersion, hcur'], ?_, fun hf henc => ?_⟩⟩
  · -- the last checkpoint is the one this save appended
    obtain ⟨es', close, hes, hclose, -⟩ := hk'.written.checkpoint_at_end (by simp)
    refine ⟨close, by rw [hes, List.filter_append, List.filter_singleton, hclose.kind]; simp, ?_⟩
    rw [refreshed_savedHistoryCount]
    exact getU64?_of_get? hclose.count (Nat.lt_of_le_of_lt hk'.written.savedCount_le hbound)
  · obtain ⟨hfresh, hterm⟩ := refreshed_fresh s _ st _ _ hf henc
    exact ⟨hfresh, fun ht => by rw [hterm ht, hcur']⟩

/-- A finished saga with one completed step, as the sample saga. -/
def finishedSaga : SagaState :=
  { sampleSaga [sampleEntry "a" .completed] with status := .completed, completedAt := some sampleStart }

/-- Snapshots at every completed entry, with a codec that refuses to encode. -/
def refusingCodec : Settings := { snapshots := ⟨1, true⟩, codec := .refuseEncode }

/-- The claim fails for a codec that refuses to encode: the refreshed snapshot keeps no state,
so after the save of a finished saga with one completed step it is a completed entry behind
at frequency one, and its state version is not the stream's. -/
theorem refused_encoding_leaves_state_behind :
    let w := ((Persist.save refusingCodec finishedSaga).run sampleWorld).2
    SaveRun "saga-1" sampleWorld [finishedSaga] w ∧ sampleWorld.snapshots.failSaves = false ∧
      0 < refusingCodec.snapshots.frequency ∧ finishedSaga.status.isTerminal = true ∧
      ∃ sn, w.snapshots.get? "saga-1" = some sn ∧
        ¬ (finishedSaga.history.filter (·.status == .completed)).length <
          sn.stateCompletedCount + refusingCodec.snapshots.frequency ∧
        sn.stateVersion ≠ w.events.currentVersion "saga-1" := by
  intro w
  have hsave : (Persist.save refusingCodec finishedSaga).run sampleWorld = (.ok (), w) :=
    save_run_ok (by decide +kernel)
  have hk : Kept "saga-1" [] sampleWorld := Kept.start keyed_sampleWorld rfl rfl
  have hsnap := hk.save_snapshot rfl (by decide) (fun _ h => by cases h) rfl hsave
  refine ⟨.save _ _ .start rfl hsave, rfl, by decide, rfl, _, hsnap, by decide, ?_⟩
  rw [currentVersion_written (hk.save rfl (by decide) hsave).written]
  decide

/-- Two saves of a running saga, the second reading nothing: the first left the snapshot at
the stream's end. -/
theorem second_save_reads_nothing :
    let st₁ := sampleSaga [sampleEntry "a" .running]
    let st₂ := sampleSaga [sampleEntry "a" .completed]
    let w₁ := ((Persist.save {} st₁).run sampleWorld).2
    let w₂ := ((Persist.save {} st₂).run w₁).2
    SaveRun "saga-1" sampleWorld [st₁] w₁ ∧ w₁.events.failReads = false ∧
      w₁.events.delegating = false ∧ (Persist.save {} st₂).run w₁ = (.ok (), w₂) ∧
      (w₁.events.currentVersion "saga-1" = 0 ∨
        ((fromSnapshotMeta "saga-1" (w₁.snapshots.get? "saga-1")
          (w₁.events.currentVersion "saga-1")).run w₁).1 = some (positionAfter [st₁]) ∨
        (w₁.snapshots.get? "saga-1" = none ∧
          ((fromCheckpoint "saga-1" (w₁.events.currentVersion "saga-1")).run w₁).1 =
            some (positionAfter [st₁]))) ∧
      w₂.events.fullReads = w₁.events.fullReads ∧
      w₂.events.eventsRead = w₁.events.eventsRead +
        ((w₁.snapshots.get? "saga-1").map fun sn =>
          w₁.events.currentVersion "saga-1" - sn.lastSavedVersion).getD 0 ∧
      (w₁.snapshots.failSaves = false → ∃ sn, w₂.snapshots.get? "saga-1" = some sn ∧
        sn.lastSavedVersion = w₂.events.currentVersion "saga-1" ∧
        (∃ c, ((w₂.events.stream "saga-1").filter (·.kind == .checkpoint)).getLast? = some c ∧
          c.getU64? MetaKey.savedHistoryCount = some sn.savedHistoryCount) ∧
        (0 < ({} : Settings).snapshots.frequency → (∃ blob, encodeState {} st₂ = .ok blob) →
          (st₂.history.filter (·.status == .completed)).length <
            sn.stateCompletedCount + ({} : Settings).snapshots.frequency ∧
          (st₂.status.isTerminal = true → sn.stateVersion = w₂.events.currentVersion "saga-1"))) := by
  intro st₁ st₂ w₁ w₂
  have run₁ : SaveRun "saga-1" sampleWorld [st₁] w₁ :=
    .save {} st₁ .start rfl (save_run_ok (by decide +kernel))
  have hsave₂ : (Persist.save {} st₂).run w₁ = (.ok (), w₂) := save_run_ok (by decide +kernel)
  exact ⟨run₁, by decide +kernel, by decide +kernel, hsave₂,
    save_reads_snapshot_tail run₁ keyed_sampleWorld rfl rfl rfl (by decide) (by decide +kernel)
      (by decide +kernel) hsave₂⟩

end Persist

end Saga
