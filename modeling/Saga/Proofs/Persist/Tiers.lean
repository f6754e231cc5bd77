import Saga.Proofs.Persist.Batch

/-!
# The tiers of position resolution

Each tier of `resolvePosition` finds a known position from its own evidence and brings it
up to the stream's version with `refine`, which reads the tail after the known version. On
a stream numbered `1, …, n`, a refined position is the known one when it is already at `n`,
and otherwise the scan of the tail from it (`refine_some`). So a tier can only ever yield
what `scan` makes of some tail of the stream, or the evidence itself at the stream's
version; the lemmas here say which tail each tier reads:

* the snapshot's metadata and the last checkpoint give their own version;
* the last state event of the saga gives the tail from that event on;
* a full replay scans the whole stream.

All of them read the log and change nothing but its read counters (`ReadsOnly`).
-/

namespace Saga

namespace Persist

open EventLog

theorem bind_id {α β : Type} (x : Id α) (f : α → Id β) : x >>= f = f x := rfl

theorem onEvents_run {α : Type} (f : EventLog → α × EventLog) (w : World) :
    (onEvents f).run w = ((f w.events).1, { w with events := (f w.events).2 }) := rfl

/-- `w'` differs from `w` at most in the event log's read counters. -/
def ReadsOnly (w w' : World) : Prop :=
  ∃ read full : Nat, w' = { w with events := { w.events with eventsRead := read, fullReads := full } }

theorem ReadsOnly.refl (w : World) : ReadsOnly w w :=
  ⟨w.events.eventsRead, w.events.fullReads, rfl⟩

theorem ReadsOnly.trans {w₁ w₂ w₃ : World} (h₁ : ReadsOnly w₁ w₂) (h₂ : ReadsOnly w₂ w₃) :
    ReadsOnly w₁ w₃ := by
  obtain ⟨r₁, f₁, rfl⟩ := h₁
  obtain ⟨r₂, f₂, rfl⟩ := h₂
  exact ⟨r₂, f₂, rfl⟩

theorem ReadsOnly.of_counters {w : World} {l : EventLog} (h : CountersOnly w.events l) :
    ReadsOnly w { w with events := l } := by
  unfold CountersOnly at h
  rw [h]
  exact ⟨_, _, rfl⟩

theorem mem_drop_version {n : Nat} {es : List StoredEvent} (h : NumberedFrom n es) {e : StoredEvent}
    (he : e ∈ es) : e ∈ es.drop (e.version - n - 1) := by
  induction es generalizing n with
  | nil => simp at he
  | cons x es ih =>
    rcases List.mem_cons.mp he with rfl | he
    · rw [h.1]; simp
    · have hv := version_lt_of_numberedFrom h.2 e he
      rw [show e.version - n - 1 = (e.version - (n + 1) - 1) + 1 by omega, List.drop_succ_cons]
      exact ih h.2 he

section Refine

variable {w : World} {sid : String} {known q : Position}

/-- On a stream numbered from one, a refined position is the known one when it is at the
stream's version, and the scan of the tail after it when it is behind. -/
theorem refine_some (hnum : NumberedFrom 0 (w.events.stream sid))
    (h : ((refine sid known (w.events.currentVersion sid)).run w).1 = some q) :
    (known.version = w.events.currentVersion sid ∧ q = known) ∨
      (known.version < w.events.currentVersion sid ∧
        q = scan ((w.events.stream sid).drop known.version) known) := by
  by_cases h1 : known.version > w.events.currentVersion sid
  · unfold refine at h
    simp [h1] at h
  by_cases h2 : known.version = w.events.currentVersion sid
  · unfold refine at h
    simp only [h2, gt_iff_lt, Nat.lt_irrefl, if_false, beq_self_eq_true, if_true,
      StateT.run_pure, fst_pure_id, Option.some.injEq] at h
    exact .inl ⟨h2, h.symm⟩
  refine .inr ⟨by omega, ?_⟩
  unfold refine at h
  simp only [h1, h2, beq_iff_eq, if_false, StateT.run_bind, onEvents_run, bind_id] at h
  split at h
  · simp at h
  · rename_i tail heq
    have htail : tail = (w.events.stream sid).drop known.version := by
      unfold getEvents at heq
      split at heq
      · cases heq
      · have hf := filter_numberedFrom hnum known.version
        rw [Nat.zero_add] at hf
        simp only [Except.ok.injEq] at heq
        rw [← heq, hf]
    split at h
    · simp at h
    · simp only [StateT.run_pure] at h
      split at h
      · rw [htail] at h
        exact (Option.some.inj h).symm
      · cases h

theorem refine_reads (current : Nat) : ReadsOnly w ((refine sid known current).run w).2 := by
  unfold refine
  by_cases h1 : known.version > current
  · simp [h1]; exact .refl w
  by_cases h2 : known.version = current
  · simp [h2]; exact .refl w
  simp only [h1, h2, beq_iff_eq, if_false, StateT.run_bind, onEvents_run, bind_id]
  have hr := ReadsOnly.of_counters (getEvents_counters w.events sid (known.version + 1))
  split
  · exact hr
  · split
    · exact hr
    · exact hr

end Refine

theorem ReadsOnly.stream {w w' : World} (h : ReadsOnly w w') (x : String) :
    w'.events.stream x = w.events.stream x := by
  obtain ⟨_, _, rfl⟩ := h
  rfl

theorem ReadsOnly.currentVersion {w w' : World} (h : ReadsOnly w w') (x : String) :
    w'.events.currentVersion x = w.events.currentVersion x := by
  unfold EventLog.currentVersion
  rw [h.stream]

/-- A fold whose step either keeps the accumulator or takes the element ends on its start or on
an element of the list. -/
theorem foldl_eq_init_or_mem {α : Type} {f : Option α → α → Option α}
    (hf : ∀ acc x, f acc x = some x ∨ f acc x = acc) :
    ∀ (l : List α) (acc : Option α) {e : α}, l.foldl f acc = some e → acc = some e ∨ e ∈ l
  | [], _, _, h => .inl h
  | x :: l, acc, e, h => by
    rcases foldl_eq_init_or_mem hf l (f acc x) h with h' | h'
    · rcases hf acc x with hx | hx
      · rw [hx] at h'
        cases h'
        exact .inr List.mem_cons_self
      · rw [hx] at h'
        exact .inl h'
    · exact .inr (List.mem_cons_of_mem _ h')

theorem latest_mem {es : List StoredEvent} {e : StoredEvent} (h : latest es = some e) : e ∈ es := by
  unfold latest at h
  refine (foldl_eq_init_or_mem (fun acc x => ?_) es none h).resolve_left (by simp)
  -- the running candidate is either kept or replaced by the event read
  cases acc with
  | none => exact .inl rfl
  | some a =>
    by_cases hv : x.version ≥ a.version
    · exact .inl (if_pos hv)
    · exact .inr (if_neg hv)

section Tiers

variable {w : World} {sid : String} {q : Position}

/-- The snapshot tier yields only a refinement of the snapshot's checkpoint. -/
theorem fromSnapshotMeta_some {snap : Option Snapshot} {current : Nat}
    (h : ((fromSnapshotMeta sid snap current).run w).1 = some q) :
    ∃ s, snap = some s ∧ 0 < s.lastSavedVersion ∧
      ((refine sid ⟨s.lastSavedVersion, s.savedHistoryCount⟩ current).run w).1 = some q := by
  unfold fromSnapshotMeta at h
  split at h
  · rename_i s
    split at h
    · exact ⟨s, rfl, by assumption, h⟩
    · simp [fst_pure_id] at h
  · simp [fst_pure_id] at h

/-- The checkpoint tier yields only a refinement of the stream's last checkpoint. -/
theorem fromCheckpoint_some {current : Nat} (h : ((fromCheckpoint sid current).run w).1 = some q) :
    ∃ c, ((w.events.stream sid).filter (·.kind == .checkpoint)).getLast? = some c ∧
      ∃ count, c.getU64? MetaKey.savedHistoryCount = some count ∧ ∃ w', ReadsOnly w w' ∧
        ((refine sid ⟨c.version, count⟩ current).run w').1 = some q := by
  unfold fromCheckpoint at h
  simp only [StateT.run_bind, onEvents_run, bind_id] at h
  split at h
  · rename_i c heq
    split at h
    · rename_i count hc
      exact ⟨c, (lastOfKind_eq heq).symm, count, hc, _,
        ReadsOnly.of_counters (lastOfKind_counters _ _ _), h⟩
    · simp [fst_pure_id] at h
  · simp [fst_pure_id] at h

/-- The state-event tier yields only a refinement of a position one before a state event of
the saga's stream. -/
theorem fromStateEvent_some (hkeyed : w.events.Keyed) {createdAt : Instant} {current : Nat}
    (h : ((fromStateEvent sid createdAt current).run w).1 = some q) :
    ∃ change ∈ w.events.stream sid, change.kind = .stateChanged ∧ ∃ count w', ReadsOnly w w' ∧
      ((refine sid ⟨change.version - 1, count⟩ current).run w').1 = some q := by
  unfold fromStateEvent at h
  simp only [StateT.run_bind, onEvents_run, bind_id] at h
  split at h
  · rename_i changes heq
    split at h
    · rename_i change hl
      have hm := List.mem_filter.mp (latest_mem hl)
      obtain ⟨hin, hk⟩ := mem_stream_of_getEventsByKind hkeyed.1 (hkeyed.2 sid) heq hm.1
        (beq_iff_eq.mp hm.2)
      exact ⟨change, hin, hk, _, _, ReadsOnly.of_counters (getEventsByKind_counters _ _ _), h⟩
    · simp [fst_pure_id] at h
  · simp [fst_pure_id] at h

/-- A full replay yields the scan of the whole stream, and only when it ends at the
stream's version. -/
theorem fromReplay_ok {current : Nat} (h : ((fromReplay sid current).run w).1 = .ok q) :
    q = scan (w.events.stream sid) ⟨0, 0⟩ := by
  unfold fromReplay at h
  simp only [StateT.run_bind, onEvents_run, bind_id] at h
  split at h
  · simp [fst_pure_id] at h
  · rename_i events heq
    unfold getEvents at heq
    split at heq
    · cases heq
    · simp only [Except.ok.injEq] at heq
      have hall : (w.events.stream sid).filter (·.version ≥ 0) = w.events.stream sid :=
        List.filter_eq_self.mpr fun e _ => by simp
      rw [← heq, hall] at h
      split at h
      · simp [fst_pure_id] at h
      · simpa [fst_pure_id] using h.symm

end Tiers

theorem ReadsOnly.keyed {w w' : World} (h : ReadsOnly w w') (hk : w.events.Keyed) :
    w'.events.Keyed := by
  obtain ⟨_, _, rfl⟩ := h
  exact hk

theorem ReadsOnly.snapshots {w w' : World} (h : ReadsOnly w w') : w'.snapshots = w.snapshots := by
  obtain ⟨_, _, rfl⟩ := h
  rfl

section Reads

variable {w : World} {sid : String}

theorem fromSnapshotMeta_reads (snap : Option Snapshot) (current : Nat) :
    ReadsOnly w ((fromSnapshotMeta sid snap current).run w).2 := by
  unfold fromSnapshotMeta
  split
  · split
    · exact refine_reads current
    · exact .refl w
  · exact .refl w

theorem fromCheckpoint_reads (current : Nat) : ReadsOnly w ((fromCheckpoint sid current).run w).2 := by
  unfold fromCheckpoint
  simp only [StateT.run_bind, onEvents_run, bind_id]
  have hr := ReadsOnly.of_counters (lastOfKind_counters w.events sid .checkpoint)
  split
  · split
    · exact hr.trans (refine_reads current)
    · exact hr
  · exact hr

theorem fromStateEvent_reads (createdAt : Instant) (current : Nat) :
    ReadsOnly w ((fromStateEvent sid createdAt current).run w).2 := by
  unfold fromStateEvent
  simp only [StateT.run_bind, onEvents_run, bind_id]
  have hr := ReadsOnly.of_counters (getEventsByKind_counters w.events .stateChanged createdAt)
  split
  · split
    · exact hr.trans (refine_reads current)
    · exact hr
  · exact hr

theorem fromReplay_reads (current : Nat) : ReadsOnly w ((fromReplay sid current).run w).2 := by
  unfold fromReplay
  simp only [StateT.run_bind, onEvents_run, bind_id]
  have hr := ReadsOnly.of_counters (getEvents_counters w.events sid 0)
  split
  · exact hr
  · split
    · exact hr
    · exact hr

end Reads

/-- Where a snapshot's checkpoint stands against the position `p` the saves left: behind
it, or at it with the count it records. -/
def SnapshotAt (p : Position) (s : Snapshot) : Prop :=
  s.lastSavedVersion < p.version ∨
    (s.lastSavedVersion = p.version ∧ s.savedHistoryCount = p.savedCount)

theorem position_eq {p : Position} : (⟨p.version, p.savedCount⟩ : Position) = p := rfl

section Written

variable {w : World} {sid : String} {sts : List SagaState} {q : Position}
  (hw : Written sid sts (w.events.stream sid))
  (hbound : (positionAfter sts).version < StoredEvent.wordBound)

theorem currentVersion_written (hw : Written sid sts (w.events.stream sid)) :
    w.events.currentVersion sid = (positionAfter sts).version :=
  hw.length

include hw hbound

/-- On a written stream, a refined position is the known one at the stream's version, or
the position the saves left. -/
theorem refine_written {w' : World} (hr : ReadsOnly w w') {known : Position}
    (h : ((refine sid known (w.events.currentVersion sid)).run w').1 = some q) :
    (known.version = (positionAfter sts).version ∧ q = known) ∨ q = positionAfter sts := by
  rw [← hr.currentVersion] at h
  rcases refine_some (by rw [hr.stream]; exact hw.numbered) h with ⟨hv, rfl⟩ | ⟨hv, rfl⟩
  · rw [hr.currentVersion, currentVersion_written hw] at hv
    exact .inl ⟨hv, rfl⟩
  · rw [hr.currentVersion] at hv
    rw [hr.stream]
    exact .inr (hw.scan_drop hbound hv _)

theorem fromSnapshotMeta_written {snap : Option Snapshot}
    (hsnap : ∀ s, snap = some s → SnapshotAt (positionAfter sts) s)
    (h : ((fromSnapshotMeta sid snap (w.events.currentVersion sid)).run w).1 = some q) :
    q = positionAfter sts := by
  obtain ⟨s, rfl, -, hr⟩ := fromSnapshotMeta_some h
  rcases refine_written hw hbound (.refl w) hr with ⟨hv, rfl⟩ | rfl
  · rcases hsnap s rfl with hlt | ⟨-, hc⟩
    · simp only at hv; omega
    · simp only at hv
      rw [hv, hc]
  · rfl

theorem fromCheckpoint_written (h : ((fromCheckpoint sid (w.events.currentVersion sid)).run w).1 = some q) :
    q = positionAfter sts := by
  obtain ⟨c, hc, count, hcount, w', hr, hq⟩ := fromCheckpoint_some h
  rcases refine_written hw hbound hr hq with ⟨hv, rfl⟩ | rfl
  · -- the only checkpoint at the stream's version is the last save's
    have hne : sts ≠ [] := by
      rintro rfl
      have hlen : (w.events.stream sid).length = 0 := hw.length
      rw [List.length_eq_zero_iff.mp hlen] at hc
      cases hc
    obtain ⟨es', close, hes, hclose⟩ := hw.ends_in_checkpoint hne
    rw [hes, List.filter_append, List.filter_singleton, hclose.kind] at hc
    simp only [beq_self_eq_true, cond_true, List.getLast?_append, List.getLast?_singleton,
      Option.some_or, Option.some.injEq] at hc
    subst hc
    have := eq_of_getU64? hclose.count hcount
    simp only at hv
    rw [hv, this]
  · rfl

theorem fromStateEvent_written (hkeyed : w.events.Keyed) {createdAt : Instant}
    (h : ((fromStateEvent sid createdAt (w.events.currentVersion sid)).run w).1 = some q) :
    q = positionAfter sts := by
  obtain ⟨change, hin, -, count, w', hr, hq⟩ := fromStateEvent_some hkeyed h
  rcases refine_written hw hbound hr hq with ⟨hv, -⟩ | rfl
  · -- a state event lies within the stream, so the position before it is behind its end
    have hle := version_le_of_numberedFrom hw.numbered change hin
    have hpos := version_lt_of_numberedFrom hw.numbered change hin
    rw [hw.length] at hle
    simp only at hv
    omega
  · rfl

theorem fromReplay_written (h : ((fromReplay sid (w.events.currentVersion sid)).run w).1 = .ok q) :
    q = positionAfter sts := by
  rw [fromReplay_ok h]
  cases hs : w.events.stream sid with
  | nil =>
    have hlen : (positionAfter sts).version = 0 := by rw [← hw.length, hs]; rfl
    have hcount : (positionAfter sts).savedCount = 0 := by
      have := hw.savedCount_le
      omega
    rw [← position_eq (p := positionAfter sts), hlen, hcount]
    rfl
  | cons e es =>
    rw [← hs, ← List.drop_zero (l := w.events.stream sid)]
    exact hw.scan_drop hbound (by rw [hs]; simp) _

end Written

section Stripped

variable {w : World} {sid : String} {sts : List SagaState} {es : List StoredEvent} {q : Position}

/-- Once the checkpoints are removed, the checkpoint tier finds nothing. -/
theorem fromCheckpoint_stripped (hs : w.events.stream sid = stripped es) (current : Nat) :
    ((fromCheckpoint sid current).run w).1 = none := by
  cases hres : ((fromCheckpoint sid current).run w).1 with
  | none => rfl
  | some q =>
    obtain ⟨c, hc, -⟩ := fromCheckpoint_some hres
    obtain ⟨ys, hys⟩ := List.getLast?_eq_some_iff.mp hc
    have hm : c ∈ (w.events.stream sid).filter (·.kind == .checkpoint) := by simp [hys]
    rw [hs] at hm
    obtain ⟨hin, hk⟩ := List.mem_filter.mp hm
    exact absurd (beq_iff_eq.mp hk) (kind_ne_checkpoint_of_mem_stripped hin)

variable (hw : Written sid sts es) (hbound : (positionAfter sts).version < StoredEvent.wordBound)
  (hp : ∀ st ∈ sts.getLast?, ∀ e ∈ st.history.getLast?, e.status ≠ .pending)
  (hs : w.events.stream sid = stripped es)
include hw hbound hp hs

theorem fromStateEvent_stripped (hkeyed : w.events.Keyed) {createdAt : Instant}
    (h : ((fromStateEvent sid createdAt (w.events.currentVersion sid)).run w).1 = some q) :
    q = ⟨(stripped es).length, (positionAfter sts).savedCount⟩ := by
  obtain ⟨change, hin, hk, count, w', hr, hq⟩ := fromStateEvent_some hkeyed h
  rw [← hr.currentVersion] at hq
  have hnum : NumberedFrom 0 (w'.events.stream sid) := by
    rw [hr.stream, hs]; exact stripped_numbered es
  rw [hs] at hin
  rcases refine_some hnum hq with ⟨hv, -⟩ | ⟨-, rfl⟩
  · -- a state event lies within the stream, so the position before it is behind its end
    have hle := version_le_of_numberedFrom (stripped_numbered es) change hin
    have hpos := version_lt_of_numberedFrom (stripped_numbered es) change hin
    rw [hr.currentVersion] at hv
    simp only [EventLog.currentVersion, hs] at hv
    omega
  · rw [hr.stream, hs]
    have hdrop := mem_drop_version (stripped_numbered es) hin
    rw [Nat.sub_zero] at hdrop
    exact hw.scan_stripped hbound hp ⟨change, hdrop, hk⟩ _

theorem fromReplay_stripped
    (h : ((fromReplay sid (w.events.currentVersion sid)).run w).1 = .ok q) :
    q = ⟨(stripped es).length, (positionAfter sts).savedCount⟩ := by
  rw [fromReplay_ok h, hs]
  by_cases hne : sts = []
  · subst hne
    have hlen : es.length = 0 := hw.length
    rw [List.length_eq_zero_iff.mp hlen]
    rfl
  · obtain ⟨e, he, hk⟩ := hw.exists_stateEvent_stripped hne
    rw [← List.drop_zero (l := stripped es)]
    exact hw.scan_stripped hbound hp ⟨e, by simpa using he, hk⟩ _

end Stripped

end Persist

end Saga
