import Saga.Proofs.Persist.Tiers

/-!
# Saves, one after another

`Kept sid sts w` is what the saves of the states `sts` of saga `sid` leave in a world: the
log keeps its streams apart, the saga's stream is `Written` by those saves, and the
snapshot's checkpoint is behind the stream's end or at it with the count the last save
recorded (`SnapshotAt`).

`resolvePosition_ok`: on such a world, position resolution finds the position the saves
left, whichever tier answers. So the next save appends its batch right there
(`Kept.save`), and a whole run of saves, with snapshots removed or their saves failing in
between (`SaveRun`), keeps `Kept` (`SaveRun.kept`). The only assumption is the one the code
makes of its counters: versions and counts fit in 64 bits.
-/

namespace Saga

namespace SnapshotShelf

theorem get?_put (s : SnapshotShelf) (snap : Snapshot) (x : String) :
    (s.put snap).get? x = if x = snap.sagaId then some snap else s.get? x := by
  unfold put get?
  split
  · rename_i h
    by_cases hx : x = snap.sagaId
    · subst hx; rw [lookup_replace_self _ _ _ h]; simp
    · rw [lookup_replace_ne _ _ hx]; simp [hx]
  · rename_i h
    exact lookup_append_absent _ _ _ _ h

theorem get?_save (s : SnapshotShelf) (snap : Snapshot) (x : String) :
    (s.save snap).2.get? x = if s.failSaves then s.get? x else (s.put snap).get? x := by
  unfold save
  split <;> simp_all

theorem get?_failSaves (s : SnapshotShelf) (b : Bool) (x : String) :
    ({ s with failSaves := b } : SnapshotShelf).get? x = s.get? x := rfl

theorem get?_remove (s : SnapshotShelf) (x y : String) :
    (s.remove x).2.get? y = if y = x then none else s.get? y :=
  lookup_filter_ne _ _ _

end SnapshotShelf

namespace Persist

section Refreshed

variable (s : Settings) (snap : Option Snapshot) (st : SagaState) (version saved : Nat)

/-- The refreshed snapshot is the old one (or a new one) with its checkpoint moved, and with
its state taken again or not. -/
theorem refreshed_cases :
    let moved := (snap.getD (Snapshot.new st.id st.definitionName)).setCheckpoint version saved
    refreshed s snap st version saved = moved ∨
      ∃ blob completed, refreshed s snap st version saved =
        moved.setState blob version completed s.snapshots.checksum := by
  unfold refreshed
  dsimp only
  split
  · split
    · exact .inr ⟨_, _, rfl⟩
    · exact .inl rfl
  · exact .inl rfl

@[simp] theorem refreshed_lastSavedVersion :
    (refreshed s snap st version saved).lastSavedVersion = version := by
  rcases refreshed_cases s snap st version saved with h | ⟨_, _, h⟩ <;> rw [h] <;> rfl

@[simp] theorem refreshed_savedHistoryCount :
    (refreshed s snap st version saved).savedHistoryCount = saved := by
  rcases refreshed_cases s snap st version saved with h | ⟨_, _, h⟩ <;> rw [h] <;> rfl

@[simp] theorem refreshed_sagaId :
    (refreshed s snap st version saved).sagaId =
      (snap.getD (Snapshot.new st.id st.definitionName)).sagaId := by
  rcases refreshed_cases s snap st version saved with h | ⟨_, _, h⟩ <;> rw [h] <;> rfl

end Refreshed

theorem SnapshotAt.mono {p p' : Position} {s : Snapshot} (h : SnapshotAt p s) (hv : p.version < p'.version) :
    SnapshotAt p' s := by
  rcases h with h | ⟨h, -⟩ <;> exact .inl (by omega)

/-- What the saves of `sts` of saga `sid` leave in a world: a log that keeps its streams apart,
the saga's stream as the saves wrote it, and a snapshot whose checkpoint stands behind the
stream's end or at it with the count the last save recorded. -/
structure Kept (sid : String) (sts : List SagaState) (w : World) : Prop where
  keyed : w.events.Keyed
  written : Written sid sts (w.events.stream sid)
  snapshot : ∀ s, w.snapshots.get? sid = some s → SnapshotAt (positionAfter sts) s

theorem Kept.reads {sid : String} {sts : List SagaState} {w w' : World} (h : Kept sid sts w)
    (hr : ReadsOnly w w') : Kept sid sts w' where
  keyed := hr.keyed h.keyed
  written := by rw [hr.stream]; exact h.written
  snapshot := by rw [hr.snapshots]; exact h.snapshot

/-- On a world the saves of `sts` left, position resolution yields the position they left,
and only reads the log. -/
theorem resolvePosition_ok {sid : String} {sts : List SagaState} {w w' : World} {t : Instant}
    {pos : Position} (hk : Kept sid sts w) (hbound : (positionAfter sts).version < StoredEvent.wordBound)
    (h : (resolvePosition sid (w.snapshots.get? sid) t).run w = (.ok pos, w')) :
    pos = positionAfter sts ∧ ReadsOnly w w' := by
  unfold resolvePosition at h
  simp only [StateT.run_bind, StateT.run_get, bind_id, fst_pure_id, snd_pure_id, beq_iff_eq] at h
  split at h
  · -- an empty stream: nothing was saved yet
    rename_i h0
    simp only [StateT.run_pure] at h
    obtain ⟨rfl, rfl⟩ := h
    have hv : (positionAfter sts).version = 0 := by rw [← currentVersion_written hk.written, h0]
    have hc : (positionAfter sts).savedCount = 0 := by
      have := hk.written.savedCount_le
      omega
    exact ⟨by rw [← position_eq (p := positionAfter sts), hv, hc], .refl w⟩
  · -- each tier in turn: the first that yields decides, on a world that only read the log
    rcases h₁ : (fromSnapshotMeta sid (w.snapshots.get? sid) (w.events.currentVersion sid)).run w
      with ⟨o₁, w₁⟩
    have hr₁ : ReadsOnly w w₁ := by
      have := @fromSnapshotMeta_reads w sid (w.snapshots.get? sid) (w.events.currentVersion sid)
      rw [h₁] at this
      exact this
    rw [StateT.run_bind, h₁, bind_id] at h
    cases o₁ with
    | some p =>
      simp only [StateT.run_pure] at h
      obtain ⟨rfl, rfl⟩ := h
      exact ⟨fromSnapshotMeta_written hk.written hbound (fun s hs => hk.snapshot s hs) (by rw [h₁]), hr₁⟩
    | none =>
      have hk₁ := hk.reads hr₁
      rw [← hr₁.currentVersion] at h
      rcases h₂ : (fromCheckpoint sid (w₁.events.currentVersion sid)).run w₁ with ⟨o₂, w₂⟩
      have hr₂ : ReadsOnly w₁ w₂ := by
        have := @fromCheckpoint_reads w₁ sid (w₁.events.currentVersion sid)
        rw [h₂] at this
        exact this
      dsimp only at h
      rw [StateT.run_bind, h₂, bind_id] at h
      cases o₂ with
      | some p =>
        simp only [StateT.run_pure] at h
        obtain ⟨rfl, rfl⟩ := h
        exact ⟨fromCheckpoint_written hk₁.written hbound (by rw [h₂]), hr₁.trans hr₂⟩
      | none =>
        have hk₂ := hk₁.reads hr₂
        rw [← hr₂.currentVersion] at h
        rcases h₃ : (fromStateEvent sid t (w₂.events.currentVersion sid)).run w₂ with ⟨o₃, w₃⟩
        have hr₃ : ReadsOnly w₂ w₃ := by
          have := @fromStateEvent_reads w₂ sid t (w₂.events.currentVersion sid)
          rw [h₃] at this
          exact this
        dsimp only at h
        rw [StateT.run_bind, h₃, bind_id] at h
        cases o₃ with
        | some p =>
          simp only [StateT.run_pure] at h
          obtain ⟨rfl, rfl⟩ := h
          exact ⟨fromStateEvent_written hk₂.written hbound hk₂.keyed (by rw [h₃]),
            (hr₁.trans hr₂).trans hr₃⟩
        | none =>
          have hk₃ := hk₂.reads hr₃
          rw [← hr₃.currentVersion] at h
          dsimp only at h
          have hr₄ : ReadsOnly w₃ w' := by
            have := @fromReplay_reads w₃ sid (w₃.events.currentVersion sid)
            rw [h] at this
            exact this
          exact ⟨fromReplay_written hk₃.written hbound (by rw [h]), ((hr₁.trans hr₂).trans hr₃).trans hr₄⟩

/-- What one successful save does on a world the saves of `sts` left: it appends its batch
where they left the stream, keeps the log's streams apart, and offers the snapshot store the
refreshed snapshot at the new position. -/
theorem Kept.save_spec {sid : String} {sts : List SagaState} {w w' : World} {s : Settings}
    {st : SagaState} (hk : Kept sid sts w) (hid : st.id = sid)
    (hbound : (positionAfter (sts ++ [st])).version < StoredEvent.wordBound)
    (h : (Persist.save s st).run w = (.ok (), w')) :
    (positionAfter sts).savedCount ≤ st.history.length ∧
      ∃ b, BatchOf st (positionAfter sts) b ∧ w'.events.Keyed ∧
        w'.events.stream sid = w.events.stream sid ++ b ∧
        w'.snapshots = (w.snapshots.save (refreshed s (w.snapshots.get? sid) st
          (positionAfter (sts ++ [st])).version (positionAfter (sts ++ [st])).savedCount)).2 := by
  subst hid
  have hbound₀ : (positionAfter sts).version < StoredEvent.wordBound :=
    Nat.lt_trans positionAfter_version_lt hbound
  unfold Persist.save at h
  simp only [StateT.run_bind, StateT.run_get, bind_id, fst_pure_id, snd_pure_id] at h
  rcases hres : (resolvePosition st.id (w.snapshots.get? st.id) st.createdAt).run w with ⟨r, w₁⟩
  rw [hres] at h
  cases r with
  | error e => cases congrArg Prod.fst h
  | ok pos =>
    obtain ⟨rfl, hr₁⟩ := resolvePosition_ok hk hbound₀ hres
    dsimp only at h
    have hc : ¬ (positionAfter sts).savedCount > st.history.length := by
      intro hc
      rw [if_pos hc] at h
      cases congrArg Prod.fst h
    rw [if_neg hc, StateT.run_bind] at h
    rcases h₂ : (stateChanged st (positionAfter sts)).run w₁ with ⟨head, w₂⟩
    have hhead : StateEventOf st (positionAfter sts) head := by
      have := stateChanged_spec st (positionAfter sts) w₁
      rw [h₂] at this
      exact this
    have ha₂ : AmbientOnly w₁ w₂ := by
      have := stateChanged_ambient st (positionAfter sts) w₁
      rw [h₂] at this
      exact this
    rw [h₂, bind_id, StateT.run_bind] at h
    dsimp only at h
    rcases h₃ : (List.mapM (stepEvent st.id)
      (List.drop (positionAfter sts).savedCount st.history)).run w₂ with ⟨steps, w₃⟩
    have hsteps := stepEvents_spec st.id (List.drop (positionAfter sts).savedCount st.history) w₂
    rw [h₃] at hsteps
    have ha₃ := stepEvents_ambient st.id (List.drop (positionAfter sts).savedCount st.history) w₂
    rw [h₃] at ha₃
    rw [h₃, bind_id, StateT.run_bind] at h
    dsimp only at h
    rcases h₄ : (checkpoint st.id
      ((positionAfter sts).version + (1 + (List.drop (positionAfter sts).savedCount st.history).length) + 1)
      ((settledLength st.history).max (positionAfter sts).savedCount)).run w₃ with ⟨close, w₄⟩
    have hclose := checkpoint_spec st.id
      ((positionAfter sts).version + (1 + (List.drop (positionAfter sts).savedCount st.history).length) + 1)
      ((settledLength st.history).max (positionAfter sts).savedCount) w₃
    rw [h₄] at hclose
    have ha₄ := checkpoint_ambient st.id
      ((positionAfter sts).version + (1 + (List.drop (positionAfter sts).savedCount st.history).length) + 1)
      ((settledLength st.history).max (positionAfter sts).savedCount) w₃
    rw [h₄] at ha₄
    rw [h₄, bind_id, StateT.run_bind, onEvents_run, bind_id] at h
    dsimp only at hsteps ha₃ hclose ha₄ h
    rw [checkpoint_position] at hclose
    -- the append finds the stream where the saves left it
    have ha : AmbientOnly w₁ w₄ := ha₂.trans (ha₃.trans ha₄)
    have hstream : w₄.events.stream st.id = w.events.stream st.id := by
      rw [ha.events, hr₁.stream]
    have hlen : (positionAfter sts).version = (w₄.events.stream st.id).length := by
      rw [hstream, hk.written.length]
    have hown : ∀ e ∈ head :: steps ++ [close], e.stream = st.id := by
      intro e he
      simp only [List.cons_append, List.mem_cons, List.mem_append, List.not_mem_nil, or_false] at he
      rcases he with rfl | he | rfl
      · exact hhead.stream
      · obtain ⟨_, _, hs⟩ := forall₂_mem_right hsteps he
        exact hs.stream
      · exact hclose.stream
    rw [hlen, EventLog.append_ok _ _ _ hown] at h
    simp only [refreshSnapshot, StateT.run_bind, StateT.run_modify, bind_id, StateT.run_pure] at h
    have hw' := congrArg Prod.snd h
    simp only [snd_pure_id] at hw'
    subst hw'
    have hk₄ : w₄.events.Keyed := by
      rw [ha.events]
      exact hr₁.keyed hk.keyed
    rw [hstream, hk.written.length]
    have hbatch := batchOf_stamp hhead hsteps hclose
    have hlen' := hbatch.length
    rw [EventLog.length_stamp] at hlen'
    refine ⟨Nat.le_of_not_gt hc, _, hbatch, ?_, by simp [EventLog.stream_setStream_self], ?_⟩
    · -- the log still keeps its streams apart
      refine (hk₄.setStream (hk.keyed.stream st.id)).setStream fun e he => ?_
      rcases List.mem_append.mp he with he | he
      · exact hk.keyed.stream st.id e he
      · exact EventLog.stream_of_mem_stamp hown e he
    · have hsn : w₄.snapshots = w.snapshots := by rw [ha.snapshots, hr₁.snapshots]
      dsimp only
      rw [hsn, hlen', positionAfter_append]
      rfl

/-- One successful save of a state of saga `sid` appends the batch that state's save writes,
from where the saves before it left the stream, and moves the snapshot's checkpoint to the
new end or leaves it behind. -/
theorem Kept.save {sid : String} {sts : List SagaState} {w w' : World} {s : Settings}
    {st : SagaState} (hk : Kept sid sts w) (hid : st.id = sid)
    (hbound : (positionAfter (sts ++ [st])).version < StoredEvent.wordBound)
    (h : (Persist.save s st).run w = (.ok (), w')) : Kept sid (sts ++ [st]) w' := by
  obtain ⟨hc, b, hbatch, hkeyed, hstream, hsnap⟩ := hk.save_spec hid hbound h
  refine ⟨hkeyed, by rw [hstream]; exact hk.written.save hid hc hbatch, fun s' hs' => ?_⟩
  -- the snapshot is the refreshed one at the new end of the stream, or an older one behind it
  have hnext : (positionAfter sts).version < (positionAfter (sts ++ [st])).version :=
    positionAfter_version_lt
  rw [hsnap, SnapshotShelf.get?_save] at hs'
  split at hs'
  · exact (hk.snapshot s' hs').mono hnext
  · rw [SnapshotShelf.get?_put] at hs'
    split at hs'
    · cases hs'
      exact .inr ⟨refreshed_lastSavedVersion .., refreshed_savedHistoryCount ..⟩
    · exact (hk.snapshot s' hs').mono hnext

/-- The worlds that saves of saga `sid` lead to from `w₀`, with the states saved: each step is
a successful save of one of its states, under any settings, or a change elsewhere that
leaves the saga's stream as it is, keeps the log's streams apart, and keeps or removes the
saga's snapshot (a snapshot removed, snapshot saves switched off, other sagas saved). -/
inductive SaveRun (sid : String) (w₀ : World) : List SagaState → World → Prop
  | start : SaveRun sid w₀ [] w₀
  | save {sts : List SagaState} {w w' : World} (s : Settings) (st : SagaState) :
      SaveRun sid w₀ sts w → st.id = sid → (Persist.save s st).run w = (.ok (), w') →
      SaveRun sid w₀ (sts ++ [st]) w'
  | frame {sts : List SagaState} {w w' : World} : SaveRun sid w₀ sts w → w'.events.Keyed →
      w'.events.stream sid = w.events.stream sid →
      (w'.snapshots.get? sid = w.snapshots.get? sid ∨ w'.snapshots.get? sid = none) →
      SaveRun sid w₀ sts w'

theorem Kept.start {sid : String} {w : World} (hkeyed : w.events.Keyed)
    (hempty : w.events.stream sid = []) (hnone : w.snapshots.get? sid = none) : Kept sid [] w where
  keyed := hkeyed
  written := hempty ▸ .nil
  snapshot := by simp [hnone]

/-- Every world a run of saves reaches from a fresh saga keeps what the saves wrote, as long as
the stream's versions fit in a 64-bit word. -/
theorem SaveRun.kept {sid : String} {w₀ w : World} {sts : List SagaState} (run : SaveRun sid w₀ sts w)
    (h₀ : Kept sid [] w₀) (hbound : (positionAfter sts).version < StoredEvent.wordBound) :
    Kept sid sts w := by
  induction run with
  | start => exact h₀
  | save s st _ hid hsave ih =>
    exact (ih (Nat.lt_trans positionAfter_version_lt hbound)).save hid hbound hsave
  | frame _ hkeyed hstream hsnap ih =>
    have hk := ih hbound
    refine ⟨hkeyed, by rw [hstream]; exact hk.written, fun s hs => ?_⟩
    rcases hsnap with h | h
    · exact hk.snapshot s (h ▸ hs)
    · rw [h] at hs; cases hs

end Persist

end Saga
