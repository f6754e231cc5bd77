import Saga.Proofs.Persist.Load

/-!
# Reading one event back

The events a save writes are also what external readers of a stream see, so each one is read
back, on its own, as the data it was written from. A step event of a history entry whose
instants are regular (`HistoryEntry.Replayable`) is read back by a replay as that entry, field
by field: it goes to the end of the history when no entry has its step name and start time, and
otherwise takes the place of the last entry that has them, the rest of the replay unchanged. A
state event of a state with regular instants and a current step that fits 64 bits
(`SagaState.HeaderReplayable`) sets the replay's status, current step, context, definition
name, creation and finish times to the state's, and its start time when the state has one,
keeping the replay's own otherwise; a scan that ends at the event, wherever the store put it and
whatever came before it, is at the count the save recorded (`replay_applies_saved_events`).
-/

namespace Saga

namespace Persist

open Replay

/-- A scan that ends at a state event is at that event's version and the count it records,
whatever came before it. -/
theorem scan_stateEvent {st : SagaState} {pos : Position} {e : StoredEvent} (he : StateEventOf st pos e)
    (hcount : pos.savedCount < StoredEvent.wordBound) (es : List StoredEvent) (p : Position) :
    scan (es ++ [e]) p = ⟨e.version, pos.savedCount⟩ :=
  scan_of_getLast List.getLast?_concat (by rw [he.kind]; rfl) (getU64?_of_get? he.count hcount) p

/-- The step event of a history entry, replayed, puts the entry back into the history, and
the state event of a save sets the saved state's fields and the position's count. -/
theorem replay_applies_saved_events (id : String) (entry : HistoryEntry) (st : SagaState) (pos : Position)
    (w : World) (r : Replay) (hentry : entry.Replayable) (hst : st.HeaderReplayable)
    (hcount : pos.savedCount < StoredEvent.wordBound) :
    ((∀ x ∈ r.history, x.key ≠ entry.key) →
      r.apply ((stepEvent id entry).run w).1 = .ok { r with history := r.history ++ [entry] }) ∧
    (∀ pre x post, r.history = pre ++ x :: post → x.key = entry.key → (∀ y ∈ post, y.key ≠ entry.key) →
      r.apply ((stepEvent id entry).run w).1 = .ok { r with history := pre ++ entry :: post }) ∧
    r.apply ((stateChanged st pos).run w).1 =
      .ok { r with status := some st.status, currentStep := st.currentStep, context := st.context,
                   definitionName := some st.definitionName, createdAt := some st.createdAt,
                   startedAt := st.startedAt.orElse fun _ => r.startedAt, completedAt := st.completedAt } ∧
    ∀ es v p, scan (es ++ [{ ((stateChanged st pos).run w).1 with version := v }]) p = ⟨v, pos.savedCount⟩ := by
  have hstep := stepEvent_spec id entry w
  have hstate := stateChanged_spec st pos w
  -- both step cases read the entry back whole; they differ only in where `upsert` puts it
  have hread : r.apply ((stepEvent id entry).run w).1 = .ok { r with history := upsert entry r.history } := by
    rw [apply_stepEvent r hstep, applyStep_stepEvent r hstep hentry]
  refine ⟨fun hfresh => ?_, fun pre x post hsplit hx hpost => ?_, ?_, fun es v p => ?_⟩
  · rw [hread, upsert_fresh hfresh]
  · rw [hread, hsplit, upsert_in_place hx hpost pre]
  · rw [apply_stateEvent r hstate, applyState_stateEvent r hstate hst]
    rfl
  · exact scan_stateEvent (hstate.renumber v) hcount es p

/-- A completed entry and the running sample saga, read back into an empty replay. -/
theorem replay_applies_sample_events :
    (sampleEntry "a" .completed).Replayable ∧ (sampleSaga []).HeaderReplayable ∧
      (⟨0, 0⟩ : Position).savedCount < StoredEvent.wordBound ∧
    ((∀ x ∈ (default : Replay).history, x.key ≠ (sampleEntry "a" .completed).key) →
      (default : Replay).apply ((stepEvent "saga-1" (sampleEntry "a" .completed)).run sampleWorld).1 =
        .ok { (default : Replay) with history := (default : Replay).history ++ [sampleEntry "a" .completed] }) ∧
    (∀ pre x post, (default : Replay).history = pre ++ x :: post → x.key = (sampleEntry "a" .completed).key →
      (∀ y ∈ post, y.key ≠ (sampleEntry "a" .completed).key) →
      (default : Replay).apply ((stepEvent "saga-1" (sampleEntry "a" .completed)).run sampleWorld).1 =
        .ok { (default : Replay) with history := pre ++ sampleEntry "a" .completed :: post }) ∧
    (default : Replay).apply ((stateChanged (sampleSaga []) ⟨0, 0⟩).run sampleWorld).1 =
      .ok { (default : Replay) with
              status := some (sampleSaga []).status, currentStep := (sampleSaga []).currentStep,
              context := (sampleSaga []).context, definitionName := some (sampleSaga []).definitionName,
              createdAt := some (sampleSaga []).createdAt,
              startedAt := (sampleSaga []).startedAt.orElse fun _ => (default : Replay).startedAt,
              completedAt := (sampleSaga []).completedAt } ∧
    ∀ es v p, scan (es ++ [{ ((stateChanged (sampleSaga []) ⟨0, 0⟩).run sampleWorld).1 with version := v }]) p =
      ⟨v, (⟨0, 0⟩ : Position).savedCount⟩ :=
  have hentry := sampleEntry_replayable "a" .completed
  have hst : (sampleSaga []).HeaderReplayable :=
    (sampleSaga_replayable (List.forall_mem_nil _) List.nodup_nil).header
  have hcount : (⟨0, 0⟩ : Position).savedCount < StoredEvent.wordBound := by decide
  ⟨hentry, hst, hcount,
    replay_applies_saved_events "saga-1" _ _ ⟨0, 0⟩ sampleWorld default hentry hst hcount⟩

end Persist

end Saga
