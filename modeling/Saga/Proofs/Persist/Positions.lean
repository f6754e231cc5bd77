import Saga.Proofs.Persist.Save

/-!
# Every tier finds the same position

On a stream that successful saves wrote, the four tiers of position resolution agree: each
that yields a position yields the stream's version and the count the last save recorded,
`max (settledLength history) previous` (`saved_positions_agree`). The stream itself is
numbered `1, …, n`, each state event records the version before it and each checkpoint its
own version.

Once the checkpoints are stripped and the rest numbered again, the checkpoint tier finds
nothing, and the state-event tier and the replay still agree, unless the last save's
history ends in a pending entry: a save writes it as a started step, which a scan does not
count, while `settledLength` does. The snapshot tier is left out there: its checkpoint
counts the versions before stripping, and can point into the middle of the last batch.
Both failures are shown on concrete runs (`stripped_positions_disagree`).
-/

namespace Saga

namespace Persist

/-- A stream numbered `1, …, n` whose state events record the version before them and whose
checkpoints record their own. -/
structure StreamShape (es : List StoredEvent) : Prop where
  versions : es.map (·.version) = List.range' 1 es.length
  stateEvents : ∀ e ∈ es, e.kind = .stateChanged →
    e.get? MetaKey.lastSavedVersion = some (.ofNat (e.version - 1))
  checkpoints : ∀ e ∈ es, e.kind = .checkpoint →
    e.get? MetaKey.lastSavedVersion = some (.ofNat e.version)

/-- The checkpoint, state-event and replay tiers, run on world `w` for saga `sid` at its
stream's version, yield no position but `p`. -/
structure TiersAgree (sid : String) (w : World) (p : Position) : Prop where
  checkpoint : ∀ q, ((fromCheckpoint sid (w.events.currentVersion sid)).run w).1 = some q → q = p
  stateEvent : ∀ createdAt q,
    ((fromStateEvent sid createdAt (w.events.currentVersion sid)).run w).1 = some q → q = p
  replay : ∀ q, ((fromReplay sid (w.events.currentVersion sid)).run w).1 = .ok q → q = p

theorem stripped_tiersAgree {sid : String} {sts : List SagaState} {w : World}
    (hk : Kept sid sts w) (hbound : (positionAfter sts).version < StoredEvent.wordBound)
    (hp : ∀ st ∈ sts.getLast?, ∀ e ∈ st.history.getLast?, e.status ≠ .pending) :
    TiersAgree sid ({ w with events := w.events.strip sid .checkpoint } : World)
      ⟨({ w with events := w.events.strip sid .checkpoint } : World).events.currentVersion sid, (positionAfter sts).savedCount⟩ := by
  have hs : ({ w with events := w.events.strip sid .checkpoint } : World).events.stream sid = stripped (w.events.stream sid) :=
    EventLog.stream_strip _ _ _
  have hkeyed : ({ w with events := w.events.strip sid .checkpoint } : World).events.Keyed := hk.keyed.strip sid .checkpoint
  have hn : ({ w with events := w.events.strip sid .checkpoint } : World).events.currentVersion sid = (stripped (w.events.stream sid)).length := by
    unfold EventLog.currentVersion
    rw [hs]
  refine ⟨fun q h => ?_, fun t q h => ?_, fun q h => ?_⟩
  · rw [fromCheckpoint_stripped hs] at h
    cases h
  · rw [hn]
    exact fromStateEvent_stripped hk.written hbound hp hs hkeyed h
  · rw [hn]
    exact fromReplay_stripped hk.written hbound hp hs h

/-- Saves of a fresh saga, with snapshots removed or their saves failing in between, leave
a well-numbered stream on which every tier of position resolution yields the position the
last save recorded; after the checkpoints are stripped, the checkpoint tier yields nothing
and the state-event and replay tiers still agree, unless the last history ends in a pending
entry. Versions are assumed to fit in 64 bits, as the metadata reader requires. -/
theorem saved_positions_agree {sid : String} {w₀ w : World} {sts : List SagaState}
    (run : SaveRun sid w₀ sts w) (hkeyed : w₀.events.Keyed) (hempty : w₀.events.stream sid = [])
    (hnone : w₀.snapshots.get? sid = none)
    (hbound : (positionAfter sts).version < StoredEvent.wordBound) :
    StreamShape (w.events.stream sid) ∧
      (positionAfter sts).version = w.events.currentVersion sid ∧
      (∀ q, ((fromSnapshotMeta sid (w.snapshots.get? sid) (w.events.currentVersion sid)).run w).1 =
        some q → q = positionAfter sts) ∧
      TiersAgree sid w (positionAfter sts) ∧
      ((∀ st ∈ sts.getLast?, ∀ e ∈ st.history.getLast?, e.status ≠ .pending) →
        TiersAgree sid ({ w with events := w.events.strip sid .checkpoint } : World)
          ⟨({ w with events := w.events.strip sid .checkpoint } : World).events.currentVersion sid, (positionAfter sts).savedCount⟩) := by
  have hk := run.kept (Kept.start hkeyed hempty hnone) hbound
  have hw := hk.written
  refine ⟨⟨?_, hw.stateEvent_last, hw.checkpoint_last⟩, (currentVersion_written hw).symm,
    fun q h => fromSnapshotMeta_written hw hbound hk.snapshot h,
    ⟨fun q h => fromCheckpoint_written hw hbound h,
      fun t q h => fromStateEvent_written hw hbound hk.keyed h,
      fun q h => fromReplay_written hw hbound h⟩,
    stripped_tiersAgree hk hbound⟩
  exact EventLog.numberedFrom_iff_versions.mp hw.numbered

/-- Midnight, 1 January 2024. -/
def sampleStart : Instant := ⟨1704067200, 0⟩

/-- A history entry of the sample saga. -/
def sampleEntry (name : String) (status : StepStatus) : HistoryEntry :=
  HistoryEntry.new name status sampleStart

/-- The sample saga, running, with the given history. -/
def sampleSaga (history : List HistoryEntry) : SagaState :=
  { id := "saga-1", definitionName := "order", status := .running, currentStep := 0, context := [],
    history, createdAt := sampleStart, startedAt := some sampleStart, completedAt := none }

/-- A world with an empty log and no snapshots, its clock at `sampleStart`. -/
def sampleWorld : World := { ambient := Ambient.beginAt sampleStart }

theorem keyed_sampleWorld : sampleWorld.events.Keyed := by
  refine ⟨fun x evs h => ?_, fun x evs h => ?_⟩ <;> cases h

theorem save_run_ok {s : Settings} {st : SagaState} {w : World}
    (h : ((Persist.save s st).run w).1.toBool = true) :
    (Persist.save s st).run w = (.ok (), ((Persist.save s st).run w).2) := by
  revert h
  cases (Persist.save s st).run w with
  | mk r w' =>
    cases r with
    | error e => simp [Except.toBool]
    | ok u => intro; rfl

theorem one_save_positions_agree :
    let st := sampleSaga [sampleEntry "a" .completed]
    let w := ((Persist.save {} st).run sampleWorld).2
    StreamShape (w.events.stream "saga-1") ∧
      (positionAfter [st]).version = w.events.currentVersion "saga-1" ∧
      (∀ q, ((fromSnapshotMeta "saga-1" (w.snapshots.get? "saga-1")
        (w.events.currentVersion "saga-1")).run w).1 = some q → q = positionAfter [st]) ∧
      TiersAgree "saga-1" w (positionAfter [st]) ∧
      ((∀ st' ∈ [st].getLast?, ∀ e ∈ st'.history.getLast?, e.status ≠ .pending) →
        TiersAgree "saga-1" ({ w with events := w.events.strip "saga-1" .checkpoint } : World)
          ⟨({ w with events := w.events.strip "saga-1" .checkpoint } : World).events.currentVersion
            "saga-1", (positionAfter [st]).savedCount⟩) :=
  saved_positions_agree
    (.save {} _ .start rfl (save_run_ok (by decide +kernel)))
    keyed_sampleWorld rfl rfl (by decide)

theorem eq_some_of_pair {o : Option Position} {v c : Nat}
    (h : o.map (fun q => (q.version, q.savedCount)) = some (v, c)) : o = some ⟨v, c⟩ := by
  cases o with
  | none => cases h
  | some q =>
    simp only [Option.map_some, Option.some.injEq, Prod.mk.injEq] at h
    rw [← h.1, ← h.2]

/-- The claim fails on stripped streams in two ways. A history ending in a pending entry: the
state-event tier yields one entry less than the save recorded. A snapshot left behind while
snapshot saves failed: its checkpoint, counted before stripping, points at the last step
event, and the snapshot tier counts from there. -/
theorem stripped_positions_disagree :
    (let st := sampleSaga [sampleEntry "a" .completed, sampleEntry "b" .pending]
     let w := ((Persist.save {} st).run sampleWorld).2
     let ws : World := { w with events := w.events.strip "saga-1" .checkpoint }
     SaveRun "saga-1" sampleWorld [st] w ∧ ws.events.currentVersion "saga-1" = 3 ∧
       (positionAfter [st]).savedCount = 2 ∧
       ((fromStateEvent "saga-1" sampleStart 3).run ws).1 = some ⟨3, 1⟩) ∧
    (let st₁ := sampleSaga []
     let st₂ := sampleSaga [sampleEntry "a" .completed]
     let st₃ := sampleSaga [sampleEntry "a" .completed, sampleEntry "b" .completed,
       sampleEntry "c" .completed]
     let w₁ := ((Persist.save {} st₁).run sampleWorld).2
     let w₂ := ((Persist.save {} st₂).run w₁).2
     let w₂' : World := { w₂ with snapshots := { w₂.snapshots with failSaves := true } }
     let w₃ := ((Persist.save {} st₃).run w₂').2
     let ws : World := { w₃ with events := w₃.events.strip "saga-1" .checkpoint }
     SaveRun "saga-1" sampleWorld [st₁, st₂, st₃] w₃ ∧ ws.events.currentVersion "saga-1" = 6 ∧
       (positionAfter [st₁, st₂, st₃]).savedCount = 3 ∧
       ((fromSnapshotMeta "saga-1" (ws.snapshots.get? "saga-1") 6).run ws).1 = some ⟨6, 2⟩) := by
  constructor
  · intro st w ws
    exact ⟨.save {} st .start rfl (save_run_ok (by decide +kernel)), by decide +kernel, by decide,
      eq_some_of_pair (by decide +kernel)⟩
  · intro st₁ st₂ st₃ w₁ w₂ w₂' w₃ ws
    have run₂ : SaveRun "saga-1" sampleWorld [st₁, st₂] w₂ :=
      @SaveRun.save _ _ [st₁] w₁ w₂ {} st₂ (.save {} st₁ .start rfl (save_run_ok (by decide +kernel)))
        rfl (save_run_ok (by decide +kernel))
    have hk₂ := run₂.kept (Kept.start keyed_sampleWorld rfl rfl) (by decide)
    -- snapshot saves are switched off before the third save
    have run₂' : SaveRun "saga-1" sampleWorld [st₁, st₂] w₂' :=
      .frame run₂ hk₂.keyed rfl (.inl (SnapshotShelf.get?_failSaves _ _ _))
    exact ⟨@SaveRun.save _ _ [st₁, st₂] w₂' w₃ {} st₃ run₂' rfl (save_run_ok (by decide +kernel)),
      by decide +kernel, by decide, eq_some_of_pair (by decide +kernel)⟩

end Persist

end Saga
