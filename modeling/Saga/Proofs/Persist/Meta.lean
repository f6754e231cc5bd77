import Saga.Persist.Store
import Mathlib.Data.List.Forall2

/-!
# What a save writes into each event

The metadata of a stored event is a key-sorted map, and `StoredEvent.put` inserts into it:
reading a key back gives the value put last under it, other keys are untouched
(`StoredEvent.get?_put`). On top of that, each kind of event a save writes is described by
what its metadata holds:

* `StateEventOf`: the state event of a save of a state from a stream position;
* `StepEventOf`: the step event of a history entry;
* `CheckpointOf`: the checkpoint closing a batch.

`stateChanged_spec`, `stepEvent_spec`, `stepEvents_spec` and `checkpoint_spec` say that the
event builders of `Persist.Stream` make exactly such events, whatever world they draw
identifiers and clock readings from, and that building them changes nothing else
(`AmbientOnly`). None of these descriptions mentions an event's version, which the store
assigns when it appends the event.
-/

namespace Saga

theorem lookup_cons_ite {β : Type} (j k : String) (v : β) (ms : List (String × β)) :
    ((k, v) :: ms).lookup j = if j = k then some v else ms.lookup j := by
  rw [List.lookup_cons]
  cases h : j == k with
  | true => simp [beq_iff_eq.mp h]
  | false => simp [ne_of_beq_false h]

namespace Json

theorem lookup_insertMember (j k : String) (v : Json) (ms : List (String × Json)) :
    (insertMember k v ms).lookup j = if j = k then some v else ms.lookup j := by
  induction ms with
  | nil => simp [insertMember, lookup_cons_ite]
  | cons m rest ih =>
    obtain ⟨k', v'⟩ := m
    simp only [insertMember]
    by_cases hk : k = k'
    · subst hk
      by_cases hj : j = k <;> simp [lookup_cons_ite, hj]
    · by_cases hlt : k < k'
      · by_cases hj : j = k <;> simp [lookup_cons_ite, hj, hk, hlt]
      · by_cases hj' : j = k'
        · subst hj'
          simp [hk, hlt, Ne.symm hk]
        · simp [lookup_cons_ite, hk, hlt, hj', ih]

end Json

namespace StoredEvent

@[simp] theorem get?_put (e : StoredEvent) (j k : String) (v : Json) :
    (e.put k v).get? j = if j = k then some v else e.get? j := by
  simp [get?, put, Json.lookup_insertMember]

@[simp] theorem get?_mk_nil (id stream : String) (version : Nat) (kind : EventKind) (t : Instant)
    (k : String) : (StoredEvent.mk id stream version kind [] t).get? k = none := rfl

@[simp] theorem put_kind (e : StoredEvent) (k : String) (v : Json) : (e.put k v).kind = e.kind := rfl

@[simp] theorem put_stream (e : StoredEvent) (k : String) (v : Json) :
    (e.put k v).stream = e.stream := rfl

@[simp] theorem put_version (e : StoredEvent) (k : String) (v : Json) :
    (e.put k v).version = e.version := rfl

end StoredEvent

end Saga

namespace Saga

namespace Persist

open StoredEvent

/-- The state event of a save of `st` from position `pos`, by what it carries. -/
structure StateEventOf (st : SagaState) (pos : Position) (e : StoredEvent) : Prop where
  kind : e.kind = .stateChanged
  stream : e.stream = st.id
  status : e.get? MetaKey.status = some (.str st.status.name)
  step : e.get? MetaKey.step = some (.ofNat st.currentStep)
  context : e.get? MetaKey.context = some (.obj st.context)
  name : e.get? MetaKey.definitionName = some (.str st.definitionName)
  count : e.get? MetaKey.savedHistoryCount = some (.ofNat pos.savedCount)
  last : e.get? MetaKey.lastSavedVersion = some (.ofNat pos.version)
  created : e.get? MetaKey.sagaCreatedAt = some (.str st.createdAt.writeNanos)
  started : e.get? MetaKey.sagaStartedAt = st.startedAt.map fun t => .str t.writeNanos
  completed : e.get? MetaKey.sagaCompletedAt = st.completedAt.map fun t => .str t.writeNanos

/-- The step event of a history entry, by what it carries. -/
structure StepEventOf (id : String) (entry : HistoryEntry) (e : StoredEvent) : Prop where
  kind : e.kind = stepKind entry.status
  stream : e.stream = id
  name : e.get? MetaKey.stepName = some (.str entry.stepName)
  status : e.get? MetaKey.stepStatus = some (.str entry.status.name)
  started : e.get? MetaKey.startedAt = some (.str entry.startedAt.writeNanos)
  attempt : e.get? MetaKey.retryAttempt = some (.ofNat entry.retryAttempt)
  completed : e.get? MetaKey.completedAt = entry.completedAt.map fun t => .str t.writeNanos
  errorMessage : e.get? MetaKey.errorMessage = entry.error.map .str
  error : e.get? MetaKey.error = entry.error.map .str

/-- The checkpoint closing a batch at position `p`, by what it carries. -/
structure CheckpointOf (id : String) (p : Position) (e : StoredEvent) : Prop where
  kind : e.kind = .checkpoint
  stream : e.stream = id
  last : e.get? MetaKey.lastSavedVersion = some (.ofNat p.version)
  count : e.get? MetaKey.savedHistoryCount = some (.ofNat p.savedCount)

theorem fst_pure_id {α β : Type} (a : α) (b : β) : (pure (a, b) : Id (α × β)).1 = a := rfl

theorem snd_pure_id {α β : Type} (a : α) (b : β) : (pure (a, b) : Id (α × β)).2 = b := rfl

theorem stateChanged_spec (st : SagaState) (pos : Position) (w : World) :
    StateEventOf st pos ((stateChanged st pos).run w).1 := by
  rcases st with ⟨id, name, status, step, ctx, hist, created, _ | started, _ | completed⟩ <;>
    constructor <;>
    simp [stateChanged, newEvent, putTime, MetaKey.status, MetaKey.step, MetaKey.context,
      MetaKey.definitionName, MetaKey.savedHistoryCount, MetaKey.lastSavedVersion,
      MetaKey.sagaCreatedAt, MetaKey.sagaStartedAt, MetaKey.sagaCompletedAt, fst_pure_id]

theorem stepEvent_spec (id : String) (entry : HistoryEntry) (w : World) :
    StepEventOf id entry ((stepEvent id entry).run w).1 := by
  rcases entry with ⟨name, status, started, _ | completed, _ | error, attempt⟩ <;>
    constructor <;>
    simp [stepEvent, newEvent, putTime, entryDuration, MetaKey.stepName, MetaKey.stepStatus,
      MetaKey.startedAt, MetaKey.retryAttempt, MetaKey.completedAt, MetaKey.durationMs,
      MetaKey.errorMessage, MetaKey.error, fst_pure_id] <;>
    split <;> simp

theorem checkpoint_spec (id : String) (version count : Nat) (w : World) :
    CheckpointOf id ⟨version, count⟩ ((checkpoint id version count).run w).1 := by
  constructor <;>
    simp [checkpoint, newEvent, MetaKey.lastSavedVersion, MetaKey.savedHistoryCount, fst_pure_id]

theorem stepEvents_spec (id : String) (entries : List HistoryEntry) (w : World) :
    List.Forall₂ (StepEventOf id) entries ((entries.mapM (stepEvent id)).run w).1 := by
  induction entries generalizing w with
  | nil => exact .nil
  | cons entry rest ih =>
    simp only [List.mapM_cons, StateT.run_bind, StateT.run_pure]
    exact .cons (stepEvent_spec id entry w) (ih _)

/-- `w'` differs from `w` at most in its ambient clock and identifiers. -/
def AmbientOnly (w w' : World) : Prop := w' = { w with ambient := w'.ambient }

theorem AmbientOnly.refl (w : World) : AmbientOnly w w := rfl

theorem AmbientOnly.trans {w₁ w₂ w₃ : World} (h₁ : AmbientOnly w₁ w₂) (h₂ : AmbientOnly w₂ w₃) :
    AmbientOnly w₁ w₃ := by
  unfold AmbientOnly at *
  rw [h₂, h₁]

theorem newEvent_ambient (id : String) (k : EventKind) (w : World) :
    AmbientOnly w ((newEvent id k).run w).2 := rfl

theorem AmbientOnly.events {w w' : World} (h : AmbientOnly w w') : w'.events = w.events := by
  rw [h]

theorem AmbientOnly.snapshots {w w' : World} (h : AmbientOnly w w') : w'.snapshots = w.snapshots := by
  rw [h]

theorem stateChanged_ambient (st : SagaState) (pos : Position) (w : World) :
    AmbientOnly w ((stateChanged st pos).run w).2 := rfl

theorem stepEvent_ambient (id : String) (entry : HistoryEntry) (w : World) :
    AmbientOnly w ((stepEvent id entry).run w).2 := by
  unfold stepEvent
  rw [StateT.run_bind]
  -- the world is the one the fresh event left; naming it keeps the metadata unevaluated
  rcases hn : (newEvent id (stepKind entry.status)).run w with ⟨e, w₁⟩
  have h₁ : AmbientOnly w w₁ := by
    have := newEvent_ambient id (stepKind entry.status) w
    rw [hn] at this
    exact this
  exact h₁

theorem stepEvents_ambient (id : String) (entries : List HistoryEntry) (w : World) :
    AmbientOnly w ((entries.mapM (stepEvent id)).run w).2 := by
  induction entries generalizing w with
  | nil => rfl
  | cons entry rest ih =>
    simp only [List.mapM_cons, StateT.run_bind, StateT.run_pure]
    exact (stepEvent_ambient id entry w).trans (ih _)

theorem checkpoint_ambient (id : String) (version count : Nat) (w : World) :
    AmbientOnly w ((checkpoint id version count).run w).2 := rfl

end Persist

end Saga
