import Saga.Proofs.Persist.Log
import Mathlib.Data.List.TakeWhile

/-!
# Appending to the event store

`EventLog.append` compares the stream's version with the one its caller expected, then numbers
the batch on from it one event at a time, and stops at the first event that belongs to another
stream. What one call does to the log, whatever the log, stream and batch (`append_law`):

* it leaves every other stream as it was;
* at a version other than the expected one it answers a conflict and changes nothing;
* otherwise it appends the batch's longest prefix of events of the stream, numbered on from the
  expected version, and answers the new version when that prefix is the whole batch, and the
  first foreign event's error when it is not. That error comes after the prefix was appended:
  a failed append is not always without effect.

So an append that answers a version appended its whole batch right after the version its caller
expected (`append_eq_ok`), and since the store runs one append at a time, every stream of a log
changed only by appends, in any order and from any callers, keeps the versions `1, …, n`
(`appends_numbered`).
-/

namespace Saga

namespace EventLog

/-- An event of the stream `sid`, as the store tests it. -/
def OwnedBy (sid : String) (e : StoredEvent) : Bool := e.stream == sid

/-- The store keeps the events of the batch up to the first one of another stream, numbered on
from the end of the stream. -/
theorem pushAll_snd (sid : String) (events stream : List StoredEvent) :
    (pushAll sid stream events).2 = stream ++ stamp stream.length (events.takeWhile (OwnedBy sid)) := by
  induction events generalizing stream with
  | nil => simp [pushAll, stamp]
  | cons e rest ih =>
    by_cases he : e.stream = sid
    · rw [pushAll, if_neg (by simp [he]), ih, List.takeWhile_cons_of_pos (by simp [OwnedBy, he])]
      simp [stamp]
    · rw [pushAll, if_pos (by simp [he]), List.takeWhile_cons_of_neg (by simp [OwnedBy, he])]
      simp [stamp]

/-- The first event of another stream is the store's answer. -/
theorem pushAll_fst_of_find (sid : String) {events : List StoredEvent} {e : StoredEvent}
    (he : events.find? (fun x => !OwnedBy sid x) = some e) (stream : List StoredEvent) :
    (pushAll sid stream events).1 = .error (StoreFault.wrongStream e.stream) := by
  induction events generalizing stream with
  | nil => cases he
  | cons x rest ih =>
    by_cases hx : x.stream = sid
    · rw [List.find?_cons_of_neg (by simp [OwnedBy, hx])] at he
      rw [pushAll, if_neg (by simp [hx]), ih he]
    · rw [List.find?_cons_of_pos (by simp [OwnedBy, hx])] at he
      cases he
      rw [pushAll, if_pos (by simp [hx])]

/-- What one append does: other streams untouched; a conflict at another version, with nothing
appended; otherwise the batch's events up to the first foreign one appended after the expected
version, and the new version answered when there is no foreign event, that event's error when
there is. -/
theorem append_law (l : EventLog) (sid : String) (expected : Nat) (events : List StoredEvent) :
    (∀ x, x ≠ sid → (l.append sid expected events).2.stream x = l.stream x) ∧
    ((l.stream sid).length ≠ expected →
      (l.append sid expected events).1 = .error (.conflict expected (l.stream sid).length) ∧
      (l.append sid expected events).2.stream sid = l.stream sid) ∧
    ((l.stream sid).length = expected →
      (l.append sid expected events).2.stream sid =
        l.stream sid ++ stamp expected (events.takeWhile (OwnedBy sid)) ∧
      ((∀ e ∈ events, e.stream = sid) → (l.append sid expected events).1 = .ok (expected + events.length)) ∧
      (∀ e, events.find? (fun x => !OwnedBy sid x) = some e →
        (l.append sid expected events).1 = .error (StoreFault.wrongStream e.stream))) := by
  refine ⟨fun x hx => ?_, fun hne => ?_, fun heq => ?_⟩
  · -- both branches only ever set the stream `sid`
    by_cases hc : ((l.stream sid).length != expected) = true <;> simp [append, hc, stream_setStream, hx]
  · have hbne : ((l.stream sid).length != expected) = true := by simpa using hne
    simp [append, hbne]
  · refine ⟨?_, fun hown => ?_, fun e he => ?_⟩
    · simp [append, pushAll_snd, heq]
    · simp [append, pushAll_ok _ _ _ hown, Except.map, heq]
    · simp [append, pushAll_fst_of_find sid he, Except.map, heq]

/-- A batch whose second event belongs to another stream fails, and its first event stays. -/
example :
    let ev : String → StoredEvent := fun sid => { id := sid, stream := sid, kind := .stateChanged, timestamp := ⟨0, 0⟩ }
    (((default : EventLog).append "s" 0 [ev "s", ev "t"]).2.stream "s").length = 1 := by
  decide

/-- An append that answers a version was made at the version its caller expected, appended the
whole batch numbered on from it, and answers the version after the batch. -/
theorem append_eq_ok {l : EventLog} {sid : String} {expected v : Nat} {events : List StoredEvent}
    (h : (l.append sid expected events).1 = .ok v) :
    (l.stream sid).length = expected ∧ v = expected + events.length ∧
      (l.append sid expected events).2.stream sid = l.stream sid ++ stamp expected events := by
  obtain ⟨-, hconflict, hat⟩ := append_law l sid expected events
  have hlen : (l.stream sid).length = expected := by
    by_contra hne
    rw [(hconflict hne).1] at h
    cases h
  obtain ⟨hstream, hok, hforeign⟩ := hat hlen
  -- a foreign event would have made the answer an error
  have hown : ∀ e ∈ events, e.stream = sid := by
    intro e he
    by_contra hne
    obtain ⟨f, hf⟩ : ∃ f, events.find? (fun x => !OwnedBy sid x) = some f :=
      Option.isSome_iff_exists.mp (List.find?_isSome.mpr ⟨e, he, by simp [OwnedBy, hne]⟩)
    rw [hforeign f hf] at h
    cases h
  have htake : events.takeWhile (OwnedBy sid) = events :=
    List.takeWhile_eq_self_iff.mpr fun e he => by simp [OwnedBy, hown e he]
  refine ⟨hlen, ?_, by rw [hstream, htake]⟩
  rw [hok hown] at h
  exact (Except.ok.inj h).symm

/-- Every stream of the log carries the versions `1, …, n`. -/
def Numbered (l : EventLog) : Prop := ∀ x, NumberedFrom 0 (l.stream x)

/-- One append keeps every stream numbered `1, …, n`. -/
theorem Numbered.append {l : EventLog} (h : l.Numbered) (sid : String) (expected : Nat)
    (events : List StoredEvent) : (l.append sid expected events).2.Numbered := by
  obtain ⟨hother, hconflict, hat⟩ := append_law l sid expected events
  intro x
  by_cases hx : x = sid
  · subst hx
    by_cases hlen : (l.stream x).length = expected
    · -- the appended part is numbered on from the stream's last version
      rw [(hat hlen).1, numberedFrom_append, Nat.zero_add, hlen]
      exact ⟨h x, numberedFrom_stamp _ _⟩
    · rw [(hconflict hlen).2]
      exact h x
  · rw [hother x hx]
    exact h x

/-- Appends one after another, each to a stream at an expected version, as the store runs them. -/
def appendAll (l : EventLog) (calls : List (String × Nat × List StoredEvent)) : EventLog :=
  calls.foldl (fun l c => (l.append c.1 c.2.1 c.2.2).2) l

/-- Whatever appends are made, by whichever callers and in whatever order, every stream of the
log keeps the versions `1, …, n`. -/
theorem appends_numbered (calls : List (String × Nat × List StoredEvent)) {l : EventLog}
    (h : l.Numbered) : (l.appendAll calls).Numbered := by
  induction calls generalizing l with
  | nil => exact h
  | cons c rest ih => exact ih (h.append c.1 c.2.1 c.2.2)

end EventLog

end Saga
