import Saga.Proofs.Persist.Meta

/-!
# The event log

What the in-memory event store does to its streams, as lemmas about `EventLog`:

* replacing a stream (`stream_setStream`) and what it keeps: the log's switches, each
  stream holding only its own events (`OwnEvents`), and one entry per saga (`OneStream`);
  both together are `Keyed`;
* appending to a stream at its own version numbers the new events on from it
  (`append_ok`, `stamp`), so a stream built by appends carries the versions `1, …, n`
  (`NumberedFrom`), is contiguous after any version, and a read from version `k + 1` is
  the stream without its first `k` events (`filter_numberedFrom`);
* the reads: what they return, and that they change only the read counters
  (`CountersOnly`); an event of a saga found among the events of a kind is one of the
  saga's stream (`mem_stream_of_getEventsByKind`);
* removing the events of a kind numbers the rest again from one (`stream_strip`).
-/

namespace Saga

theorem EventKind.beq_iff {a b : EventKind} : (a == b) = true ↔ a = b := by
  cases a <;> cases b <;> decide

instance : LawfulBEq EventKind where
  eq_of_beq := EventKind.beq_iff.mp
  rfl := EventKind.beq_iff.mpr rfl

section AssocList

variable {β : Type}

theorem lookup_replace_self (xs : List (String × β)) (id : String) (v : β)
    (h : xs.any (·.1 == id) = true) :
    (xs.map fun (k, w) => if k == id then (k, v) else (k, w)).lookup id = some v := by
  induction xs with
  | nil => simp at h
  | cons p rest ih =>
    obtain ⟨k, w⟩ := p
    by_cases hk : k = id
    · subst hk; simp
    · have hr : rest.any (·.1 == id) = true := by simpa [hk] using h
      simpa [hk, lookup_cons_ite, Ne.symm hk] using ih hr

theorem lookup_replace_ne (xs : List (String × β)) {id x : String} (v : β) (hx : x ≠ id) :
    (xs.map fun (k, w) => if k == id then (k, v) else (k, w)).lookup x = xs.lookup x := by
  induction xs with
  | nil => rfl
  | cons p rest ih =>
    obtain ⟨k, w⟩ := p
    by_cases hk : k = id
    · subst hk; simpa [lookup_cons_ite, hx] using ih
    · simp only [beq_iff_eq] at ih
      simp [hk, lookup_cons_ite, ih]

theorem lookup_append_absent (xs : List (String × β)) (id x : String) (v : β)
    (h : ¬ xs.any (·.1 == id) = true) :
    (xs ++ [(id, v)]).lookup x = if x = id then some v else xs.lookup x := by
  induction xs with
  | nil => simp [lookup_cons_ite]
  | cons p rest ih =>
    obtain ⟨k, w⟩ := p
    have hk : k ≠ id := by simp at h; exact h.1
    have hr : ¬ rest.any (·.1 == id) = true := by simpa [hk] using h
    by_cases hx : x = k
    · subst hx; simp [hk]
    · simp [lookup_cons_ite, hx, ih hr]

theorem lookup_filter_ne (xs : List (String × β)) (id x : String) :
    (xs.filter (·.1 != id)).lookup x = if x = id then none else xs.lookup x := by
  induction xs with
  | nil => simp
  | cons p rest ih =>
    obtain ⟨k, w⟩ := p
    by_cases hk : k = id
    · subst hk
      rw [List.filter_cons_of_neg (by simp), ih]
      by_cases hx : x = k <;> simp [hx, lookup_cons_ite]
    · rw [List.filter_cons_of_pos (by simp [hk]), lookup_cons_ite, ih]
      by_cases hx : x = k
      · subst hx; simp [hk]
      · simp [hx, lookup_cons_ite]

theorem mem_of_lookup_eq_some {xs : List (String × β)} {id : String} {v : β}
    (h : xs.lookup id = some v) : (id, v) ∈ xs := by
  induction xs with
  | nil => simp at h
  | cons p rest ih =>
    obtain ⟨k, w⟩ := p
    rw [lookup_cons_ite] at h
    by_cases hk : id = k
    · subst hk
      simp only [if_true, Option.some.injEq] at h
      simp [h]
    · rw [if_neg hk] at h
      exact List.mem_cons_of_mem _ (ih h)

theorem lookup_eq_none_of_not_any (xs : List (String × β)) (id : String)
    (h : ¬ xs.any (·.1 == id) = true) : xs.lookup id = none := by
  induction xs with
  | nil => rfl
  | cons p rest ih =>
    obtain ⟨k, w⟩ := p
    have hk : k ≠ id := by simp at h; exact h.1
    have hr : ¬ rest.any (·.1 == id) = true := by simpa [hk] using h
    simp [lookup_cons_ite, Ne.symm hk, ih hr]

end AssocList

namespace EventLog

theorem stream_setStream (l : EventLog) (id x : String) (evs : List StoredEvent) :
    (l.setStream id evs).stream x = if x = id then evs else l.stream x := by
  unfold setStream stream
  split
  · rename_i h
    by_cases hx : x = id
    · subst hx; rw [lookup_replace_self _ _ _ h]; simp
    · rw [lookup_replace_ne _ _ hx]; simp [hx]
  · rename_i h
    rw [lookup_append_absent _ _ _ _ h]
    by_cases hx : x = id <;> simp [hx]

@[simp] theorem stream_setStream_self (l : EventLog) (id : String) (evs : List StoredEvent) :
    (l.setStream id evs).stream id = evs := by
  simp [stream_setStream]

@[simp] theorem setStream_failReads (l : EventLog) (id : String) (evs : List StoredEvent) :
    (l.setStream id evs).failReads = l.failReads := by
  unfold setStream; split <;> rfl

@[simp] theorem setStream_delegating (l : EventLog) (id : String) (evs : List StoredEvent) :
    (l.setStream id evs).delegating = l.delegating := by
  unfold setStream; split <;> rfl

theorem mem_setStream {l : EventLog} {sid x : String} {evs es : List StoredEvent}
    (h : (x, es) ∈ (l.setStream sid evs).streams) :
    (x = sid ∧ es = evs) ∨ (x ≠ sid ∧ (x, es) ∈ l.streams) := by
  unfold setStream at h
  split at h
  · simp only [List.mem_map] at h
    obtain ⟨⟨k, w⟩, hm, he⟩ := h
    by_cases hk : k = sid
    · simp [hk] at he
      exact .inl ⟨he.1.symm, he.2.symm⟩
    · simp [hk] at he
      obtain ⟨rfl, rfl⟩ := he
      exact .inr ⟨hk, hm⟩
  · rename_i hany
    simp only [List.mem_append, List.mem_singleton, Prod.mk.injEq] at h
    rcases h with hm | h
    · refine .inr ⟨?_, hm⟩
      rintro rfl
      exact hany (List.any_eq_true.mpr ⟨_, hm, by simp⟩)
    · exact .inl h

/-- Every stream holds only events of its own saga. -/
def OwnEvents (l : EventLog) : Prop :=
  ∀ x evs, (x, evs) ∈ l.streams → ∀ e ∈ evs, e.stream = x

/-- Every entry kept under `sid` holds the stream of `sid`. -/
def OneStream (l : EventLog) (sid : String) : Prop :=
  ∀ evs, (sid, evs) ∈ l.streams → evs = l.stream sid

theorem OwnEvents.setStream {l : EventLog} (h : l.OwnEvents) {sid : String} {evs : List StoredEvent}
    (hevs : ∀ e ∈ evs, e.stream = sid) : (l.setStream sid evs).OwnEvents := by
  intro x es hm
  rcases mem_setStream hm with ⟨rfl, rfl⟩ | ⟨-, hm⟩
  · exact hevs
  · exact h x es hm

theorem OneStream.setStream_self (l : EventLog) (sid : String) (evs : List StoredEvent) :
    (l.setStream sid evs).OneStream sid := by
  intro es hm
  rcases mem_setStream hm with ⟨-, rfl⟩ | ⟨hne, -⟩
  · simp
  · exact absurd rfl hne

theorem OneStream.setStream_ne {l : EventLog} {sid : String} (h : l.OneStream sid) {x : String}
    (hx : x ≠ sid) (evs : List StoredEvent) : (l.setStream x evs).OneStream sid := by
  intro es hm
  rcases mem_setStream hm with ⟨rfl, -⟩ | ⟨-, hm⟩
  · exact absurd rfl hx
  · rw [h es hm, stream_setStream, if_neg (Ne.symm hx)]

/-- The events numbered on from `n`: the first gets version `n + 1`. -/
def stamp (n : Nat) : List StoredEvent → List StoredEvent
  | [] => []
  | e :: es => { e with version := n + 1 } :: stamp (n + 1) es

@[simp] theorem length_stamp (n : Nat) (es : List StoredEvent) : (stamp n es).length = es.length := by
  induction es generalizing n with
  | nil => rfl
  | cons e es ih => simp [stamp, ih]

theorem pushAll_ok (sid : String) (stream events : List StoredEvent)
    (h : ∀ e ∈ events, e.stream = sid) :
    pushAll sid stream events =
      (.ok (stream ++ stamp stream.length events), stream ++ stamp stream.length events) := by
  induction events generalizing stream with
  | nil => simp [pushAll, stamp]
  | cons e rest ih =>
    have he : e.stream = sid := h e (by simp)
    rw [pushAll, if_neg (by simp [he]), ih _ fun x hx => h x (by simp [hx])]
    simp [stamp]

theorem append_ok (l : EventLog) (sid : String) (events : List StoredEvent)
    (h : ∀ e ∈ events, e.stream = sid) :
    l.append sid (l.stream sid).length events =
      (.ok ((l.stream sid).length + events.length),
        (l.setStream sid (l.stream sid)).setStream sid
          (l.stream sid ++ stamp (l.stream sid).length events)) := by
  simp [append, pushAll_ok _ _ _ h, Except.map]

/-- The events carry the versions `n + 1, n + 2, …` in order. -/
def NumberedFrom : Nat → List StoredEvent → Prop
  | _, [] => True
  | n, e :: es => e.version = n + 1 ∧ NumberedFrom (n + 1) es

theorem numberedFrom_stamp (n : Nat) (es : List StoredEvent) : NumberedFrom n (stamp n es) := by
  induction es generalizing n with
  | nil => trivial
  | cons e es ih => exact ⟨rfl, ih (n + 1)⟩

theorem numberedFrom_append {n : Nat} {xs ys : List StoredEvent} :
    NumberedFrom n (xs ++ ys) ↔ NumberedFrom n xs ∧ NumberedFrom (n + xs.length) ys := by
  induction xs generalizing n with
  | nil => simp [NumberedFrom]
  | cons e es ih =>
    simp only [List.cons_append, NumberedFrom, ih, List.length_cons, and_assoc]
    rw [show n + 1 + es.length = n + (es.length + 1) by omega]

theorem numberedFrom_iff_versions {n : Nat} {es : List StoredEvent} :
    NumberedFrom n es ↔ es.map (·.version) = List.range' (n + 1) es.length := by
  induction es generalizing n with
  | nil => simp [NumberedFrom]
  | cons e es ih => simp [NumberedFrom, List.range'_succ, ih]

theorem version_lt_of_numberedFrom {n : Nat} {es : List StoredEvent} (h : NumberedFrom n es) :
    ∀ e ∈ es, n < e.version := by
  induction es generalizing n with
  | nil => simp
  | cons e es ih =>
    intro x hx
    rcases List.mem_cons.mp hx with rfl | hx
    · have := h.1; omega
    · have := ih h.2 x hx; omega

theorem version_le_of_numberedFrom {n : Nat} {es : List StoredEvent} (h : NumberedFrom n es) :
    ∀ e ∈ es, e.version ≤ n + es.length := by
  induction es generalizing n with
  | nil => simp
  | cons e es ih =>
    intro x hx
    rcases List.mem_cons.mp hx with rfl | hx
    · have := h.1; simp only [List.length_cons]; omega
    · have := ih h.2 x hx; simp only [List.length_cons]; omega

theorem filter_numberedFrom {n : Nat} {es : List StoredEvent} (h : NumberedFrom n es) (k : Nat) :
    es.filter (·.version ≥ n + k + 1) = es.drop k := by
  induction es generalizing n k with
  | nil => simp
  | cons e es ih =>
    cases k with
    | zero =>
      refine List.filter_eq_self.mpr fun x hx => ?_
      have := version_lt_of_numberedFrom h x hx
      simp only [decide_eq_true_eq]; omega
    | succ k =>
      rw [List.filter_cons_of_neg (by simp [h.1]), List.drop_succ_cons,
        show n + (k + 1) + 1 = n + 1 + k + 1 by omega, ih h.2 k]

theorem zipIdx_numbered {m after j : Nat} {es : List StoredEvent} (h : NumberedFrom m es)
    (hm : m = after + j) : (es.zipIdx j).all (fun (e, i) => e.version == after + 1 + i) = true := by
  induction es generalizing m j with
  | nil => rfl
  | cons e es ih =>
    simp only [List.zipIdx_cons, List.all_cons, Bool.and_eq_true, beq_iff_eq]
    exact ⟨by rw [h.1]; omega, ih h.2 (by omega)⟩

theorem isContiguous_of_numbered {n : Nat} {es : List StoredEvent} (h : NumberedFrom n es) :
    Persist.isContiguous es n = true :=
  zipIdx_numbered h (by omega)

/-- `l'` differs from `l` at most in its read counters. -/
def CountersOnly (l l' : EventLog) : Prop :=
  l' = { l with eventsRead := l'.eventsRead, fullReads := l'.fullReads }

theorem getEvents_ok (l : EventLog) (sid : String) (start : Nat) (h : l.failReads = false) :
    (l.getEvents sid start).1 = .ok ((l.stream sid).filter (·.version ≥ start)) := by
  simp [getEvents, h]

theorem getEvents_counters (l : EventLog) (sid : String) (start : Nat) :
    CountersOnly l (l.getEvents sid start).2 := by
  unfold getEvents CountersOnly; split <;> rfl

theorem lastOfKind_eq {l : EventLog} {sid : String} {kind : EventKind} {v : Option StoredEvent}
    (h : (l.lastOfKind sid kind).1 = .ok v) :
    v = ((l.stream sid).filter (·.kind == kind)).getLast? := by
  unfold lastOfKind at h
  split at h
  · split at h
    · rename_i events l' heq
      simp only [Except.ok.injEq] at h
      unfold getEvents at heq
      split at heq
      · simp at heq
      · simp only [Prod.mk.injEq, Except.ok.injEq] at heq
        rw [← h, ← heq.1]
        simp
    · cases h
  · split at h
    · cases h
    · simpa using h.symm

theorem lastOfKind_ok (l : EventLog) (sid : String) (kind : EventKind) (h : l.failReads = false) :
    (l.lastOfKind sid kind).1 = .ok (((l.stream sid).filter (·.kind == kind)).getLast?) := by
  unfold lastOfKind
  split
  · simp [getEvents, h]
  · simp [h]

theorem lastOfKind_counters (l : EventLog) (sid : String) (kind : EventKind) :
    CountersOnly l (l.lastOfKind sid kind).2 := by
  unfold lastOfKind
  split
  · have := getEvents_counters l sid 0
    revert this
    cases l.getEvents sid 0 with
    | mk r l' => cases r <;> exact id
  · split <;> rfl

theorem getEventsByKind_counters (l : EventLog) (kind : EventKind) (since : Instant) :
    CountersOnly l (l.getEventsByKind kind since).2 := by
  unfold getEventsByKind CountersOnly; split <;> rfl

/-- An event of the saga found among the events of a kind across all streams is an event of
the saga's stream. -/
theorem mem_stream_of_getEventsByKind {l : EventLog} (hown : l.OwnEvents) {sid : String}
    (hone : l.OneStream sid) {kind : EventKind} {since : Instant} {es : List StoredEvent}
    (h : (l.getEventsByKind kind since).1 = .ok es) {e : StoredEvent} (he : e ∈ es)
    (hs : e.stream = sid) : e ∈ l.stream sid ∧ e.kind = kind := by
  unfold getEventsByKind at h
  split at h
  · cases h
  · simp only [Except.ok.injEq] at h
    subst h
    simp only [List.mem_filter, List.mem_flatMap, Bool.and_eq_true] at he
    obtain ⟨⟨⟨x, evs⟩, hm, hin⟩, hk, -⟩ := he
    have hx : x = sid := hs ▸ (hown x evs hm e hin).symm
    subst hx
    exact ⟨hone evs hm ▸ hin, EventKind.beq_iff.mp hk⟩

/-- The log keeps every stream apart: each holds only its own events and is kept once. -/
def Keyed (l : EventLog) : Prop := l.OwnEvents ∧ ∀ x, l.OneStream x

theorem Keyed.setStream {l : EventLog} (h : l.Keyed) {sid : String} {evs : List StoredEvent}
    (hevs : ∀ e ∈ evs, e.stream = sid) : (l.setStream sid evs).Keyed := by
  refine ⟨h.1.setStream hevs, fun x => ?_⟩
  by_cases hx : x = sid
  · subst hx; exact OneStream.setStream_self l x evs
  · exact (h.2 x).setStream_ne (Ne.symm hx) evs

theorem Keyed.stream {l : EventLog} (h : l.Keyed) (sid : String) : ∀ e ∈ l.stream sid, e.stream = sid := by
  unfold EventLog.stream
  cases hl : l.streams.lookup sid with
  | none => simp
  | some evs => exact h.1 sid evs (mem_of_lookup_eq_some hl)

/-- Renumbering keeps everything about an event but its version. -/
theorem map_stamp {α : Type} (f : StoredEvent → α) (hf : ∀ e v, f { e with version := v } = f e)
    (n : Nat) (es : List StoredEvent) : (stamp n es).map f = es.map f := by
  induction es generalizing n with
  | nil => rfl
  | cons e es ih => simp [stamp, hf, ih]

theorem stream_of_mem_stamp {n : Nat} {es : List StoredEvent} {x : String}
    (h : ∀ e ∈ es, e.stream = x) : ∀ e ∈ stamp n es, e.stream = x := by
  intro e he
  have hm : e.stream ∈ (stamp n es).map (·.stream) := List.mem_map_of_mem he
  rw [map_stamp _ (fun _ _ => rfl)] at hm
  obtain ⟨e', he', hs⟩ := List.mem_map.mp hm
  rw [← hs]
  exact h e' he'

theorem stamp_append (n : Nat) (xs ys : List StoredEvent) :
    stamp n (xs ++ ys) = stamp n xs ++ stamp (n + xs.length) ys := by
  induction xs generalizing n with
  | nil => rfl
  | cons e es ih => simp [stamp, ih, Nat.add_assoc, Nat.add_comm 1]

theorem renumber_eq_stamp (es : List StoredEvent) : renumber es = stamp 0 es := by
  suffices ∀ s, (List.range' s es.length).zipWith (fun i e => { e with version := i + 1 }) es =
      stamp s es by
    simpa [renumber, List.range_eq_range'] using this 0
  intro s
  induction es generalizing s with
  | nil => rfl
  | cons e es ih => simp [List.range'_succ, stamp, ih]

theorem stream_strip (l : EventLog) (sid : String) (kind : EventKind) :
    (l.strip sid kind).stream sid = stamp 0 ((l.stream sid).filter (·.kind != kind)) := by
  unfold strip
  split
  · simp [renumber_eq_stamp]
  · rename_i h
    simp [EventLog.stream, lookup_eq_none_of_not_any _ _ h, stamp]

theorem Keyed.strip {l : EventLog} (h : l.Keyed) (sid : String) (kind : EventKind) :
    (l.strip sid kind).Keyed := by
  unfold EventLog.strip
  split
  · rw [renumber_eq_stamp]
    exact h.setStream (stream_of_mem_stamp fun e he => h.stream sid e (List.mem_of_mem_filter he))
  · exact h

end EventLog

end Saga
