import Saga.Store.Tables
import Saga.Proofs.Time.Strict

/-!
# Row identifiers of history entries

An entry row is identified by the name-based identifier of the key `<saga>/<step>/<start>`,
the start written in RFC 3339 with nine fraction digits. That text holds no `/`, so a key
splits at its last `/` into the saga id and step name joined by `/`, and the start
(`stepRowKey_eq_iff`); for a regular instant the text names the instant
(`Instant.writeNanos_inj`).

So within one saga two entries share a key exactly when they share step name and start
(`stepRowKey_self_eq_iff`). Across sagas the join hides where the saga id ends: the saga
`s/n` with step `m` has the keys of the saga `s` with step `n/m` (`stepRowKey_shift`). Only
saga ids without `/` are read back from a key (`row_ids_separate_sagas_without_slash`).

A save upserts its entries' rows by identifier and so keeps every row at another identifier
(`mem_save_steps`): with saga ids without `/`, a save of one saga keeps the rows of every
other (`save_keeps_rows_of_other_sagas`). A save of `s` with step `n/m`, though, takes over
the row of step `m` of saga `s/n` (`save_takes_row_of_joined_saga`).
-/

namespace Saga

/-! ## Splitting at a separator -/

section Separator

variable {α : Type} {sep : α} {a b u v : List α}

/-- Two lists that put a separator after a part without it agree exactly when the parts and
the rests do. -/
theorem append_sep_iff_of_notMem_prefix (ha : sep ∉ a) (hb : sep ∉ b) :
    a ++ sep :: u = b ++ sep :: v ↔ a = b ∧ u = v := by
  induction a generalizing b with
  | nil =>
    cases b with
    | nil => simp
    | cons y b => simp_all
  | cons x a ih =>
    simp only [List.mem_cons, not_or] at ha
    cases b with
    | nil =>
      simp only [List.nil_append, List.cons_append, List.cons.injEq]
      constructor
      · rintro ⟨rfl, -⟩
        exact absurd rfl ha.1
      · rintro ⟨h, -⟩
        cases h
    | cons y b =>
      simp only [List.mem_cons, not_or] at hb
      simp [ih ha.2 hb.2, and_assoc]

/-- Two lists that end in a separator and a part without it agree exactly when the parts and
what comes before agree. -/
theorem append_sep_iff_of_notMem_suffix (hu : sep ∉ u) (hv : sep ∉ v) :
    a ++ sep :: u = b ++ sep :: v ↔ a = b ∧ u = v := by
  -- read backwards, the part without the separator comes first
  have h : u.reverse ++ sep :: a.reverse = v.reverse ++ sep :: b.reverse ↔
      u.reverse = v.reverse ∧ a.reverse = b.reverse :=
    append_sep_iff_of_notMem_prefix (by simpa using hu) (by simpa using hv)
  rw [← List.reverse_inj]
  simpa [and_comm] using h

end Separator

/-! ## Keys -/

theorem slash_notMem_pad (w n : Nat) : '/' ∉ (Instant.pad w n).toList := fun h =>
  absurd (Instant.isDigit_of_mem_pad h) (by decide)

/-- A written instant holds digits and the marks `-`, `+`, `T`, `:`, `.` and `Z`, never `/`. -/
theorem slash_notMem_writeNanos (t : Instant) : '/' ∉ t.writeNanos.toList := by
  simp only [Instant.writeNanos, Instant.writeSeconds]
  split_ifs <;> simp [String.toList_append, slash_notMem_pad]

/-- The nine-digit text of a regular instant names it. -/
theorem Instant.writeNanos_inj {a b : Instant} (ha : a.Regular) (hb : b.Regular) :
    a.writeNanos = b.writeNanos ↔ a = b := by
  constructor
  · intro h
    have hread := Instant.parseStrict_writeNanos ha
    rw [h, Instant.parseStrict_writeNanos hb] at hread
    exact (Option.some.inj hread).symm
  · rintro rfl
    rfl

theorem toList_stepRowKey (s : String) (e : HistoryEntry) :
    (stepRowKey s e).toList = (s ++ "/" ++ e.stepName).toList ++ '/' :: e.startedAt.writeNanos.toList := by
  simp [stepRowKey, String.toList_append]

/-- Two keys agree exactly when their saga ids and step names, joined by `/`, agree and so do
their starts' texts. -/
theorem stepRowKey_eq_iff {s s' : String} {e e' : HistoryEntry} :
    stepRowKey s e = stepRowKey s' e' ↔
      s ++ "/" ++ e.stepName = s' ++ "/" ++ e'.stepName ∧ e.startedAt.writeNanos = e'.startedAt.writeNanos := by
  rw [← String.toList_inj, toList_stepRowKey, toList_stepRowKey,
    append_sep_iff_of_notMem_suffix (slash_notMem_writeNanos _) (slash_notMem_writeNanos _),
    String.toList_inj, String.toList_inj]

/-- Saga ids without `/` are read back from their join with a step name. -/
theorem join_eq_iff {s s' n n' : String} (hs : '/' ∉ s.toList) (hs' : '/' ∉ s'.toList) :
    s ++ "/" ++ n = s' ++ "/" ++ n' ↔ s = s' ∧ n = n' := by
  have h : s.toList ++ '/' :: n.toList = s'.toList ++ '/' :: n'.toList ↔
      s.toList = s'.toList ∧ n.toList = n'.toList :=
    append_sep_iff_of_notMem_prefix hs hs'
  rw [String.toList_inj, String.toList_inj] at h
  rw [← String.toList_inj]
  simpa [String.toList_append] using h

/-- Within one saga, entries with regular starts share a key exactly when they share step
name and start. -/
theorem stepRowKey_self_eq_iff {s : String} {e e' : HistoryEntry} (h : e.startedAt.Regular)
    (h' : e'.startedAt.Regular) : stepRowKey s e = stepRowKey s e' ↔ e.key = e'.key := by
  rw [stepRowKey_eq_iff, Instant.writeNanos_inj h h', String.append_right_inj]
  simp [HistoryEntry.key]

/-- The part of a saga id after a `/` can move to the front of the step name: the key stays. -/
theorem stepRowKey_shift (s n : String) (e : HistoryEntry) :
    stepRowKey (s ++ "/" ++ n) e = stepRowKey s { e with stepName := n ++ "/" ++ e.stepName } := by
  simp [stepRowKey, String.append_assoc]

/-- A key reads only the step name and the start of its entry. -/
theorem stepRowKey_congr (s : String) {e e' : HistoryEntry} (hn : e.stepName = e'.stepName)
    (ht : e.startedAt = e'.startedAt) : stepRowKey s e = stepRowKey s e' := by
  simp [stepRowKey, hn, ht]

/-- Identifiers of entries with regular starts coincide where their keys split alike, as far
as the digest separates the two keys. -/
theorem stepRowId_eq_iff_joined {s s' : String} {e e' : HistoryEntry} (h : e.startedAt.Regular)
    (h' : e'.startedAt.Regular) (hhash : stepRowId s e = stepRowId s' e' → stepRowKey s e = stepRowKey s' e') :
    stepRowId s e = stepRowId s' e' ↔
      s ++ "/" ++ e.stepName = s' ++ "/" ++ e'.stepName ∧ e.startedAt = e'.startedAt := by
  rw [← Instant.writeNanos_inj h h', ← stepRowKey_eq_iff]
  constructor
  · exact hhash
  · intro hk
    simp only [stepRowId, hk]

/-! ## What a save touches -/

namespace Tables

section Upsert

variable {α : Type} (key : α → String) (merge : α → α → α)

/-- An upsert keeps every row under another key. -/
theorem mem_upsert_of_ne {row r : α} {rs : List α} (hr : r ∈ rs) (h : key r ≠ key row) :
    r ∈ upsert key merge row rs := by
  induction rs with
  | nil => cases hr
  | cons x rs ih =>
    by_cases hx : key x = key row
    · have hrx : r ≠ x := fun e => h (e ▸ hx)
      simp only [upsert, hx, beq_self_eq_true, if_true, List.mem_cons]
      exact .inr ((List.mem_cons.mp hr).resolve_left hrx)
    · simp only [upsert, beq_iff_eq, hx, if_false, List.mem_cons]
      rcases List.mem_cons.mp hr with rfl | hr
      · exact .inl rfl
      · exact .inr (ih hr)

/-- An upsert passes over rows under other keys. -/
theorem upsert_append_of_forall_ne {row : α} {rs : List α} (h : ∀ r ∈ rs, key r ≠ key row) (qs : List α) :
    upsert key merge row (rs ++ qs) = rs ++ upsert key merge row qs := by
  induction rs with
  | nil => rfl
  | cons r rs ih =>
    have hr : key r ≠ key row := h r List.mem_cons_self
    simp only [List.cons_append, upsert, beq_iff_eq, hr, if_false,
      ih (fun x hx => h x (List.mem_cons_of_mem _ hx))]

theorem upsert_cons_of_eq {row r : α} (h : key r = key row) (rs : List α) :
    upsert key merge row (r :: rs) = merge r row :: rs := by
  simp [upsert, h]

end Upsert

/-- Every row of a saved state is the row of one of its entries. -/
theorem mem_entryRows {st : SagaState} {r : StepRow} (h : r ∈ entryRows st) :
    ∃ e ∈ st.history, ∃ i, r = stepRow st.id i e := by
  simp only [entryRows, List.mem_map] at h
  obtain ⟨p, hp, rfl⟩ := h
  exact ⟨p.1, List.fst_mem_of_mem_zipIdx hp, p.2, rfl⟩

/-- A save keeps every entry row at an identifier that none of its entries has. -/
theorem mem_save_steps {t : Tables} {st : SagaState} {r : StepRow} (hr : r ∈ t.steps)
    (hid : ∀ e ∈ st.history, r.id ≠ stepRowText st.id e) (now : Instant) : r ∈ (t.save st now).steps := by
  -- the upserts of the entries' rows in turn, each at an identifier other than `r`'s
  have hfold : ∀ (qs rows : List StepRow), (∀ q ∈ qs, q ∈ entryRows st) →
      r ∈ rows → r ∈ qs.foldl (fun rows q => upsert StepRow.id updateStep q rows) rows := by
    intro qs
    induction qs with
    | nil => exact fun _ _ hr => hr
    | cons q qs ih =>
      intro rows hqs hr
      obtain ⟨e, he, i, rfl⟩ := mem_entryRows (hqs q List.mem_cons_self)
      exact ih _ (fun y hy => hqs y (List.mem_cons_of_mem _ hy)) (mem_upsert_of_ne _ _ hr (hid e he))
  exact hfold _ _ (fun _ hq => hq) hr

/-- With saga ids without `/`, a save of one saga keeps every row of another, as far as the
digest separates the keys of the two sagas' entries. -/
theorem save_keeps_rows_of_other_sagas {t : Tables} {st : SagaState} {r : StepRow} {e' : HistoryEntry}
    (hr : r ∈ t.steps) (hrid : r.id = stepRowText r.sagaId e') (hne : r.sagaId ≠ st.id)
    (hs : '/' ∉ r.sagaId.toList) (hst : '/' ∉ st.id.toList)
    (hhash : ∀ e ∈ st.history, stepRowText r.sagaId e' = stepRowText st.id e →
      stepRowKey r.sagaId e' = stepRowKey st.id e) (now : Instant) :
    r ∈ (t.save st now).steps := by
  refine mem_save_steps hr (fun e he heq => hne ?_) now
  have hjoin := (stepRowKey_eq_iff.mp (hhash e he (hrid.symm.trans heq))).1
  exact ((join_eq_iff hs hst).mp hjoin).1

/-- A save of saga `s` whose entry has step name `n/m` lands on the row of the entry `m`,
started at the same instant, of saga `s/n`: the row keeps its saga, step name and start, and
takes the rest from the new entry, so that saga `s` has no entry row. -/
theorem save_takes_row_of_joined_saga {st st' : SagaState} {e e' : HistoryEntry} {n : String}
    (hid : st.id = st'.id ++ "/" ++ n) (hh : st.history = [e]) (hh' : st'.history = [e'])
    (hname : e'.stepName = n ++ "/" ++ e.stepName) (hstart : e'.startedAt = e.startedAt)
    (now now' : Instant) :
    (((({} : Tables).save st now).save st' now').steps =
      [updateStep (stepRow st.id 0 e) (stepRow st'.id 0 e')]) ∧
    ((({} : Tables).save st now).save st' now').stepsOf st'.id = [] := by
  have hkey : stepRowText st.id e = stepRowText st'.id e' := by
    have hk : stepRowKey st.id e = stepRowKey st'.id e' := by
      rw [hid, stepRowKey_shift]
      exact stepRowKey_congr _ hname.symm hstart.symm
    simp only [stepRowText, stepRowId, hk]
  have hsteps : ((({} : Tables).save st now).save st' now').steps =
      [updateStep (stepRow st.id 0 e) (stepRow st'.id 0 e')] := by
    simp [save, entryRows, hh, hh', upsert, stepRow, hkey]
  refine ⟨hsteps, ?_⟩
  have hne : st.id ≠ st'.id := by
    rw [hid]
    intro h
    have hl := congrArg String.length h
    have h1 : "/".length = 1 := by decide
    simp only [String.length_append, h1] at hl
    omega
  simp [stepsOf, hsteps, updateStep, stepRow, hne]

end Tables

/-! ## Row identifiers and sagas -/

/-- Row identifiers coincide exactly where the keys split alike, the saga id and step name
joined by `/` and the start; for saga ids without `/`, exactly for entries of one saga with
one step name and start. Both as far as the digest separates the two keys. -/
theorem row_ids_separate_sagas_without_slash {s s' : String} {e e' : HistoryEntry}
    (h : e.startedAt.Regular) (h' : e'.startedAt.Regular)
    (hhash : stepRowId s e = stepRowId s' e' → stepRowKey s e = stepRowKey s' e') :
    (stepRowId s e = stepRowId s' e' ↔
      s ++ "/" ++ e.stepName = s' ++ "/" ++ e'.stepName ∧ e.startedAt = e'.startedAt) ∧
    ('/' ∉ s.toList → '/' ∉ s'.toList →
      (stepRowId s e = stepRowId s' e' ↔ s = s' ∧ e.stepName = e'.stepName ∧ e.startedAt = e'.startedAt)) := by
  refine ⟨stepRowId_eq_iff_joined h h' hhash, fun hs hs' => ?_⟩
  rw [stepRowId_eq_iff_joined h h' hhash, join_eq_iff hs hs', and_assoc]

/-- One second into 2024. -/
def secondOf2024 : Instant := ⟨1704067201, 0⟩

theorem secondOf2024_regular : secondOf2024.Regular := ⟨by decide +kernel, by decide +kernel, by decide⟩

/-- The failed entry `b/c` of saga `a`. -/
def slashedEntry : HistoryEntry :=
  { stepName := "b/c", status := .failed, startedAt := secondOf2024,
    completedAt := some ⟨1704067203, 0⟩, error := some "boom", retryAttempt := 1 }

/-- The completed entry `c` of saga `a/b`. -/
def plainEntry : HistoryEntry :=
  { stepName := "c", status := .completed, startedAt := secondOf2024, completedAt := some ⟨1704067202, 0⟩ }

/-- Saga `a`'s entry `b/c` and saga `a/b`'s entry `c`, started at one instant, share their
row identifier. -/
theorem joined_sagas_share_row_id :
    (slashedEntry.startedAt.Regular ∧ plainEntry.startedAt.Regular ∧
      (stepRowId "a" slashedEntry = stepRowId "a/b" plainEntry →
        stepRowKey "a" slashedEntry = stepRowKey "a/b" plainEntry)) ∧
    ((stepRowId "a" slashedEntry = stepRowId "a/b" plainEntry ↔
      "a" ++ "/" ++ slashedEntry.stepName = "a/b" ++ "/" ++ plainEntry.stepName ∧
        slashedEntry.startedAt = plainEntry.startedAt) ∧
    ('/' ∉ "a".toList → '/' ∉ "a/b".toList →
      (stepRowId "a" slashedEntry = stepRowId "a/b" plainEntry ↔
        "a" = "a/b" ∧ slashedEntry.stepName = plainEntry.stepName ∧
          slashedEntry.startedAt = plainEntry.startedAt))) :=
  have hhash : stepRowId "a" slashedEntry = stepRowId "a/b" plainEntry →
      stepRowKey "a" slashedEntry = stepRowKey "a/b" plainEntry := fun _ => by decide
  ⟨⟨secondOf2024_regular, secondOf2024_regular, hhash⟩,
    row_ids_separate_sagas_without_slash secondOf2024_regular secondOf2024_regular hhash⟩

/-- Saga `a/b`, its step `c` completed. -/
def joinedSaga : SagaState :=
  { id := "a/b", definitionName := "order", status := .running, currentStep := 0, context := [],
    history := [plainEntry], createdAt := ⟨1704067200, 0⟩, startedAt := some ⟨1704067200, 0⟩,
    completedAt := none }

/-- Saga `a`, its step `b/c` failed. -/
def shortSaga : SagaState :=
  { joinedSaga with id := "a", history := [slashedEntry] }

/-- Saving saga `a/b` and then saga `a` leaves saga `a` without entry rows, and the row of saga
`a/b`'s completed step shows the failure of saga `a`'s step (at any save times, by
`Tables.save_takes_row_of_joined_saga`; here both in the first second of 2024). -/
theorem short_saga_takes_row_of_joined_saga :
    ((({} : Tables).save joinedSaga secondOf2024).save shortSaga secondOf2024).stepsOf "a" = [] ∧
    (((({} : Tables).save joinedSaga secondOf2024).save shortSaga secondOf2024).stepsOf
      "a/b").map StepRow.status = ["failed"] := by
  obtain ⟨hsteps, hshort⟩ := @Tables.save_takes_row_of_joined_saga joinedSaga shortSaga plainEntry
    slashedEntry "b" (by decide) rfl rfl (by decide) rfl secondOf2024 secondOf2024
  refine ⟨hshort, ?_⟩
  rw [Tables.stepsOf, hsteps]
  simp [Tables.updateStep, Tables.stepRow, joinedSaga, shortSaga, slashedEntry, StepStatus.name]

end Saga
