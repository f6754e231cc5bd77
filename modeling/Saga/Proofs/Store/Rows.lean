import Saga.Proofs.Store.RowKeys
import Saga.Proofs.Persist.Rebuild

/-!
# Saving a saga as rows and loading it back

A save writes the saga's row, where an update keeps the definition name and creation time,
and upserts one row per history entry by its identifier, where an update keeps the saga, step
name and start: the entry row's frame. A load reads the saga's row and its entry rows in
position order, and converts every column back.

The columns read back as written when the state fits them: regular instants, a current step
below `2 ^ 64`, attempt counters below `2 ^ 32`, and a context whose text reads back
(`stateOf_sagaRow`). Where the entry rows lie follows from the run of saves. A state that
leads to the last one (`Leads`: the same saga, definition and creation time, and a history
whose keys begin the last one's) writes its rows over the first entry rows there and appends
the rest (`foldl_upsert_rows`), so every save of such a run keeps the tables laid for the last
state (`Laid`), and the last save leaves exactly its own rows (`Laid.save_self`). That needs
tables that held nothing of the saga, and no row at the identifier of one of its entries
(`Clear`), and a digest that separates its entries' keys.

So after the saves of a run the rows read back as the last state, with one entry row per
entry, saving that state again changes neither, and a load rebuilds the instance from the last
state (`saved_rows_read_back_last_state`). The instance has the last state only where the
saved context map rebuilds the context: a retry policy with a backoff multiplier that is not
finite is written as `null`, which the context reader refuses.
-/

namespace Saga

namespace Tables

/-! ## Columns read back -/

theorem toInt64_of_lt {n : Nat} (h : n < Nat.pow 2 63) : toInt64 n = n := by
  have h63 : Nat.pow 2 63 = 9223372036854775808 := rfl
  have h64 : Nat.pow 2 64 = 18446744073709551616 := rfl
  rw [h63] at h
  simp only [toInt64, h64]
  rw [if_pos (by omega), Nat.mod_eq_of_lt (by omega)]

theorem toWord_toInt64 {n : Nat} (h : n < Nat.pow 2 64) : toWord 64 (toInt64 n) = n := by
  have h64 : Nat.pow 2 64 = 18446744073709551616 := rfl
  have h63 : Nat.pow 2 63 = 9223372036854775808 := rfl
  have hi : Int.pow 2 64 = 18446744073709551616 := rfl
  rw [h64] at h
  simp only [toWord, toInt64, h64, h63, hi, Nat.mod_eq_of_lt h]
  split <;> omega

theorem toWord_natCast {n : Nat} (h : n < Persist.Replay.attemptBound) : toWord 32 (n : Int) = n := by
  have h32 : Nat.pow 2 32 = 4294967296 := rfl
  simp only [Persist.Replay.attemptBound, h32] at h
  simp only [toWord, h32]
  omega

theorem instantColumn_writeNanos {t : Instant} (h : t.Regular) : instantColumn t.writeNanos = .ok t := by
  have hread : Instant.readStrict t.writeNanos = .ok t := by
    have hp := Instant.parseStrict_writeNanos h
    simp only [Instant.parseStrict] at hp
    revert hp
    cases Instant.readStrict t.writeNanos <;> simp [Except.toOption]
  simp [instantColumn, hread]

theorem optionalInstantColumn_map {o : Option Instant} (h : ∀ t ∈ o, t.Regular) :
    optionalInstantColumn (o.map Instant.writeNanos) = .ok o := by
  cases o with
  | none => rfl
  | some t =>
    simp only [Option.map_some, optionalInstantColumn, instantColumn_writeNanos (h t rfl)]
    rfl

/-- An entry row reads back as its entry, when the entry's instants are regular and its
attempt counter fits 32 bits. -/
theorem entryOf_stepRow (sagaId : String) (i : Nat) {e : HistoryEntry} (he : e.Replayable) :
    entryOf (stepRow sagaId i e) = .ok e := by
  simp only [entryOf, stepRow, StepStatus.parse_name, instantColumn_writeNanos he.started,
    optionalInstantColumn_map he.completed, toWord_natCast he.attempt, bind, Except.bind, pure, Except.pure]

theorem mapM_entryOf_rows (sagaId : String) (l : List HistoryEntry) :
    ∀ j : Nat, (∀ e ∈ l, e.Replayable) → ((l.zipIdx j).map fun p => stepRow sagaId p.2 p.1).mapM entryOf = .ok l := by
  induction l with
  | nil => exact fun _ _ => rfl
  | cons e l ih =>
    intro j h
    simp only [List.zipIdx_cons, List.map_cons, List.mapM_cons, entryOf_stepRow sagaId j (h e List.mem_cons_self),
      ih (j + 1) (fun x hx => h x (List.mem_cons_of_mem _ hx))]
    rfl

/-- The saga row and entry rows of a state read back as the state, when its instants are
regular, its counters fit their columns and its context's text reads back as its context. -/
theorem stateOf_sagaRow {st : SagaState} (hst : st.Replayable)
    (hctx : Json.Shape.map.readText (Json.render (.obj st.context)) = .ok (.obj st.context)) (now : Instant) :
    stateOf (sagaRow st now) (entryRows st) = .ok st := by
  have hc : contextColumn (Json.render (.obj st.context)) = .ok st.context := by
    simp [contextColumn, hctx]
  simp only [stateOf, hc, entryRows, mapM_entryOf_rows st.id st.history 0 hst.entries, sagaRow,
    SagaStatus.parse_name, instantColumn_writeNanos hst.created, optionalInstantColumn_map hst.started,
    optionalInstantColumn_map hst.completed, toWord_toInt64 hst.step, bind, Except.bind, pure, Except.pure]

/-! ## Laying out the entry rows -/

/-- The columns of an entry row that an update keeps, with its identifier. -/
def frame (r : StepRow) : String × String × String × String := (r.id, r.sagaId, r.stepName, r.startedAt)

/-- The frame of the row of an entry with key `k` of saga `id`. -/
def keyFrame (id : String) (k : String × Instant) : String × String × String × String :=
  (NameUuid.text (NameUuid.v5 NameUuid.oidNamespace (id ++ "/" ++ k.1 ++ "/" ++ k.2.writeNanos).toUTF8.toList),
    id, k.1, k.2.writeNanos)

/-- The frames of the rows of a state's entries, in history order. -/
def frames (st : SagaState) : List (String × String × String × String) :=
  (st.history.map HistoryEntry.key).map (keyFrame st.id)

theorem frame_stepRow (id : String) (i : Nat) (e : HistoryEntry) :
    frame (stepRow id i e) = keyFrame id e.key := rfl

theorem map_frame_entryRows (st : SagaState) : (entryRows st).map frame = frames st := by
  simp only [entryRows, frames, List.map_map]
  conv => rhs; rw [← List.zipIdx_map_fst 0 st.history, List.map_map]
  rfl

theorem length_frames (st : SagaState) : (frames st).length = st.history.length := by
  simp [frames]

/-- An update that keeps what the new row has anyway leaves the new row. -/
theorem updateStep_of_frame {old new : StepRow} (h : frame old = frame new) : updateStep old new = new := by
  simp only [frame, Prod.mk.injEq] at h
  obtain ⟨-, hs, hn, ht⟩ := h
  simp [updateStep, hs, hn, ht]

theorem take_append_drop_take {β : Type} (l : List β) (k m : Nat) :
    l.take k ++ (l.take m).drop k = l.take (max m k) := by
  by_cases hkm : k ≤ m
  · rw [Nat.max_eq_left hkm]
    conv => rhs; rw [← List.take_append_drop k (l.take m)]
    rw [List.take_take, Nat.min_eq_left hkm]
  · rw [Nat.max_eq_right (by omega), List.drop_eq_nil_of_le (by simp; omega), List.append_nil]

/-- An upsert after rows at other identifiers lands on the row at its place, when that row
has its frame, or at the end. -/
theorem upsert_at_place {base q rest : List StepRow} {r : StepRow} (hb : ∀ x ∈ base, x.id ≠ r.id)
    (hq : ∀ x ∈ q, x.id ≠ r.id) (hrest : ∀ x ∈ rest.head?, frame x = frame r) :
    upsert StepRow.id updateStep r (base ++ (q ++ rest)) = base ++ (q ++ r :: rest.tail) := by
  rw [upsert_append_of_forall_ne _ _ hb, upsert_append_of_forall_ne _ _ hq]
  cases rest with
  | nil => rfl
  | cons x rest =>
    have hx : frame x = frame r := hrest x rfl
    have hid : x.id = r.id := congrArg Prod.fst hx
    rw [upsert_cons_of_eq _ _ hid, updateStep_of_frame hx]
    rfl

section Laying

variable {F : List (String × String × String × String)}

/-- Rows whose frames begin `F` have `F`'s frames at their places. -/
theorem getElem?_of_frames_lead {q : List StepRow} (hq : q.map frame <+: F) {i : Nat} {x : StepRow}
    (hx : q[i]? = some x) : F[i]? = some (frame x) := by
  obtain ⟨hi, rfl⟩ := List.getElem?_eq_some_iff.mp hx
  have h := List.prefix_iff_getElem?.mp hq i (by simpa using hi)
  rwa [List.getElem_map] at h

/-- Rows whose frames begin `F` have distinct identifiers when `F`'s are. -/
theorem nodup_ids_of_frames_lead (hF : (F.map (·.1)).Nodup) {q : List StepRow} (hq : q.map frame <+: F) :
    (q.map StepRow.id).Nodup := by
  have h : q.map StepRow.id = (q.map frame).map (·.1) := by simp [frame]
  rw [h]
  exact hF.sublist (hq.map _).sublist

/-- Upserting rows whose frames begin `F` over rows whose frames begin `F` too, behind rows at
none of `F`'s identifiers, puts the new rows in front of the old rows past them. -/
theorem foldl_upsert_rows (hF : (F.map (·.1)).Nodup) {base : List StepRow}
    (hbase : ∀ r ∈ base, ∀ f ∈ F, r.id ≠ f.1) {R : List StepRow} (hR : R.map frame <+: F)
    {q : List StepRow} (hq : q.map frame <+: F) :
    q.foldl (fun rows r => upsert StepRow.id updateStep r rows) (base ++ R) = base ++ (q ++ R.drop q.length) := by
  -- by induction on the new rows from the end, each upsert one `upsert_at_place`
  induction q using List.reverseRecOn with
  | nil => simp
  | append_singleton q r ih =>
    have hq' : q.map frame <+: F := (List.prefix_append _ _).trans ((List.map_append ..) ▸ hq)
    have hr : F[q.length]? = some (frame r) := getElem?_of_frames_lead hq (by simp)
    have hnq : ∀ x ∈ q, x.id ≠ r.id := by
      have hnd := nodup_ids_of_frames_lead hF hq
      simp only [List.map_append, List.map_cons, List.map_nil, List.nodup_append, List.mem_singleton] at hnd
      exact fun x hx heq => hnd.2.2 _ (List.mem_map_of_mem hx) _ rfl heq
    have hnb : ∀ x ∈ base, x.id ≠ r.id := fun x hx =>
      hbase x hx _ (hq.subset (List.mem_map_of_mem (List.mem_append_right q (List.mem_singleton_self r))))
    -- the old row at the new row's place, if there is one, has the new row's frame
    have hold : ∀ x ∈ (R.drop q.length).head?, frame x = frame r := by
      intro x hx
      rw [List.head?_drop] at hx
      exact Option.some.inj ((getElem?_of_frames_lead hR hx).symm.trans hr)
    rw [List.foldl_append, ih hq', List.foldl_cons, List.foldl_nil, upsert_at_place hnb hnq hold,
      List.tail_drop]
    simp only [List.length_append, List.length_singleton, List.append_assoc, List.singleton_append]

end Laying

/-! ## Runs of saves -/

/-- A state of a run that leads to `st`: the same saga, definition and creation time, and a
history whose keys begin `st`'s. Along a run a history grows by new entries and settles its
last entry under its key, so every state saved on the way leads to the last. -/
structure Leads (st p : SagaState) : Prop where
  id : p.id = st.id
  definitionName : p.definitionName = st.definitionName
  createdAt : p.createdAt = st.createdAt
  keys : p.history.map HistoryEntry.key <+: st.history.map HistoryEntry.key

theorem Leads.refl (st : SagaState) : Leads st st := ⟨rfl, rfl, rfl, List.prefix_refl _⟩

theorem Leads.frames_prefix {st p : SagaState} (h : Leads st p) : frames p <+: frames st := by
  rw [frames, frames, h.id]
  exact h.keys.map _

/-- Tables that hold nothing of saga `st.id`: no saga row of it, no entry row of it, and no
entry row at the identifier of one of its entries. -/
structure Clear (t : Tables) (st : SagaState) : Prop where
  sagas : ∀ r ∈ t.sagas, r.id ≠ st.id
  steps : ∀ r ∈ t.steps, r.sagaId ≠ st.id
  ids : ∀ r ∈ t.steps, ∀ e ∈ st.history, r.id ≠ stepRowText st.id e

/-- Saves each state in turn, each at its own time. -/
def saveAll (t : Tables) (saves : List (SagaState × Instant)) : Tables :=
  saves.foldl (fun t s => t.save s.1 s.2) t

/-- Tables after saves of states that lead to `st`, over `base`: the rows of `base` as they
were, then at most one saga row, with `st`'s id, definition and creation time, and entry rows
with the frames of `st`'s first entries. -/
structure Laid (base : Tables) (st : SagaState) (t : Tables) : Prop where
  sagas : ∃ o : Option SagaRow, t.sagas = base.sagas ++ o.toList ∧
    ∀ r ∈ o, r.id = st.id ∧ r.definitionName = st.definitionName ∧ r.createdAt = st.createdAt.writeNanos
  steps : ∃ R : List StepRow, t.steps = base.steps ++ R ∧
    ∃ m ≤ st.history.length, R.map frame = (frames st).take m

theorem updateSaga_sagaRow {r : SagaRow} {p : SagaState} (hn : r.definitionName = p.definitionName)
    (hc : r.createdAt = p.createdAt.writeNanos) (now : Instant) : updateSaga r (sagaRow p now) = sagaRow p now := by
  simp [updateSaga, sagaRow, hn, hc]

section Laid

variable {base : Tables} {st : SagaState}

theorem Laid.start : Laid base st base :=
  ⟨⟨none, by simp, by simp⟩, ⟨[], by simp, 0, Nat.zero_le _, by simp⟩⟩

/-- No row of clear tables is at an identifier of `st`'s entries. -/
theorem Clear.ids_frames (hclear : base.Clear st) : ∀ r ∈ base.steps, ∀ f ∈ frames st, r.id ≠ f.1 := by
  intro r hr f hf
  simp only [frames, List.map_map, List.mem_map] at hf
  obtain ⟨e, he, rfl⟩ := hf
  exact hclear.ids r hr e he

variable (hclear : base.Clear st) (hids : ((frames st).map (·.1)).Nodup)
include hclear hids

/-- A save of a state that leads to `st` writes its saga row over the one there, and its entry
rows over the first of those there. -/
theorem Laid.save_eq {t : Tables} (hl : Laid base st t) {p : SagaState} (hp : Leads st p) (now : Instant) :
    ∃ R : List StepRow, (∃ m ≤ st.history.length, R.map frame = (frames st).take m) ∧
      t.save p now = { sagas := base.sagas ++ [sagaRow p now],
                       steps := base.steps ++ (entryRows p ++ R.drop p.history.length) } := by
  obtain ⟨o, hso, ho⟩ := hl.sagas
  obtain ⟨R, hst, m, hm, hR⟩ := hl.steps
  refine ⟨R, ⟨m, hm, hR⟩, ?_⟩
  have hbase : ∀ r ∈ base.sagas, r.id ≠ (sagaRow p now).id := fun r hr h =>
    hclear.sagas r hr (h.trans hp.id)
  have hsagas : upsert SagaRow.id updateSaga (sagaRow p now) t.sagas = base.sagas ++ [sagaRow p now] := by
    rw [hso, upsert_append_of_forall_ne _ _ hbase]
    cases o with
    | none => rfl
    | some r =>
      obtain ⟨hid, hn, hc⟩ := ho r rfl
      rw [Option.toList_some, upsert_cons_of_eq _ _ (hid.trans hp.id.symm),
        updateSaga_sagaRow (hn.trans hp.definitionName.symm) (hc.trans (congrArg _ hp.createdAt.symm))]
  have hq : (entryRows p).map frame <+: frames st := (map_frame_entryRows p).symm ▸ hp.frames_prefix
  have hRF : R.map frame <+: frames st := by
    rw [hR]
    exact List.take_prefix m _
  have hsteps := foldl_upsert_rows hids hclear.ids_frames hRF hq
  simp only [entryRows, List.length_map, List.length_zipIdx] at hsteps
  simp only [save, hsagas, hst, entryRows, hsteps]

/-- A save of a state that leads to `st` keeps the tables laid for `st`. -/
theorem Laid.save {t : Tables} (hl : Laid base st t) {p : SagaState} (hp : Leads st p) (now : Instant) :
    Laid base st (t.save p now) := by
  obtain ⟨R, ⟨m, hm, hR⟩, heq⟩ := hl.save_eq hclear hids hp now
  have hk : (frames p).length = p.history.length := length_frames p
  have hkn : p.history.length ≤ st.history.length := by
    have := hp.frames_prefix.length_le
    rwa [hk, length_frames] at this
  rw [heq]
  refine ⟨⟨some (sagaRow p now), rfl, fun r hr => ?_⟩, ⟨_, rfl, max m p.history.length, by omega, ?_⟩⟩
  · cases hr
    exact ⟨hp.id, hp.definitionName, congrArg Instant.writeNanos hp.createdAt⟩
  · rw [List.map_append, map_frame_entryRows, List.map_drop, hR, List.prefix_iff_eq_take.mp hp.frames_prefix,
      hk, take_append_drop_take]

/-- Saving `st` itself over tables laid for it leaves exactly its saga row and its entry rows
after the rows of `base`. -/
theorem Laid.save_self {t : Tables} (hl : Laid base st t) (now : Instant) :
    t.save st now = { sagas := base.sagas ++ [sagaRow st now], steps := base.steps ++ entryRows st } := by
  obtain ⟨R, ⟨m, hm, hR⟩, heq⟩ := hl.save_eq hclear hids (Leads.refl st) now
  have hlen : R.length ≤ st.history.length := by
    have := congrArg List.length hR
    simp only [List.length_map, List.length_take, length_frames] at this
    omega
  rw [heq, List.drop_eq_nil_of_le hlen, List.append_nil]

/-- Saves of states that lead to `st` keep the tables laid for `st`. -/
theorem saveAll_laid {saves : List (SagaState × Instant)} (hrun : ∀ s ∈ saves, Leads st s.1) :
    Laid base st (saveAll base saves) := by
  suffices h : ∀ t, Laid base st t → Laid base st (saves.foldl (fun t s => t.save s.1 s.2) t) from
    h base Laid.start
  induction saves with
  | nil => exact fun _ hl => hl
  | cons s saves ih =>
    intro t hl
    exact ih (fun x hx => hrun x (List.mem_cons_of_mem _ hx)) _
      (hl.save hclear hids (hrun s List.mem_cons_self) s.2)

end Laid

/-! ## Reading the rows back -/

section Readback

variable {base : Tables} {st : SagaState}

/-- Distinct keys of regular starts give distinct row identifiers, as far as the digest
separates them. -/
theorem ids_nodup (hrep : st.Replayable)
    (hhash : ∀ e ∈ st.history, ∀ e' ∈ st.history,
      stepRowText st.id e = stepRowText st.id e' → stepRowKey st.id e = stepRowKey st.id e') :
    ((frames st).map (·.1)).Nodup := by
  have hmap : (frames st).map (·.1) = st.history.map (stepRowText st.id) := by
    simp only [frames, List.map_map]
    rfl
  rw [hmap]
  have hk := hrep.keys
  rw [List.Nodup, List.pairwise_map] at hk ⊢
  exact hk.imp_of_mem fun ha hb hne heq =>
    hne ((stepRowKey_self_eq_iff (hrep.entries _ ha).started (hrep.entries _ hb).started).mp (hhash _ ha _ hb heq))

theorem filter_entryRows (hclear : base.Clear st) :
    (base.steps ++ entryRows st).filter (·.sagaId == st.id) = entryRows st := by
  have hb : base.steps.filter (·.sagaId == st.id) = [] :=
    List.filter_eq_nil_iff.mpr fun r hr => by simpa using hclear.steps r hr
  have he : (entryRows st).filter (·.sagaId == st.id) = entryRows st := by
    refine List.filter_eq_self.mpr fun r hr => ?_
    obtain ⟨e, -, i, rfl⟩ := mem_entryRows hr
    simp [stepRow]
  rw [List.filter_append, hb, he, List.nil_append]

/-- A history shorter than `2 ^ 63` keeps its places as positions, in order. -/
theorem pairwise_position_entryRows (hlen : st.history.length ≤ Nat.pow 2 63) :
    (entryRows st).Pairwise (fun a b => decide (a.position ≤ b.position) = true) := by
  rw [List.pairwise_iff_getElem]
  intro i j hi hj hij
  simp only [entryRows, List.length_map, List.length_zipIdx] at hi hj
  have h63 : Nat.pow 2 63 = 9223372036854775808 := rfl
  rw [h63] at hlen
  simp only [entryRows, List.getElem_map, List.getElem_zipIdx, stepRow, decide_eq_true_eq, Nat.zero_add]
  rw [toInt64_of_lt (by rw [h63]; omega), toInt64_of_lt (by rw [h63]; omega)]
  omega

/-- The saga row and the entry rows of `st` after the rows of clear tables read back as `st`. -/
theorem state?_laidOut (hclear : base.Clear st) (hrep : st.Replayable) (hlen : st.history.length ≤ Nat.pow 2 63)
    (hctx : Json.Shape.map.readText (Json.render (.obj st.context)) = .ok (.obj st.context)) (now : Instant) :
    ({ sagas := base.sagas ++ [sagaRow st now], steps := base.steps ++ entryRows st } : Tables).state? st.id =
      .ok st := by
  have hrow : (base.sagas ++ [sagaRow st now]).find? (·.id == st.id) = some (sagaRow st now) := by
    rw [List.find?_append, List.find?_eq_none.mpr fun r hr => by simpa using hclear.sagas r hr]
    simp [sagaRow]
  simp only [state?, sagaRow?, stepsOf, hrow, filter_entryRows hclear,
    List.mergeSort_of_pairwise (pairwise_position_entryRows hlen), stateOf_sagaRow hrep hctx now]

end Readback

end Tables

/-- An instance rebuilt from a state under the definition it names, with a context map that
rebuilds the context it came from, has that state. -/
theorem Instance.fromState_toState {st : SagaState} {d : Definition} {now : Instant} {fresh : String}
    {c : SagaContext} (hd : d.name = st.definitionName) (hc : SagaContext.ofMap st.context now fresh = .ok c)
    (hmap : c.toMap = st.context) : ∃ i, Instance.fromState st d now fresh = .ok i ∧ i.toState = st := by
  rw [Instance.fromState, if_neg (by simp [hd]), hc]
  exact ⟨_, rfl, by simp only [Instance.toState, hd, hmap]⟩

namespace Tables

/-- Saving the successive states of one saga's run as rows, over tables that hold nothing of
the saga: the rows read back as the last saved state, with one entry row per history entry;
saving that state again changes neither; and a load rebuilds the instance from the last saved
state, whose state it is whenever the saved context map rebuilds the context it came from.
Assumed of the last state: regular instants, counters that fit their columns, a history
shorter than `2 ^ 63` with distinct keys, a context whose text reads back, and a digest that
separates the keys of its entries. -/
theorem saved_rows_read_back_last_state {t : Tables} {st : SagaState} {saves : List (SagaState × Instant)}
    (hclear : t.Clear st) (hrep : st.Replayable) (hlen : st.history.length ≤ Nat.pow 2 63)
    (hctx : Json.Shape.map.readText (Json.render (.obj st.context)) = .ok (.obj st.context))
    (hhash : ∀ e ∈ st.history, ∀ e' ∈ st.history,
      stepRowText st.id e = stepRowText st.id e' → stepRowKey st.id e = stepRowKey st.id e')
    (hrun : ∀ s ∈ saves, Leads st s.1) (now : Instant) :
    let t' := saveAll t (saves ++ [(st, now)])
    t'.state? st.id = .ok st ∧
    (t'.steps.filter (·.sagaId == st.id)).length = st.history.length ∧
    (∀ now', (t'.save st now').steps = t'.steps ∧ (t'.save st now').state? st.id = .ok st) ∧
    (∀ registry d now' fresh, registry.get? st.definitionName = some d →
      t'.load registry st.id now' fresh = Instance.fromState st d now' fresh ∧
      ∀ c, d.name = st.definitionName → SagaContext.ofMap st.context now' fresh = .ok c →
        c.toMap = st.context → ∃ i, t'.load registry st.id now' fresh = .ok i ∧ i.toState = st) := by
  intro t'
  have hids := ids_nodup hrep hhash
  have hlaid : Laid t st t' :=
    saveAll_laid hclear hids fun s hs => (List.mem_append.mp hs).elim (hrun s) fun h => by
      rw [List.mem_singleton.mp h]
      exact Leads.refl st
  -- the run leaves the rows of `t`, then `st`'s saga row and its entry rows
  have hfinal : t' = { sagas := t.sagas ++ [sagaRow st now], steps := t.steps ++ entryRows st } := by
    simp only [t', saveAll, List.foldl_append, List.foldl_cons, List.foldl_nil]
    exact (saveAll_laid hclear hids hrun).save_self hclear hids now
  have hstate : t'.state? st.id = .ok st := hfinal ▸ state?_laidOut hclear hrep hlen hctx now
  have hload : ∀ registry d now' fresh, registry.get? st.definitionName = some d →
      t'.load registry st.id now' fresh = Instance.fromState st d now' fresh := by
    intro registry d now' fresh hd
    simp only [load, hstate, hd, bind, Except.bind]
  refine ⟨hstate, ?_, fun now' => ?_, fun registry d now' fresh hd => ⟨hload registry d now' fresh hd, ?_⟩⟩
  · rw [hfinal]
    show ((t.steps ++ entryRows st).filter (·.sagaId == st.id)).length = _
    rw [filter_entryRows hclear]
    simp [entryRows]
  · rw [hlaid.save_self hclear hids now', hfinal]
    exact ⟨rfl, state?_laidOut hclear hrep hlen hctx now'⟩
  · intro c hn hc hmap
    rw [hload registry d now' fresh hd]
    exact Instance.fromState_toState hn hc hmap

/-- The entry of the step `reserve`, started one second into 2024. -/
def reserveEntry (status : StepStatus) : HistoryEntry :=
  { stepName := "reserve", status, startedAt := secondOf2024 }

/-- An order saga with its step `reserve` in status `status`. -/
def reserveSaga (status : StepStatus) : SagaState :=
  { id := "order-1", definitionName := "order", status := .running, currentStep := 0, context := [],
    history := [reserveEntry status], createdAt := secondOf2024, startedAt := some secondOf2024,
    completedAt := none }

theorem reserveSaga_replayable (status : StepStatus) : (reserveSaga status).Replayable where
  step := show 0 < StoredEvent.wordBound by decide
  created := secondOf2024_regular
  started := fun t ht => by cases ht; exact secondOf2024_regular
  completed := fun t ht => by cases ht
  entries := fun e he => by
    rw [List.mem_singleton.mp he]
    exact ⟨secondOf2024_regular, (fun t ht => by cases ht), show 0 < Persist.Replay.attemptBound by decide⟩
  keys := List.nodup_singleton _

/-- Whether a reading gave the empty map. -/
def isEmptyMap (r : Except Json.ReadError Json) : Bool :=
  match r with
  | .ok (.obj []) => true
  | _ => false

theorem eq_of_isEmptyMap {r : Except Json.ReadError Json} (h : isEmptyMap r = true) : r = .ok (.obj []) := by
  unfold isEmptyMap at h
  split at h
  · rfl
  · cases h

/-- Saving an order saga with its step running and then completed, over empty tables: the
rows read back as the completed state, with one entry row. -/
theorem reserve_rows_read_back :
    (saveAll {} [(reserveSaga .running, secondOf2024), (reserveSaga .completed, secondOf2024)]).state?
        "order-1" = .ok (reserveSaga .completed) ∧
    ((saveAll {} [(reserveSaga .running, secondOf2024), (reserveSaga .completed, secondOf2024)]).steps.filter
        (·.sagaId == "order-1")).length = 1 := by
  have hclear : ({} : Tables).Clear (reserveSaga .completed) :=
    ⟨(fun _ h => by cases h), (fun _ h => by cases h), (fun _ h => by cases h)⟩
  -- the empty context map is written `{}`, which the reader evaluates back to the empty map
  have hctx : Json.Shape.map.readText (Json.render (.obj (reserveSaga .completed).context)) =
      .ok (.obj (reserveSaga .completed).context) :=
    eq_of_isEmptyMap (by decide +kernel)
  have hhash : ∀ e ∈ (reserveSaga .completed).history, ∀ e' ∈ (reserveSaga .completed).history,
      stepRowText "order-1" e = stepRowText "order-1" e' → stepRowKey "order-1" e = stepRowKey "order-1" e' := by
    intro e he e' he' _
    rw [List.mem_singleton.mp he, List.mem_singleton.mp he']
  have hrun : ∀ s ∈ [(reserveSaga .running, secondOf2024)], Leads (reserveSaga .completed) s.1 := by
    intro s hs
    rw [List.mem_singleton.mp hs]
    exact ⟨rfl, rfl, rfl, List.prefix_refl _⟩
  have h := @saved_rows_read_back_last_state {} (reserveSaga .completed) [(reserveSaga .running, secondOf2024)]
    hclear (reserveSaga_replayable .completed) (by decide) hctx hhash hrun secondOf2024
  exact ⟨h.1, h.2.1⟩

end Tables

end Saga
