import Saga.Proofs.Persist.Log

/-!
# Streams written by saves

A save appends one batch: its state event, a step event for every entry not saved yet, and
a checkpoint (`BatchOf`). `Written sid sts es` says that `es` is the stream that successful
saves of the states `sts` of saga `sid` leave, each save starting at the position the ones
before it left (`positionAfter`). Such a stream is numbered `1, …, n` with `n` the version
of `positionAfter sts`, each state event records the version before it, each checkpoint
its own version, and the stream ends in the checkpoint of the last save.

`scan` reads a stream forward. Checkpoints and state events set the position outright, so
a tail that ends in a checkpoint scans to that checkpoint whatever it starts from
(`scan_of_getLast`); step events only count (`foldl_scanStep_steps`).
-/

namespace Saga

namespace Persist

open EventLog

/-- The position a save of `st` from `p` leaves: past its state event, the step events of
the entries not saved yet and its checkpoint, with the count the checkpoint records. -/
def Position.next (p : Position) (st : SagaState) : Position :=
  ⟨p.version + (st.history.length - p.savedCount) + 2, max (settledLength st.history) p.savedCount⟩

/-- The position after saves of `sts`, the first one on an empty stream. -/
def positionAfter (sts : List SagaState) : Position := sts.foldl Position.next ⟨0, 0⟩

@[simp] theorem positionAfter_nil : positionAfter [] = ⟨0, 0⟩ := rfl

@[simp] theorem positionAfter_append (sts : List SagaState) (st : SagaState) :
    positionAfter (sts ++ [st]) = (positionAfter sts).next st := by
  simp [positionAfter]

/-- Every save moves the stream's version on, by its state event and checkpoint at least. -/
theorem positionAfter_version_lt {sts : List SagaState} {st : SagaState} :
    (positionAfter sts).version < (positionAfter (sts ++ [st])).version := by
  simp only [positionAfter_append, Position.next]
  omega

theorem settledLength_le (history : List HistoryEntry) : settledLength history ≤ history.length := by
  unfold settledLength
  split
  · split <;> omega
  · omega

@[simp] theorem isStepEvent_stepKind (s : StepStatus) : (stepKind s).isStepEvent = true := by
  cases s <;> rfl

theorem StepEventOf.isStepEvent {sid : String} {entry : HistoryEntry} {e : StoredEvent}
    (h : StepEventOf sid entry e) : e.kind.isStepEvent = true := by
  rw [h.kind]; exact isStepEvent_stepKind _

theorem forall₂_mem_right {α β : Type} {R : α → β → Prop} {l₁ : List α} {l₂ : List β}
    (h : List.Forall₂ R l₁ l₂) {b : β} (hb : b ∈ l₂) : ∃ a ∈ l₁, R a b := by
  induction h with
  | nil => simp at hb
  | cons hab _ ih =>
    rcases List.mem_cons.mp hb with rfl | hb
    · exact ⟨_, List.mem_cons_self, hab⟩
    · obtain ⟨a, ha, hr⟩ := ih hb
      exact ⟨a, List.mem_cons_of_mem _ ha, hr⟩

/-- The batch a save of `st` from `pos` appends, numbered on from `pos.version`. -/
inductive BatchOf (st : SagaState) (pos : Position) : List StoredEvent → Prop
  | mk {head : StoredEvent} {steps : List StoredEvent} {close : StoredEvent} :
      StateEventOf st pos head →
      List.Forall₂ (StepEventOf st.id) (st.history.drop pos.savedCount) steps →
      CheckpointOf st.id (pos.next st) close →
      NumberedFrom pos.version (head :: steps ++ [close]) →
      BatchOf st pos (head :: steps ++ [close])

/-- The stream that successful saves of `sts` of saga `sid` leave: each save starts from the
position the ones before it left, and has at least as many entries as that position
counts as saved. -/
inductive Written (sid : String) : List SagaState → List StoredEvent → Prop
  | nil : Written sid [] []
  | save {sts : List SagaState} {es : List StoredEvent} {st : SagaState} {b : List StoredEvent} :
      Written sid sts es → st.id = sid → (positionAfter sts).savedCount ≤ st.history.length →
      BatchOf st (positionAfter sts) b → Written sid (sts ++ [st]) (es ++ b)

theorem BatchOf.length {st : SagaState} {pos : Position} {b : List StoredEvent}
    (h : BatchOf st pos b) : pos.version + b.length = (pos.next st).version := by
  cases h with
  | mk _ hsteps _ _ =>
    have := hsteps.length_eq
    simp only [List.length_drop] at this
    simp only [Position.next, List.cons_append, List.length_cons, List.length_append,
      List.length_nil]
    omega

theorem BatchOf.close_version {pos : Position} {head close : StoredEvent}
    {steps : List StoredEvent} (hn : NumberedFrom pos.version (head :: steps ++ [close])) :
    close.version = pos.version + steps.length + 2 := by
  have h := (numberedFrom_append.mp hn).2
  simp only [NumberedFrom, List.length_cons] at h
  omega

/-- Every event of a batch is its state event, right after the position it starts from, a
step event, or its checkpoint, at the position it reaches. -/
theorem BatchOf.mem {st : SagaState} {pos : Position} {b : List StoredEvent} (h : BatchOf st pos b)
    {e : StoredEvent} (he : e ∈ b) :
    (StateEventOf st pos e ∧ e.version = pos.version + 1) ∨
      (e.kind.isStepEvent = true ∧ e.stream = st.id) ∨
      (CheckpointOf st.id (pos.next st) e ∧ e.version = (pos.next st).version) := by
  have hlen := h.length
  cases h with
  | mk hhead hsteps hclose hn =>
    simp only [List.cons_append, List.mem_cons, List.mem_append, List.not_mem_nil, or_false] at he
    rcases he with rfl | he | rfl
    · exact .inl ⟨hhead, hn.1⟩
    · obtain ⟨_, _, hs⟩ := forall₂_mem_right hsteps he
      exact .inr (.inl ⟨hs.isStepEvent, hs.stream⟩)
    · refine .inr (.inr ⟨hclose, ?_⟩)
      rw [BatchOf.close_version hn, ← hlen]
      simp only [List.cons_append, List.length_cons, List.length_append, List.length_nil]
      omega

namespace Written

variable {sid : String} {sts : List SagaState} {es : List StoredEvent}

theorem length (h : Written sid sts es) : es.length = (positionAfter sts).version := by
  induction h with
  | nil => rfl
  | save _ _ _ hb ih =>
    rw [List.length_append, ih, positionAfter_append, hb.length]

theorem numbered (h : Written sid sts es) : NumberedFrom 0 es := by
  induction h with
  | nil => trivial
  | @save sts es st b hw _ _ hb ih =>
    refine numberedFrom_append.mpr ⟨ih, ?_⟩
    rw [Nat.zero_add, hw.length]
    cases hb with
    | mk _ _ _ hn => exact hn

theorem savedCount_le (h : Written sid sts es) :
    (positionAfter sts).savedCount ≤ (positionAfter sts).version := by
  induction h with
  | nil => exact Nat.le_refl 0
  | @save sts es st b _ _ hc _ ih =>
    have := settledLength_le st.history
    simp only [positionAfter_append, Position.next]
    omega

theorem own (h : Written sid sts es) : ∀ e ∈ es, e.stream = sid := by
  induction h with
  | nil => simp
  | save _ hid _ hb ih =>
    intro e he
    rcases List.mem_append.mp he with he | he
    · exact ih e he
    · rw [← hid]
      rcases hb.mem he with ⟨hs, -⟩ | ⟨-, hs⟩ | ⟨hs, -⟩
      · exact hs.stream
      · exact hs
      · exact hs.stream

/-- Every state event records the version before it. -/
theorem stateEvent_last (h : Written sid sts es) :
    ∀ e ∈ es, e.kind = .stateChanged →
      e.get? MetaKey.lastSavedVersion = some (.ofNat (e.version - 1)) := by
  induction h with
  | nil => simp
  | save _ _ _ hb ih =>
    intro e he hk
    rcases List.mem_append.mp he with he | he
    · exact ih e he hk
    · rcases hb.mem he with ⟨hs, hv⟩ | ⟨hs, -⟩ | ⟨hs, -⟩
      · rw [hs.last, hv, Nat.add_sub_cancel]
      · simp [hk, EventKind.isStepEvent] at hs
      · rw [hs.kind] at hk; cases hk

/-- Every checkpoint records its own version. -/
theorem checkpoint_last (h : Written sid sts es) :
    ∀ e ∈ es, e.kind = .checkpoint → e.get? MetaKey.lastSavedVersion = some (.ofNat e.version) := by
  induction h with
  | nil => simp
  | save _ _ _ hb ih =>
    intro e he hk
    rcases List.mem_append.mp he with he | he
    · exact ih e he hk
    · rcases hb.mem he with ⟨hs, -⟩ | ⟨hs, -⟩ | ⟨hs, hv⟩
      · rw [hs.kind] at hk; cases hk
      · simp [hk, EventKind.isStepEvent] at hs
      · rw [hs.last, hv]

/-- A stream written by at least one save ends in the checkpoint of the last. -/
theorem ends_in_checkpoint (h : Written sid sts es) (hne : sts ≠ []) :
    ∃ es' close, es = es' ++ [close] ∧ CheckpointOf sid (positionAfter sts) close := by
  cases h with
  | nil => exact absurd rfl hne
  | @save _ es₀ _ _ _ hid _ hb =>
    cases hb with
    | @mk head steps close _ _ hclose _ =>
      rw [← hid, positionAfter_append]
      exact ⟨es₀ ++ head :: steps, close, by simp, hclose⟩

end Written

theorem getU64?_of_get? {e : StoredEvent} {k : String} {n : Nat}
    (h : e.get? k = some (.ofNat n)) (hn : n < StoredEvent.wordBound) : e.getU64? k = some n := by
  simp [StoredEvent.getU64?, h, Json.ofNat, hn]

theorem eq_of_getU64? {e : StoredEvent} {k : String} {n m : Nat}
    (h : e.get? k = some (.ofNat n)) (hm : e.getU64? k = some m) : m = n := by
  unfold StoredEvent.getU64? at hm
  rw [h] at hm
  simp only [Json.ofNat] at hm
  split at hm
  · exact (Option.some.inj hm).symm
  · cases hm

/-- A checkpoint or a state event sets the position outright. -/
theorem scanStep_reset (acc : Position × Bool) {e : StoredEvent} (hk : e.kind.isStepEvent = false)
    {c : Nat} (hc : e.getU64? MetaKey.savedHistoryCount = some c) :
    scanStep acc e = (⟨e.version, c⟩, false) := by
  simp [scanStep, hk, hc]

theorem scanStep_step (p : Position) (o : Bool) {e : StoredEvent} (hk : e.kind.isStepEvent = true) :
    scanStep (p, o) e = (⟨e.version, p.savedCount + 1⟩, e.kind == .stepStarted) := by
  simp [scanStep, hk]

/-- A tail that ends in a checkpoint or a state event scans to it, whatever it starts from. -/
theorem scan_of_getLast {es : List StoredEvent} {e : StoredEvent} (hl : es.getLast? = some e)
    (hk : e.kind.isStepEvent = false) {c : Nat} (hc : e.getU64? MetaKey.savedHistoryCount = some c)
    (pos : Position) : scan es pos = ⟨e.version, c⟩ := by
  obtain ⟨ys, rfl⟩ := List.getLast?_eq_some_iff.mp hl
  simp [scan, List.foldl_append, scanStep_reset _ hk hc]

theorem foldl_last {α β : Type} (f : α → β) (b : β) (l : List α) :
    l.foldl (fun _ a => f a) b = (l.getLast?.map f).getD b := by
  induction l generalizing b with
  | nil => rfl
  | cons a l ih =>
    rw [List.foldl_cons, ih, List.getLast?_cons]
    cases l.getLast? <;> rfl

/-- Step events after the position `p` each count once; the last one says whether the scan
is left open. -/
theorem foldl_scanStep_steps {sid : String} {entries : List HistoryEntry} {steps : List StoredEvent}
    (h : List.Forall₂ (StepEventOf sid) entries steps) {v : Nat} (hn : NumberedFrom v steps)
    (p : Position) (hp : p.version = v) (o : Bool) :
    steps.foldl scanStep (p, o) =
      (⟨v + entries.length, p.savedCount + entries.length⟩,
        entries.foldl (fun _ entry => stepKind entry.status == .stepStarted) o) := by
  induction h generalizing p v o with
  | nil => simp [← hp]
  | @cons entry e entries steps hs _ ih =>
    rw [List.foldl_cons, scanStep_step _ _ hs.isStepEvent, ih hn.2 _ hn.1, hs.kind]
    simp only [List.length_cons, List.foldl_cons, Prod.mk.injEq, Position.mk.injEq, and_true]
    omega

/-- Scanning on from a state event, followed only by the step events of `entries`: the count
the state event records plus one per entry, less one when the last entry only started. -/
theorem scan_after_state {ys steps : List StoredEvent} (head : StoredEvent) {sid : String}
    {entries : List HistoryEntry} (hk : head.kind.isStepEvent = false) {c : Nat}
    (hc : head.getU64? MetaKey.savedHistoryCount = some c)
    (hs : List.Forall₂ (StepEventOf sid) entries steps) (hn : NumberedFrom head.version steps)
    (pos : Position) :
    scan (ys ++ head :: steps) pos =
      ⟨head.version + entries.length, c + entries.length -
        (entries.foldl (fun _ entry => stepKind entry.status == .stepStarted) false).toNat⟩ := by
  unfold scan
  rw [List.foldl_append, List.foldl_cons, scanStep_reset _ hk hc, foldl_scanStep_steps hs hn _ rfl]
  cases entries.foldl (fun _ entry => stepKind entry.status == .stepStarted) false <;> rfl

/-- The count the scan after the last state event ends with is the one the save recorded,
unless the last entry is pending: it is written as started but counted as saved. -/
theorem stripped_count {history : List HistoryEntry} {c : Nat} (hc : c ≤ history.length)
    (hp : ∀ e ∈ history.getLast?, e.status ≠ .pending) :
    c + (history.drop c).length -
        ((history.drop c).foldl (fun _ e => stepKind e.status == .stepStarted) false).toNat =
      max (settledLength history) c := by
  rw [foldl_last, List.getLast?_drop, List.length_drop]
  unfold settledLength
  by_cases hle : history.length ≤ c
  · have := settledLength_le history
    unfold settledLength at this
    simp only [hle, if_true, Option.map_none, Option.getD_none, Bool.toNat_false]
    omega
  · rw [if_neg hle]
    cases hl : history.getLast? with
    | none => simp_all
    | some e =>
      have hpe : e.status ≠ .pending := hp e hl
      -- apart from a pending entry, an entry is written as started exactly when it runs
      have hflag : (stepKind e.status == .stepStarted) = (e.status == .running) := by
        cases hst : e.status <;> first | exact absurd hst hpe | rfl
      simp only [Option.map_some, Option.getD_some, hflag]
      cases e.status == .running <;> simp <;> omega

theorem StepEventOf.renumber {sid : String} {entry : HistoryEntry} {e : StoredEvent}
    (h : StepEventOf sid entry e) (v : Nat) : StepEventOf sid entry { e with version := v } :=
  ⟨h.kind, h.stream, h.name, h.status, h.started, h.attempt, h.completed, h.errorMessage, h.error⟩

theorem StateEventOf.renumber {st : SagaState} {pos : Position} {e : StoredEvent}
    (h : StateEventOf st pos e) (v : Nat) : StateEventOf st pos { e with version := v } :=
  ⟨h.kind, h.stream, h.status, h.step, h.context, h.name, h.count, h.last, h.created, h.started,
    h.completed⟩

theorem CheckpointOf.renumber {sid : String} {p : Position} {e : StoredEvent}
    (h : CheckpointOf sid p e) (v : Nat) : CheckpointOf sid p { e with version := v } :=
  ⟨h.kind, h.stream, h.last, h.count⟩

theorem forall₂_stamp {sid : String} {entries : List HistoryEntry} {steps : List StoredEvent}
    (h : List.Forall₂ (StepEventOf sid) entries steps) (n : Nat) :
    List.Forall₂ (StepEventOf sid) entries (stamp n steps) := by
  induction h generalizing n with
  | nil => exact .nil
  | cons hs _ ih => exact .cons (hs.renumber _) (ih _)

/-- The position the checkpoint of a save records, as the save computes it, is the next one. -/
theorem checkpoint_position (p : Position) (st : SagaState) :
    (⟨p.version + (1 + (st.history.drop p.savedCount).length) + 1,
      (settledLength st.history).max p.savedCount⟩ : Position) = p.next st := by
  simp only [Position.next, List.length_drop, Position.mk.injEq, and_true]
  omega

/-- The events a save builds, once the store numbers them on from `pos.version`, are a
batch. -/
theorem batchOf_stamp {st : SagaState} {pos : Position} {head close : StoredEvent}
    {steps : List StoredEvent} (hhead : StateEventOf st pos head)
    (hsteps : List.Forall₂ (StepEventOf st.id) (st.history.drop pos.savedCount) steps)
    (hclose : CheckpointOf st.id (pos.next st) close) :
    BatchOf st pos (stamp pos.version (head :: steps ++ [close])) := by
  have hshape : stamp pos.version (head :: steps ++ [close]) =
      { head with version := pos.version + 1 } :: stamp (pos.version + 1) steps ++
        [{ close with version := pos.version + 1 + steps.length + 1 }] := by
    have hv : pos.version + (head :: steps).length = pos.version + 1 + steps.length := by
      rw [List.length_cons]
      omega
    rw [stamp_append, hv]
    rfl
  rw [hshape]
  refine BatchOf.mk (hhead.renumber _) (forall₂_stamp hsteps _) (hclose.renumber _) ?_
  rw [← hshape]
  exact numberedFrom_stamp _ _

/-- A stream without its checkpoints, numbered again from one. -/
def stripped (es : List StoredEvent) : List StoredEvent :=
  stamp 0 (es.filter (·.kind != .checkpoint))

/-- Without its checkpoint, a batch is its state event and its step events. -/
theorem BatchOf.filter_checkpoint {st : SagaState} {pos : Position} {head close : StoredEvent}
    {steps : List StoredEvent} (hhead : StateEventOf st pos head)
    (hsteps : List.Forall₂ (StepEventOf st.id) (st.history.drop pos.savedCount) steps)
    (hclose : CheckpointOf st.id (pos.next st) close) :
    (head :: steps ++ [close]).filter (·.kind != .checkpoint) = head :: steps := by
  have hs : steps.filter (·.kind != .checkpoint) = steps := by
    refine List.filter_eq_self.mpr fun e he => ?_
    obtain ⟨_, _, hse⟩ := forall₂_mem_right hsteps he
    have := hse.isStepEvent
    revert this
    cases e.kind <;> decide
  rw [List.filter_append, List.filter_cons_of_pos (by rw [hhead.kind]; decide), hs,
    List.filter_cons_of_neg (by rw [hclose.kind]; decide), List.filter_nil, List.append_nil]

/-- A written stream with the last batch's checkpoint removed and everything numbered again:
what the earlier saves left, then the last state event and step events, numbered on. -/
theorem stripped_append {es₀ : List StoredEvent} {st : SagaState} {pos : Position}
    {head close : StoredEvent} {steps : List StoredEvent} (hhead : StateEventOf st pos head)
    (hsteps : List.Forall₂ (StepEventOf st.id) (st.history.drop pos.savedCount) steps)
    (hclose : CheckpointOf st.id (pos.next st) close) :
    stripped (es₀ ++ (head :: steps ++ [close])) =
      stripped es₀ ++ { head with version := (stripped es₀).length + 1 } ::
        stamp ((stripped es₀).length + 1) steps := by
  unfold stripped
  rw [List.filter_append, BatchOf.filter_checkpoint hhead hsteps hclose, stamp_append]
  simp [stamp]

theorem stripped_numbered (es : List StoredEvent) : NumberedFrom 0 (stripped es) :=
  numberedFrom_stamp 0 _

theorem kind_ne_checkpoint_of_mem_stripped {es : List StoredEvent} {e : StoredEvent}
    (he : e ∈ stripped es) : e.kind ≠ .checkpoint := by
  have hm : e.kind ∈ (stripped es).map (·.kind) := List.mem_map_of_mem he
  unfold stripped at hm
  rw [map_stamp _ (fun _ _ => rfl)] at hm
  obtain ⟨x, hx, hxk⟩ := List.mem_map.mp hm
  have := (List.mem_filter.mp hx).2
  rw [hxk] at this
  simpa using this

namespace Written

variable {sid : String} {sts : List SagaState} {es : List StoredEvent}

/-- Every tail of a written stream scans to the position the saves left, whatever it starts
from: the stream ends in the last save's checkpoint. -/
theorem scan_drop (h : Written sid sts es) (hbound : (positionAfter sts).version < StoredEvent.wordBound)
    {k : Nat} (hk : k < es.length) (pos : Position) : scan (es.drop k) pos = positionAfter sts := by
  have hne : sts ≠ [] := by
    rintro rfl
    have hlen : es.length = 0 := h.length
    omega
  obtain ⟨es', close, rfl, hclose⟩ := h.ends_in_checkpoint hne
  have hv : close.version = (positionAfter sts).version := by
    have hn := (numberedFrom_append.mp h.numbered).2
    rw [← h.length]
    simp only [NumberedFrom] at hn
    simp [hn.1]
  have hcount : (positionAfter sts).savedCount < StoredEvent.wordBound :=
    Nat.lt_of_le_of_lt h.savedCount_le hbound
  have hlast : (es'.drop k ++ [close]).getLast? = some close := by simp
  rw [List.length_append, List.length_singleton, Nat.lt_succ_iff] at hk
  rw [List.drop_append_of_le_length hk, scan_of_getLast hlast (by rw [hclose.kind]; rfl)
    (getU64?_of_get? hclose.count hcount), hv]

/-- Once its checkpoints are removed and the rest numbered again, every tail of a written
stream that still holds a state event scans to the stream's length and the count the last
save recorded, when the last save's history does not end in a pending entry. -/
theorem scan_stripped (h : Written sid sts es) (hbound : (positionAfter sts).version < StoredEvent.wordBound)
    (hp : ∀ st ∈ sts.getLast?, ∀ e ∈ st.history.getLast?, e.status ≠ .pending)
    {k : Nat} (hk : ∃ e ∈ (stripped es).drop k, e.kind = .stateChanged) (pos : Position) :
    scan ((stripped es).drop k) pos = ⟨(stripped es).length, (positionAfter sts).savedCount⟩ := by
  cases h with
  | nil => simp [stripped, stamp] at hk
  | @save init es₀ st b hw hid hc hb =>
    cases hb with
    | @mk head steps close hhead hsteps hclose hn =>
      rw [stripped_append hhead hsteps hclose] at hk ⊢
      generalize stripped es₀ = ys at hk ⊢
      -- the tail reaches back to this save's state event at least: the step events after it
      -- hold none
      have hle : k ≤ ys.length := by
        refine Nat.le_of_not_lt fun hlt => ?_
        obtain ⟨e, he, hek⟩ := hk
        rw [List.drop_append, List.drop_eq_nil_of_le (Nat.le_of_lt hlt), List.nil_append,
          show k - ys.length = (k - ys.length - 1) + 1 by omega, List.drop_succ_cons] at he
        have hm : e.kind ∈ (stamp (ys.length + 1) steps).map (·.kind) :=
          List.mem_map_of_mem (List.mem_of_mem_drop he)
        rw [map_stamp _ (fun _ _ => rfl)] at hm
        obtain ⟨x, hx, hxk⟩ := List.mem_map.mp hm
        obtain ⟨_, _, hxs⟩ := forall₂_mem_right hsteps hx
        have := hxs.isStepEvent
        rw [hxk, hek] at this
        cases this
      have hcount : (positionAfter init).savedCount < StoredEvent.wordBound := by
        have := hw.savedCount_le
        simp only [positionAfter_append, Position.next] at hbound
        omega
      rw [List.drop_append_of_le_length hle,
        scan_after_state { head with version := ys.length + 1 } (by rw [hhead.kind]; rfl)
          (getU64?_of_get? hhead.count hcount) (forall₂_stamp hsteps _) (numberedFrom_stamp _ _) pos,
        stripped_count hc (hp st (by simp))]
      have := hsteps.length_eq
      simp only [List.length_append, List.length_cons, length_stamp, positionAfter_append,
        Position.next, Position.mk.injEq, and_true]
      omega

/-- A stream written by at least one save keeps a state event once its checkpoints are
removed. -/
theorem exists_stateEvent_stripped (h : Written sid sts es) (hne : sts ≠ []) :
    ∃ e ∈ stripped es, e.kind = .stateChanged := by
  cases h with
  | nil => exact absurd rfl hne
  | save _ _ _ hb =>
    cases hb with
    | mk hhead hsteps hclose _ =>
      rw [stripped_append hhead hsteps hclose]
      exact ⟨_, List.mem_append_right _ List.mem_cons_self, hhead.kind⟩

end Written

end Persist

end Saga
