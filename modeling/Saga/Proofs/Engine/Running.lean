import Mathlib.Data.Finset.Card
import Saga.Engine.Orchestrator

/-!
# The running set of the orchestrator

The orchestrator keeps the sagas it runs in a map from saga id to the run's generation and
cancellation token (`World.running`), and numbers its runs with a counter
(`World.generations`). Three atomic steps change them: tracking a run of a saga (`World.track`,
inside starting, executing and resuming), cancelling a saga (`World.dropRunning`, then cancelling
the token it answered), and the end of a run (`Orchestrator.release`, when a tracked run returns
or its task halts).

The protocol keeps a ledger of the runs tracked so far, oldest first, each marked once it was
cancelled or has ended. A saga's live run is its most recently tracked run while that is
neither cancelled nor ended (`Ledger.entry`). `Protocol.run` plays any interleaving of the three
steps over any saga ids from a fresh orchestrator, and `running_set_follows_ledger` says that
after every one of them the orchestrator answers as the ledger says (`Follows`): the running map
holds exactly the live runs, each under its generation, which is its place in the ledger, and
the token it was given; tracking is refused exactly for a saga with a live run; cancelling
succeeds exactly then and cancels that run's token and no other run's; the running count is the
number of sagas with a live run; and the end of a run after a newer run of its saga was tracked
leaves the map alone, since a run is removed only under the generation it was tracked with.

`Inv` is the invariant behind it, kept by each of the three steps (`Inv.track`, `Inv.cancel`,
`Inv.finish`). Cancelling a token cancels every token below it; run tokens are roots, so that
reaches no other run (`World.isCancelled_cancel_root`).
-/

namespace Saga

namespace World

/-! ## Cancelling a token -/

theorem length_spread : ∀ (ts : List Token) (marks : List Bool),
    (spread ts marks).length = marks.length + ts.length
  | [], marks => by simp [spread]
  | tok :: rest, marks => by
    rw [spread, length_spread rest]
    simp only [List.length_append, List.length_cons, List.length_nil]
    omega

theorem spread_getElem?_lt : ∀ (ts : List Token) (marks : List Bool) {k : Nat}, k < marks.length →
    (spread ts marks)[k]? = marks[k]?
  | [], marks, k, _ => by simp [spread]
  | tok :: rest, marks, k, hk => by
    rw [spread, spread_getElem?_lt rest _ (by simp; omega), List.getElem?_append_left hk]

/-- A token without a parent keeps its own mark. -/
theorem spread_getElem?_root : ∀ (ts : List Token) (marks : List Bool) {j : Nat} (hj : j < ts.length),
    ts[j].parent = none → (spread ts marks)[marks.length + j]? = some ts[j].cancelled
  | [], _, j, hj, _ => by simp at hj
  | tok :: rest, marks, 0, _, hroot => by
    simp only [List.getElem_cons_zero] at hroot
    rw [spread, spread_getElem?_lt rest _ (by simp)]
    simp [hroot]
  | tok :: rest, marks, j + 1, hj, hroot => by
    rw [spread, show marks.length + (j + 1) = (marks ++ [_]).length + j by simp; omega]
    exact spread_getElem?_root rest _ (by simpa using hj) hroot

/-- Cancelling keeps every token's parent. -/
theorem cancel_parents (w : World) (t : Nat) :
    (w.cancel t).tokens.map (·.parent) = w.tokens.map (·.parent) := by
  have hlen : (w.tokens.mapIdx fun i tok => if i == t then { tok with cancelled := true } else tok).length ≤
      (spread (w.tokens.mapIdx fun i tok => if i == t then { tok with cancelled := true } else tok) []).length := by
    rw [length_spread]; simp
  simp only [cancel, List.map_map]
  rw [show ((·.parent) ∘ fun (x : Token × Bool) => ({ x.1 with cancelled := x.2 } : Token)) =
      (·.parent) ∘ Prod.fst from rfl, ← List.map_map, List.map_fst_zip hlen]
  apply List.ext_getElem (by simp)
  intro n h₁ h₂
  simp only [List.getElem_map, List.getElem_mapIdx]
  split <;> rfl

/-- The cancellation flags after cancelling `t`: those `spread` computes from `t`'s mark. -/
theorem cancel_flags (w : World) (t : Nat) :
    (w.cancel t).tokens.map (·.cancelled) =
      spread (w.tokens.mapIdx fun i tok => if i == t then { tok with cancelled := true } else tok) [] := by
  have hlen : (spread (w.tokens.mapIdx fun i tok => if i == t then { tok with cancelled := true } else tok)
      []).length ≤ (w.tokens.mapIdx fun i tok => if i == t then { tok with cancelled := true } else tok).length := by
    rw [length_spread]; simp
  simp only [cancel, List.map_map]
  rw [show ((·.cancelled) ∘ fun (x : Token × Bool) => ({ x.1 with cancelled := x.2 } : Token)) = Prod.snd
    from rfl, List.map_snd_zip hlen]

/-- Cancelling token `t` marks a root token when it is `t`, and leaves it alone otherwise. -/
theorem isCancelled_cancel_root (w : World) {t j : Nat} (hroot : (w.tokens[j]?).map (·.parent) = some none) :
    (w.cancel t).isCancelled j = (j == t || w.isCancelled j) := by
  obtain ⟨tok, htok, hp⟩ := Option.map_eq_some_iff.mp hroot
  obtain ⟨hj, rfl⟩ := List.getElem?_eq_some_iff.mp htok
  have hc := cancel_flags w t
  set marks := w.tokens.mapIdx fun i tok => if i == t then { tok with cancelled := true } else tok
  have hjm : j < marks.length := by simpa [marks] using hj
  have hmark : marks[j].parent = none ∧ marks[j].cancelled = (j == t || w.tokens[j].cancelled) := by
    simp only [marks, List.getElem_mapIdx]
    by_cases hjt : j = t
    · subst hjt; simp [hp]
    · simp [hjt, hp]
  have hs := spread_getElem?_root marks [] hjm hmark.1
  simp only [List.length_nil, Nat.zero_add, hmark.2] at hs
  have hflag := congrArg (·[j]?) hc
  simp only [List.getElem?_map] at hflag
  simp only [isCancelled, htok, Option.map_some, Option.getD_some, hflag, hs]

/-! ## The orchestrator's updates -/

theorem isRunning_eq_false {w : World} {id : String} :
    w.isRunning id = false ↔ ∀ t ∈ w.running, t.sagaId ≠ id := by
  simp [isRunning]

theorem track_of_running {w : World} {id : String} (h : w.isRunning id = true) :
    w.track id = (.error ((Error.invalidState ("saga " ++ id ++ " is already running")).withContext "saga_id" id), w) := by
  simp [track, h]

/-- A saga not running gets the next generation and a new root token, at the end of the map. -/
theorem track_of_not_running {w : World} {id : String} (h : w.isRunning id = false) :
    w.track id = (.ok ⟨id, w.generations, w.tokens.length⟩,
      { w with tokens := w.tokens ++ [{ parent := none }], running := w.running ++ [⟨id, w.generations, w.tokens.length⟩],
               generations := w.generations + 1 }) := by
  simp [track, h, newToken]

theorem dropRunning_of_find {w : World} {id : String} {t : Tracked} (h : w.running.find? (·.sagaId == id) = some t) :
    w.dropRunning id = (some t, { w with running := w.running.filter (·.sagaId != id) }) := by
  simp [dropRunning, h]

theorem dropRunning_of_find_none {w : World} {id : String} (h : w.running.find? (·.sagaId == id) = none) :
    w.dropRunning id = (none, w) := by
  simp [dropRunning, h]

end World

namespace Engine.Orchestrator

/-! ## Runs and their ledger -/

/-- A run of a saga as the protocol sees it: how it was tracked, and whether it was cancelled or
has ended. -/
structure Run where
  tracked : Tracked
  cancelled : Bool := false
  ended : Bool := false

/-- A run that was neither cancelled nor ended. -/
def Run.live (r : Run) : Bool := !r.cancelled && !r.ended

/-- The runs tracked so far, oldest first. -/
abbrev Ledger := List Run

namespace Ledger

/-- The most recently tracked run of saga `id`. -/
def latest (L : Ledger) (id : String) : Option Run := L.reverse.find? (·.tracked.sagaId == id)

/-- The live run of saga `id`: its most recently tracked run, unless that was cancelled or has
ended. -/
def entry (L : Ledger) (id : String) : Option Tracked := ((L.latest id).filter Run.live).map Run.tracked

/-- Whether saga `id` has a live run. -/
def live (L : Ledger) (id : String) : Bool := (L.entry id).isSome

/-- Marks the run of generation `g` with `f`. -/
def mark (L : Ledger) (g : Nat) (f : Run → Run) : Ledger :=
  L.map fun r => if r.tracked.generation = g then f r else r

variable {L : Ledger} {id : String}

theorem latest_append (L : Ledger) (r : Run) (id : String) :
    (L ++ [r]).latest id = if r.tracked.sagaId = id then some r else L.latest id := by
  by_cases h : r.tracked.sagaId = id <;> simp [latest, h]

/-- Marking keeps which run is a saga's latest. -/
theorem latest_mark (L : Ledger) (g : Nat) {f : Run → Run} (hf : ∀ r, (f r).tracked = r.tracked) (id : String) :
    (L.mark g f).latest id = (L.latest id).map fun r => if r.tracked.generation = g then f r else r := by
  simp only [latest, mark, ← List.map_reverse, List.find?_map]
  congr 2
  funext r
  simp only [Function.comp]
  split <;> simp [hf]

theorem mem_of_latest {r : Run} (h : L.latest id = some r) : r ∈ L ∧ r.tracked.sagaId = id :=
  ⟨List.mem_reverse.mp (List.mem_of_find?_eq_some h), by simpa using List.find?_some h⟩

theorem latest_eq_none : L.latest id = none ↔ ∀ r ∈ L, r.tracked.sagaId ≠ id := by
  simp [latest]

theorem entry_eq_some {t : Tracked} : L.entry id = some t ↔ ∃ r, L.latest id = some r ∧ r.live ∧ r.tracked = t := by
  simp only [entry, Option.map_eq_some_iff, Option.filter_eq_some_iff]
  constructor
  · rintro ⟨r, ⟨hr, hl⟩, rfl⟩; exact ⟨r, hr, hl, rfl⟩
  · rintro ⟨r, hr, hl, rfl⟩; exact ⟨r, ⟨hr, hl⟩, rfl⟩

theorem sagaId_of_entry {t : Tracked} (h : L.entry id = some t) : t.sagaId = id := by
  obtain ⟨r, hr, -, rfl⟩ := entry_eq_some.mp h
  exact (mem_of_latest hr).2

/-- A fresh run at the end is its saga's live run. -/
theorem entry_append (L : Ledger) (t : Tracked) (x : String) :
    (L ++ [({ tracked := t } : Run)]).entry x = if t.sagaId = x then some t else L.entry x := by
  by_cases h : t.sagaId = x <;> simp [entry, latest_append, h, Run.live]

/-- Marking a run other than a saga's latest leaves the saga's live run. -/
theorem entry_mark_of_ne {g : Nat} {f : Run → Run} (hf : ∀ r, (f r).tracked = r.tracked)
    (hg : ∀ r, L.latest id = some r → r.tracked.generation ≠ g) : (L.mark g f).entry id = L.entry id := by
  rw [entry, entry, latest_mark L g hf]
  cases h : L.latest id with
  | none => rfl
  | some r => simp [hg r h]

/-- Marking a saga's latest run so that it is no longer live leaves the saga without a live run. -/
theorem entry_mark_of_eq {g : Nat} {f : Run → Run} (hf : ∀ r, (f r).tracked = r.tracked)
    (hdead : ∀ r, (f r).live = false) {r : Run} (hr : L.latest id = some r) (hg : r.tracked.generation = g) :
    (L.mark g f).entry id = none := by
  simp [entry, latest_mark L g hf, hr, hg, hdead]

theorem length_mark (L : Ledger) (g : Nat) (f : Run → Run) : (L.mark g f).length = L.length := by
  simp [mark]

theorem tracked_mark {g : Nat} {f : Run → Run} (hf : ∀ r, (f r).tracked = r.tracked) :
    (L.mark g f).map (·.tracked) = L.map (·.tracked) := by
  simp only [mark, List.map_map]
  congr 1
  funext r
  simp only [Function.comp]
  split <;> simp [hf]

theorem mem_mark {g : Nat} {f : Run → Run} (hf : ∀ r, (f r).tracked = r.tracked) {r : Run} (h : r ∈ L.mark g f) :
    ∃ r₀ ∈ L, r.tracked = r₀.tracked := by
  obtain ⟨r₀, hr₀, rfl⟩ := List.mem_map.mp h
  exact ⟨r₀, hr₀, by split <;> simp [hf]⟩

end Ledger

/-! ## The protocol -/

/-- A step of the running-set protocol. -/
inductive Op where
  /-- Tracking a run of saga `id`. -/
  | track (id : String)
  /-- Cancelling saga `id`. -/
  | cancel (id : String)
  /-- The end of the run of generation `g`. -/
  | finish (g : Nat)

/-- The world of an orchestrator together with the ledger of its runs. -/
structure Protocol where
  world : World
  ledger : Ledger

namespace Protocol

/-- A fresh orchestrator in world `w`: nothing runs and no run was numbered. -/
def start (w : World) : Protocol := ⟨{ w with running := [], generations := 0 }, []⟩

/-- One step, as the orchestrator makes it, recorded in the ledger. -/
def step (s : Protocol) : Op → Protocol
  | .track id =>
    match s.world.track id with
    | (.ok t, w) => ⟨w, s.ledger ++ [{ tracked := t }]⟩
    | (.error _, w) => ⟨w, s.ledger⟩
  | .cancel id =>
    match s.world.dropRunning id with
    | (some t, w) => ⟨w.cancel t.token, s.ledger.mark t.generation fun r => { r with cancelled := true }⟩
    | (none, w) => ⟨w, s.ledger⟩
  | .finish g =>
    match s.ledger[g]? with
    | some r => ⟨release r.tracked s.world, s.ledger.mark g fun r => { r with ended := true }⟩
    | none => s

/-- Plays the steps in order. -/
def run (s : Protocol) (ops : List Op) : Protocol := ops.foldl step s

/-- What every state the protocol reaches keeps. -/
structure Inv (s : Protocol) : Prop where
  /-- The counter has numbered every run. -/
  generations : s.world.generations = s.ledger.length
  /-- A run's generation is its place in the ledger. -/
  numbered : ∀ g (h : g < s.ledger.length), s.ledger[g].tracked.generation = g
  /-- The running map holds exactly the live runs. -/
  running : ∀ t, t ∈ s.world.running ↔ s.ledger.entry t.sagaId = some t
  /-- One entry per saga. -/
  nodup : (s.world.running.map (·.sagaId)).Nodup
  /-- Every run's token is a root token. -/
  roots : ∀ r ∈ s.ledger, (s.world.tokens[r.tracked.token]?).map (·.parent) = some none
  /-- Runs have distinct tokens. -/
  tokens : (s.ledger.map (·.tracked.token)).Nodup

namespace Inv

variable {s : Protocol}

theorem start (w : World) : Inv (start w) where
  generations := rfl
  numbered := by simp [Protocol.start]
  running := by simp [Protocol.start, Ledger.entry, Ledger.latest]
  nodup := by simp [Protocol.start]
  roots := by simp [Protocol.start]
  tokens := by simp [Protocol.start]

/-- Runs are told apart by their generations. -/
theorem eq_of_generation (h : Inv s) {r r' : Run} (hr : r ∈ s.ledger) (hr' : r' ∈ s.ledger)
    (hg : r.tracked.generation = r'.tracked.generation) : r = r' := by
  obtain ⟨a, ha, rfl⟩ := List.mem_iff_getElem.mp hr
  obtain ⟨b, hb, rfl⟩ := List.mem_iff_getElem.mp hr'
  rw [h.numbered a ha, h.numbered b hb] at hg
  subst hg
  rfl

theorem find?_running (h : Inv s) (id : String) : s.world.running.find? (·.sagaId == id) = s.ledger.entry id := by
  cases hf : s.world.running.find? (·.sagaId == id) with
  | some t =>
    have hid : t.sagaId = id := by simpa using List.find?_some hf
    rw [← hid, ← (h.running t).mp (List.mem_of_find?_eq_some hf)]
  | none =>
    cases he : s.ledger.entry id with
    | none => rfl
    | some t =>
      have hid := Ledger.sagaId_of_entry he
      have hmem := (h.running t).mpr (hid ▸ he)
      simp only [List.find?_eq_none] at hf
      exact absurd (by simpa using hid) (hf t hmem)

theorem isRunning_eq (h : Inv s) (id : String) : s.world.isRunning id = s.ledger.live id := by
  rw [World.isRunning, Ledger.live, ← h.find?_running]
  exact Bool.eq_iff_iff.mpr (by simp [List.find?_isSome])

theorem token_lt (h : Inv s) {r : Run} (hr : r ∈ s.ledger) : r.tracked.token < s.world.tokens.length := by
  obtain ⟨tok, htok, -⟩ := Option.map_eq_some_iff.mp (h.roots r hr)
  exact (List.getElem?_eq_some_iff.mp htok).1

/-- Tracking a saga already running changes nothing. -/
theorem step_track_of_running {id : String} (hrun : s.world.isRunning id = true) : s.step (.track id) = s := by
  simp only [Protocol.step, World.track_of_running hrun]

theorem track (h : Inv s) (id : String) : Inv (s.step (.track id)) := by
  cases hrun : s.world.isRunning id with
  | true => rw [step_track_of_running hrun]; exact h
  | false =>
    have hout := World.isRunning_eq_false.mp hrun
    simp only [Protocol.step, World.track_of_not_running hrun]
    refine ⟨by simp [h.generations], ?_, ?_, ?_, ?_, ?_⟩
    · -- the new run sits at the end, numbered by the counter
      intro g hg
      simp only [List.length_append, List.length_singleton] at hg
      rcases Nat.lt_succ_iff_lt_or_eq.mp hg with hg | rfl
      · rw [List.getElem_append_left hg]; exact h.numbered g hg
      · simp [h.generations]
    · intro t
      rw [Ledger.entry_append, List.mem_append, List.mem_singleton]
      by_cases hx : t.sagaId = id
      · have ht : t ∉ s.world.running := fun hm => hout t hm hx
        simp only [hx, if_true, Option.some.injEq, ht, false_or]
        exact ⟨fun e => e.symm, fun e => e.symm⟩
      · simp only [Ne.symm hx, if_false, ← h.running t]
        constructor
        · rintro (hm | rfl)
          · exact hm
          · exact absurd rfl hx
        · exact Or.inl
    · rw [List.map_append, List.nodup_append]
      refine ⟨h.nodup, List.nodup_singleton _, ?_⟩
      intro a ha b hb
      obtain ⟨t, ht, rfl⟩ := List.mem_map.mp ha
      simp only [List.map_cons, List.map_nil, List.mem_singleton] at hb
      subst hb
      exact hout t ht
    · intro r hr
      rcases List.mem_append.mp hr with hr | hr
      · rw [List.getElem?_append_left (h.token_lt hr)]; exact h.roots r hr
      · simp only [List.mem_singleton] at hr
        subst hr
        simp
    · rw [List.map_append, List.nodup_append]
      refine ⟨h.tokens, List.nodup_singleton _, ?_⟩
      intro a ha b hb
      obtain ⟨r, hr, rfl⟩ := List.mem_map.mp ha
      simp only [List.map_cons, List.map_nil, List.mem_singleton] at hb
      subst hb
      exact Nat.ne_of_lt (h.token_lt hr)

/-- A mark that keeps how runs were tracked. -/
theorem mark_tracked (f : Run → Run) (hf : ∀ r, (f r).tracked = r.tracked) (h : Inv s) (g : Nat) :
    (∀ k (hk : k < (s.ledger.mark g f).length), (s.ledger.mark g f)[k].tracked.generation = k) ∧
      (∀ r ∈ s.ledger.mark g f, ∀ tokens : List Token,
        (∀ r ∈ s.ledger, (tokens[r.tracked.token]?).map (·.parent) = some none) →
          (tokens[r.tracked.token]?).map (·.parent) = some none) ∧
      ((s.ledger.mark g f).map (·.tracked.token)).Nodup := by
  refine ⟨fun k hk => ?_, fun r hr tokens hroots => ?_, ?_⟩
  · rw [Ledger.length_mark] at hk
    simp only [Ledger.mark, List.getElem_map]
    split <;> simp [hf, h.numbered k hk]
  · obtain ⟨r₀, hr₀, heq⟩ := Ledger.mem_mark hf hr
    rw [heq]; exact hroots r₀ hr₀
  · rw [show (fun r : Run => r.tracked.token) = (·.token) ∘ (·.tracked) from rfl, ← List.map_map,
      Ledger.tracked_mark hf, List.map_map]
    exact h.tokens

theorem cancel (h : Inv s) (id : String) : Inv (s.step (.cancel id)) := by
  cases he : s.ledger.entry id with
  | none =>
    have hf := h.find?_running id
    rw [he] at hf
    simp only [Protocol.step, World.dropRunning_of_find_none hf]
    exact h
  | some t =>
    have hf := h.find?_running id
    rw [he] at hf
    obtain ⟨r, hr, -, rfl⟩ := Ledger.entry_eq_some.mp he
    have hrid := (Ledger.mem_of_latest hr).2
    simp only [Protocol.step, World.dropRunning_of_find hf]
    have hf' : ∀ x : Run, ({ x with cancelled := true } : Run).tracked = x.tracked := fun _ => rfl
    obtain ⟨hnum, hroots, htok⟩ := mark_tracked (fun x => { x with cancelled := true }) hf' h r.tracked.generation
    refine ⟨by simp [World.cancel, h.generations, Ledger.length_mark], hnum, ?_, ?_, ?_, htok⟩
    · intro t'
      have hcancel : (s.world.cancel r.tracked.token).running = s.world.running := rfl
      simp only [World.cancel, List.mem_filter, bne_iff_ne, ne_eq]
      by_cases hx : t'.sagaId = id
      · -- the cancelled saga has no live run left
        rw [hx, Ledger.entry_mark_of_eq hf' (fun _ => by simp [Run.live]) hr rfl]
        simp
      · -- any other saga's latest run has another generation
        rw [Ledger.entry_mark_of_ne hf' fun r' hr' hg => hx ?_, ← h.running t']
        · simp [hx]
        · have := h.eq_of_generation (Ledger.mem_of_latest hr').1 (Ledger.mem_of_latest hr).1 hg
          rw [← (Ledger.mem_of_latest hr').2, this, hrid]
    · exact List.Nodup.sublist ((List.filter_sublist).map _) h.nodup
    · intro r' hr'
      refine hroots r' hr' _ fun r₀ hr₀ => ?_
      have hp := congrArg (·[r₀.tracked.token]?)
        (World.cancel_parents { s.world with running := s.world.running.filter (·.sagaId != id) } r.tracked.token)
      simp only [List.getElem?_map] at hp
      exact hp.trans (h.roots r₀ hr₀)

theorem finish (h : Inv s) (g : Nat) : Inv (s.step (.finish g)) := by
  cases hg : s.ledger[g]? with
  | none => simp only [Protocol.step, hg]; exact h
  | some r =>
    simp only [Protocol.step, hg]
    obtain ⟨hlt, hrg⟩ := List.getElem?_eq_some_iff.mp hg
    have hmem : r ∈ s.ledger := List.mem_of_getElem? hg
    have hgen : r.tracked.generation = g := hrg ▸ h.numbered g hlt
    have hf' : ∀ x : Run, ({ x with ended := true } : Run).tracked = x.tracked := fun _ => rfl
    obtain ⟨hnum, hroots, htok⟩ := mark_tracked (fun x => { x with ended := true }) hf' h g
    refine ⟨by simp [release, h.generations, Ledger.length_mark], hnum, ?_, ?_, fun r hr => hroots r hr _ h.roots, htok⟩
    · intro t'
      simp only [release, List.mem_filter, Bool.not_eq_true', Bool.and_eq_false_iff]
      by_cases hl : ∃ r', s.ledger.latest t'.sagaId = some r' ∧ r'.tracked.generation = g
      · -- the ended run is its saga's latest: the saga has no live run left
        obtain ⟨r', hr', hg'⟩ := hl
        have heq : r' = r := h.eq_of_generation (Ledger.mem_of_latest hr').1 hmem (hg'.trans hgen.symm)
        rw [Ledger.entry_mark_of_eq hf' (fun _ => by simp [Run.live]) hr' hg']
        simp only [reduceCtorEq, iff_false, not_and]
        intro ht'
        obtain ⟨r'', hr'', -, rfl⟩ := Ledger.entry_eq_some.mp ((h.running t').mp ht')
        rw [hr', Option.some.injEq] at hr''
        subst hr''
        subst heq
        simp [hg']
      · -- otherwise the saga's live run, if any, is another run and stays
        have hne : ∀ r', s.ledger.latest t'.sagaId = some r' → r'.tracked.generation ≠ g :=
          fun r' hr' hg' => hl ⟨r', hr', hg'⟩
        rw [Ledger.entry_mark_of_ne hf' hne, ← h.running t']
        constructor
        · exact And.left
        · intro ht'
          refine ⟨ht', ?_⟩
          obtain ⟨r'', hr'', -, rfl⟩ := Ledger.entry_eq_some.mp ((h.running t').mp ht')
          simp [hgen, hne r'' hr'']
    · exact List.Nodup.sublist ((List.filter_sublist).map _) h.nodup

theorem step (h : Inv s) : ∀ op, Inv (s.step op)
  | .track id => h.track id
  | .cancel id => h.cancel id
  | .finish g => h.finish g

theorem run : ∀ {s : Protocol}, Inv s → ∀ ops, Inv (s.run ops)
  | _, h, [] => h
  | _, h, op :: ops => run (h.step op) ops

end Inv

/-! ## What the orchestrator answers -/

/-- The running-set protocol's answers in state `s`, as the ledger of runs gives them. -/
structure Follows (s : Protocol) : Prop where
  /-- The map's entry for a saga is its live run, under the generation and token it was given. -/
  running : ∀ id, s.world.running.find? (·.sagaId == id) = s.ledger.entry id
  /-- A run's generation is the number of runs tracked before it. -/
  numbered : ∀ g (h : g < s.ledger.length), s.ledger[g].tracked.generation = g
  /-- A saga is running exactly when it has a live run. -/
  isRunning : ∀ id, s.world.isRunning id = s.ledger.live id
  /-- Tracking is refused, as already running, exactly for a saga with a live run. -/
  track_refused : ∀ id e, (s.world.track id).1 = .error e ↔
    s.ledger.live id = true ∧ e = (Error.invalidState ("saga " ++ id ++ " is already running")).withContext "saga_id" id
  /-- Otherwise the run gets the next generation and a new token. -/
  track_accepted : ∀ id t, (s.world.track id).1 = .ok t ↔
    s.ledger.live id = false ∧ t = ⟨id, s.ledger.length, s.world.tokens.length⟩
  /-- Cancelling takes a saga's live run, and succeeds exactly when there is one. -/
  cancel_takes : ∀ id, (s.world.dropRunning id).1 = s.ledger.entry id
  /-- Cancelling cancels the live run's token and leaves every other run's as it was. -/
  cancel_token : ∀ id t, s.ledger.entry id = some t → ∀ r ∈ s.ledger,
    ((s.step (.cancel id)).world.isCancelled r.tracked.token = true ↔
      r.tracked = t ∨ s.world.isCancelled r.tracked.token = true)
  /-- The running count is the number of sagas with a live run. -/
  count : s.world.running.length = ((s.ledger.map (·.tracked.sagaId)).toFinset.filter fun id => s.ledger.live id).card
  /-- The end of a run after a newer run of its saga was tracked leaves the map alone. -/
  finish_older : ∀ g g' (r r' : Run), s.ledger[g]? = some r → s.ledger[g']? = some r' → g < g' →
    r'.tracked.sagaId = r.tracked.sagaId → (s.step (.finish g)).world.running = s.world.running

namespace Inv

variable {s : Protocol}

theorem count (h : Inv s) :
    s.world.running.length = ((s.ledger.map (·.tracked.sagaId)).toFinset.filter fun id => s.ledger.live id).card := by
  have hlen : s.world.running.length = (s.world.running.map (·.sagaId)).length := (List.length_map _).symm
  rw [hlen, ← List.toFinset_card_of_nodup h.nodup]
  congr 1
  ext id
  simp only [List.mem_toFinset, List.mem_map, Finset.mem_filter]
  constructor
  · rintro ⟨t, ht, rfl⟩
    have he := (h.running t).mp ht
    obtain ⟨r, hr, -, hrt⟩ := Ledger.entry_eq_some.mp he
    refine ⟨⟨r, (Ledger.mem_of_latest hr).1, (Ledger.mem_of_latest hr).2⟩, ?_⟩
    simp [Ledger.live, he]
  · rintro ⟨-, hlive⟩
    obtain ⟨t, he⟩ := Option.isSome_iff_exists.mp hlive
    exact ⟨t, (h.running t).mpr (Ledger.sagaId_of_entry he ▸ he), Ledger.sagaId_of_entry he⟩

theorem cancel_token (h : Inv s) {id : String} {t : Tracked} (he : s.ledger.entry id = some t) {r : Run}
    (hr : r ∈ s.ledger) :
    (s.step (.cancel id)).world.isCancelled r.tracked.token = true ↔
      r.tracked = t ∨ s.world.isCancelled r.tracked.token = true := by
  have hf := h.find?_running id
  rw [he] at hf
  simp only [Protocol.step, World.dropRunning_of_find hf]
  obtain ⟨r₀, hr₀, -, rfl⟩ := Ledger.entry_eq_some.mp he
  have hmem := (Ledger.mem_of_latest hr₀).1
  have hroot : ((s.world.dropRunning id).2.tokens[r.tracked.token]?).map (·.parent) = some none := by
    rw [World.dropRunning_of_find hf]; exact h.roots r hr
  rw [World.dropRunning_of_find hf] at hroot
  rw [World.isCancelled_cancel_root _ hroot]
  -- two runs share a token only when they are the same run
  have htok : r.tracked.token = r₀.tracked.token ↔ r.tracked = r₀.tracked :=
    ⟨fun heq => by rw [List.inj_on_of_nodup_map h.tokens hr hmem heq], fun heq => heq ▸ rfl⟩
  simp only [Bool.or_eq_true, beq_iff_eq, htok]
  rfl

theorem generation_of_getElem? (h : Inv s) {k : Nat} {x : Run} (hk : s.ledger[k]? = some x) :
    x.tracked.generation = k := by
  obtain ⟨hlt, rfl⟩ := List.getElem?_eq_some_iff.mp hk
  exact h.numbered k hlt

/-- No run of a saga comes after its latest. -/
theorem latest_last (h : Inv s) {id : String} {r r' : Run} {g' : Nat} (hr : s.ledger.latest id = some r)
    (hr' : s.ledger[g']? = some r') (hlt : r.tracked.generation < g') : r'.tracked.sagaId ≠ id := by
  obtain ⟨-, pre, post, hsplit, hpre⟩ := List.find?_eq_some_iff_append.mp hr
  have hL : s.ledger = post.reverse ++ r :: pre.reverse := by
    rw [← List.reverse_reverse s.ledger, hsplit]; simp
  have hpos : r.tracked.generation = post.length := by
    apply h.generation_of_getElem?
    rw [hL, List.getElem?_append_right (by simp)]; simp
  rw [hL, List.getElem?_append_right (by simp; omega)] at hr'
  obtain ⟨k, hk⟩ : ∃ k, g' - post.reverse.length = k + 1 := ⟨g' - post.length - 1, by simp; omega⟩
  rw [hk, List.getElem?_cons_succ] at hr'
  have hmem : r' ∈ pre := List.mem_reverse.mp (List.mem_of_getElem? hr')
  simpa using hpre r' hmem

theorem finish_older (h : Inv s) {g g' : Nat} {r r' : Run} (hr : s.ledger[g]? = some r)
    (hr' : s.ledger[g']? = some r') (hlt : g < g') (hid : r'.tracked.sagaId = r.tracked.sagaId) :
    (s.step (.finish g)).world.running = s.world.running := by
  simp only [Protocol.step, hr, release]
  rw [List.filter_eq_self]
  intro t ht
  obtain ⟨r₀, hr₀, -, rfl⟩ := Ledger.entry_eq_some.mp ((h.running t).mp ht)
  -- the map's run of a saga is its latest, and run `g'` of the saga comes after run `g`
  have hne : ¬(r₀.tracked.sagaId = r.tracked.sagaId ∧ r₀.tracked.generation = r.tracked.generation) := by
    rintro ⟨hsid, hgen⟩
    rw [h.generation_of_getElem? hr] at hgen
    exact h.latest_last hr₀ hr' (hgen ▸ hlt) (hid.trans hsid.symm)
  simp only [Bool.not_eq_true', Bool.and_eq_false_iff, beq_eq_false_iff_ne, ne_eq]
  exact not_and_or.mp hne

end Inv

/-- The running set follows the runs. Playing any interleaving of tracking, cancelling and ending
runs, over any saga ids and any number of runs, from a fresh orchestrator in any world, the
orchestrator answers as the ledger of its runs says: the running map holds exactly each saga's
live run (its most recently tracked run, while neither cancelled nor ended) under that run's
generation and token; tracking a saga is refused as already running exactly when it has a live
run; cancelling succeeds exactly then, and cancels that run's token and no other run's; the running
count is the number of sagas with a live run; and the end of an older run of a saga leaves a newer
run of it in place. -/
theorem running_set_follows_ledger (w : World) (ops : List Op) : Follows ((start w).run ops) := by
  have h := (Inv.start w).run ops
  exact {
    running := h.find?_running
    numbered := h.numbered
    isRunning := h.isRunning_eq
    track_refused := fun id e => by
      cases hrun : ((start w).run ops).world.isRunning id with
      | true =>
        rw [World.track_of_running hrun, ← h.isRunning_eq, hrun]
        simp only [Except.error.injEq, true_and]
        exact ⟨fun he => he.symm, fun he => he.symm⟩
      | false =>
        rw [World.track_of_not_running hrun, ← h.isRunning_eq, hrun]
        simp
    track_accepted := fun id t => by
      cases hrun : ((start w).run ops).world.isRunning id with
      | true =>
        rw [World.track_of_running hrun, ← h.isRunning_eq, hrun]
        simp
      | false =>
        rw [World.track_of_not_running hrun, ← h.isRunning_eq, hrun, h.generations]
        simp only [Except.ok.injEq, true_and]
        exact ⟨fun he => he.symm, fun he => he.symm⟩
    cancel_takes := fun id => by
      cases hf : ((start w).run ops).world.running.find? (·.sagaId == id) with
      | none => rw [World.dropRunning_of_find_none hf, ← h.find?_running, hf]
      | some t => rw [World.dropRunning_of_find hf, ← h.find?_running, hf]
    cancel_token := fun _ _ he _ hr => h.cancel_token he hr
    count := h.count
    finish_older := fun _ _ _ _ hr hr' hlt hid => h.finish_older hr hr' hlt hid }

/-- A saga cancelled and tracked again: the end of its first run keeps the second. -/
example : ((start default).run [.track "a", .cancel "a", .track "a", .finish 0]).world.running.map
    (·.generation) = [1] := by decide

end Protocol

end Engine.Orchestrator

end Saga
