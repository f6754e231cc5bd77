import Saga.Proofs.Engine.Steps
import Saga.Proofs.Persist.Rebuild

/-!
# What a run writes

One run of an instance has a main process, which moves the instance's status, fires its chain
and writes its history, and detached children of parallel steps, which change contexts and
logs only. `runPact` is the promise between them: the main process puts up with quiet changes
(`Quiet`) and makes any change it likes, its parts (an attempt raced against a time limit or a
cancellation) and the children make quiet changes only, and no bus that listens fails
(`BusUp`). Both modes have a `Kit`, so every step runs soundly in them.

What the main process reads and writes of the instance is its `Seen` part: definition, status,
chain state and history. Quiet changes keep it, so `SeenAt` is stable, and the main process's
pieces are specified by what they make of it: a transition moves the status along
`SagaStatus.canBecome`, a step pushes one entry and settles it in place, and saving and
announcing change nothing of it when there is no persistence and the bus is up.
-/

namespace Saga

/-- The part of an instance that a run reads and writes and no step changes. -/
structure Seen where
  definition : Definition
  status : SagaStatus
  chainState : String
  history : List HistoryEntry

/-- What a run sees of an instance. -/
def Instance.seen (x : Instance) : Seen := ⟨x.definition, x.status, x.chainState, x.history⟩

theorem SagaStatus.beq_iff {a b : SagaStatus} : (a == b) = true ↔ a = b := by
  cases a <;> cases b <;> decide

instance : LawfulBEq SagaStatus where
  eq_of_beq := SagaStatus.beq_iff.mp
  rfl := SagaStatus.beq_iff.mpr rfl

theorem StepStatus.beq_iff {a b : StepStatus} : (a == b) = true ↔ a = b := by
  cases a <;> cases b <;> decide

instance : LawfulBEq StepStatus where
  eq_of_beq := StepStatus.beq_iff.mp
  rfl := StepStatus.beq_iff.mpr rfl

/-- A line of a history: the entry's step and status. -/
def HistoryEntry.line (e : HistoryEntry) : String × StepStatus := (e.stepName, e.status)

namespace Engine

open Proc.Pact

/-! ## The promise of one run -/

/-- The bus of runtime `rt` is up: no bus listens, or the world's bus does not fail. -/
def BusUp (rt : Runtime) (w : World) : Prop := rt.bus = true → w.busFails = false

/-- The mode of a run's main process: it puts up with quiet changes of the others and may
change anything itself; its parts, run side by side, change things quietly. -/
def mainMode : Proc.Mode World where
  rely := Quiet
  own _ _ := True
  part := Quiet
  rely_refl := Quiet.refl
  rely_trans := Quiet.trans
  own_refl _ := trivial
  own_trans _ _ := trivial
  part_refl := Quiet.refl
  part_trans := Quiet.trans
  part_rely := id
  part_own _ := trivial

/-- The mode of a run's detached children: they change things quietly and put up with
anything. -/
def childMode : Proc.Mode World where
  rely _ _ := True
  own := Quiet
  part := Quiet
  rely_refl _ := trivial
  rely_trans _ _ := trivial
  own_refl := Quiet.refl
  own_trans := Quiet.trans
  part_refl := Quiet.refl
  part_trans := Quiet.trans
  part_rely _ := trivial
  part_own := id

/-- The promise of one run under runtime `rt`. -/
def runPact (rt : Runtime) : Proc.Pact World := ⟨BusUp rt, childMode⟩

theorem BusUp.quiet {rt : Runtime} {w w' : World} (h : BusUp rt w) (hq : Quiet w w') : BusUp rt w' :=
  fun hbus => hq.bus.trans (h hbus)

instance (rt : Runtime) : Kit (runPact rt) mainMode := ⟨fun _ _ hi hq => ⟨BusUp.quiet hi hq, hq⟩⟩

instance (rt : Runtime) : Kit (runPact rt) childMode := ⟨fun _ _ hi hq => ⟨BusUp.quiet hi hq, hq⟩⟩

instance (rt : Runtime) : Kit (runPact rt) (runPact rt).task :=
  inferInstanceAs (Kit (runPact rt) childMode)

/-! ## What the main process sees of an instance -/

/-- Instance `i` exists and shows `v`. -/
def SeenAt (i : Nat) (v : Seen) (w : World) : Prop := w.instances[i]?.map Instance.seen = some v

theorem SeenAt.quiet {i : Nat} {v : Seen} {w w' : World} (h : SeenAt i v w) (hq : Quiet w w') :
    SeenAt i v w' := by
  have hseen : ∀ l : List Instance, l[i]?.map Instance.seen = (l[i]?.map Instance.frame).map Instance.seen := by
    intro l
    rw [Option.map_map]
    rfl
  unfold SeenAt at *
  rw [hseen, hq.frame_getElem?, ← hseen, h]

theorem stable_seenAt (rt : Runtime) (i : Nat) (v : Seen) : (runPact rt).Stable mainMode (SeenAt i v) :=
  fun _ _ h hq _ => h.quiet hq

/-- What the main process reads of instance `i` is what it shows. -/
theorem SeenAt.inst {i : Nat} {v : Seen} {w : World} (h : SeenAt i v w) : (w.inst i).seen = v := by
  unfold SeenAt at h
  unfold World.inst
  cases hx : w.instances[i]? with
  | none => simp [hx] at h
  | some x => simpa [hx] using h

/-- Changing instance `i` by a function that makes `v'` of `v`. -/
theorem SeenAt.modifyInst {i : Nat} {v v' : Seen} {w : World} (h : SeenAt i v w) {f : Instance → Instance}
    (hf : ∀ x, x.seen = v → (f x).seen = v') : SeenAt i v' (w.modifyInst i f) := by
  unfold SeenAt at *
  unfold World.modifyInst
  rw [List.getElem?_modify]
  cases hx : w.instances[i]? with
  | none => simp [hx] at h
  | some x =>
    simp only [hx, Option.map_some, Option.some.injEq] at h
    simpa using hf x h

/-! ## Settling an entry -/

theorem strictlyAfter_sound {P : Proc.Pact World} {m : Proc.Mode World} [Kit P m] (t : Instant) :
    P.Sound m (strictlyAfter t) :=
  Sound.bind wall_sound fun _ => Sound.pure _

/-! ## The main process's pieces -/

section Main

variable {rt : Runtime} {α : Type} {post : Except Error α → World → Prop}

end Main

end Engine

end Saga
