import Saga.Proofs.Proc.Logic
import Saga.Engine.Step

/-!
# Quiet changes

Executing, compensating or guarding a step (`Engine.Step`) changes contexts, tokens, inboxes,
logs, counters and the command bus, and reads the clocks. It leaves the rest of every instance
alone (its status, history, chain state and times) and never touches the bus's health. A
`Quiet` change is one of these: every instance keeps its frame (`Instance.frame`, the instance
with its context left out), the bus keeps its health, and the wall clock only goes forward.

A `Kit` is a mode of a pact in which a quiet change keeps the invariant and is a move of a
part. In every mode with a kit the primitives of the engine's processes are sound, and
`Engine.Steps` builds every step on them. Two pacts have kits: fresh history keys, whose
processes all make quiet changes or push stamped entries, and the pact of one run, whose main
process writes the history while the detached children make quiet changes only.
-/

namespace Saga

/-! ## The wall clock's order -/

namespace Instant

theorem lt_iff {a b : Instant} : a < b ↔ a.secs < b.secs ∨ a.secs = b.secs ∧ a.nanos < b.nanos := by
  show (compare a.secs b.secs).then (compare a.nanos b.nanos) = .lt ↔ _
  rw [Ordering.then_eq_lt, Int.compare_eq_lt, Nat.compare_eq_lt, Int.compare_eq_eq]

theorem le_iff {a b : Instant} : a ≤ b ↔ a.secs < b.secs ∨ a.secs = b.secs ∧ a.nanos ≤ b.nanos := by
  show (compare a.secs b.secs).then (compare a.nanos b.nanos) ≠ .gt ↔ _
  rw [Ne, Ordering.then_eq_gt, Int.compare_eq_gt, Nat.compare_eq_gt, Int.compare_eq_eq]
  omega

theorem lt_irrefl (a : Instant) : ¬ a < a := by
  rw [lt_iff]
  omega

theorem le_refl (a : Instant) : a ≤ a := by
  rw [le_iff]
  omega

theorem le_trans {a b c : Instant} (h₁ : a ≤ b) (h₂ : b ≤ c) : a ≤ c := by
  rw [le_iff] at *
  omega

theorem lt_of_lt_of_le {a b c : Instant} (h₁ : a < b) (h₂ : b ≤ c) : a < c := by
  rw [lt_iff, le_iff] at *
  omega

theorem le_of_lt {a b : Instant} (h : a < b) : a ≤ b := by
  rw [lt_iff, le_iff] at *
  omega

/-- Adding time to an instant moves it later, leap seconds included. -/
theorem lt_addNanos (t : Instant) {n : Nat} (h : 0 < n) : t < t.addNanos n := by
  rw [lt_iff]
  simp only [addNanos]
  omega

end Instant

/-! ## Changing one element of a list -/

theorem map_modify_of {α β : Type} {f : α → α} {g : α → β} {l : List α} {i : Nat}
    (hf : ∀ x, l[i]? = some x → g (f x) = g x) : (l.modify i f).map g = l.map g := by
  apply List.ext_getElem?
  intro j
  simp only [List.getElem?_map, List.getElem?_modify]
  cases hx : l[j]? with
  | none => rfl
  | some x =>
    by_cases hij : i = j
    · subst hij
      simp [hf x hx]
    · simp [hij]

theorem mem_modify {α : Type} {f : α → α} {l : List α} {i : Nat} {y : α} (h : y ∈ l.modify i f) :
    ∃ x ∈ l, y = x ∨ y = f x := by
  obtain ⟨j, hj⟩ := List.mem_iff_getElem?.mp h
  rw [List.getElem?_modify] at hj
  cases hx : l[j]? with
  | none => simp [hx] at hj
  | some x =>
    refine ⟨x, List.mem_of_getElem? hx, ?_⟩
    simp only [hx] at hj
    split at hj <;> simp_all


/-- An instance with its context left out: what the processes of a step never change. -/
def Instance.frame (x : Instance) : Instance := { x with context := default }

@[simp] theorem Instance.frame_context (x : Instance) (c : SagaContext) :
    ({ x with context := c } : Instance).frame = x.frame := rfl

namespace Engine

/-- A change made by the processes of a step: each instance keeps its frame, the bus its
health, and the wall clock only goes forward. -/
structure Quiet (w w' : World) : Prop where
  frames : w'.instances.map Instance.frame = w.instances.map Instance.frame
  bus : w'.busFails = w.busFails
  wall : w.ambient.wall ≤ w'.ambient.wall

theorem Quiet.refl (w : World) : Quiet w w := ⟨rfl, rfl, Instant.le_refl _⟩

theorem Quiet.trans {w₁ w₂ w₃ : World} (h₁ : Quiet w₁ w₂) (h₂ : Quiet w₂ w₃) : Quiet w₁ w₃ :=
  ⟨h₂.frames.trans h₁.frames, h₂.bus.trans h₁.bus, Instant.le_trans h₁.wall h₂.wall⟩

/-- A change that leaves the instances, the bus and the clock alone. -/
theorem Quiet.of_eq {w w' : World} (hi : w'.instances = w.instances) (hb : w'.busFails = w.busFails)
    (ha : w'.ambient = w.ambient) : Quiet w w' :=
  ⟨by rw [hi], hb, by rw [ha]; exact Instant.le_refl _⟩

/-- Instance `i` has the same frame on both sides of a quiet change. -/
theorem Quiet.frame_getElem? {w w' : World} (h : Quiet w w') (i : Nat) :
    w'.instances[i]?.map Instance.frame = w.instances[i]?.map Instance.frame := by
  rw [← List.getElem?_map, h.frames, List.getElem?_map]

theorem quiet_readWall (w : World) : Quiet w w.readWall.2 :=
  ⟨rfl, rfl, Instant.le_of_lt (Instant.lt_addNanos _ (by decide))⟩

theorem quiet_drawId (w : World) : Quiet w w.drawId.2 := ⟨rfl, rfl, Instant.le_refl _⟩

/-- Changing the context of instance `i`. -/
theorem quiet_changeContext (w : World) (i : Nat) (g : Instance → SagaContext) :
    Quiet w (w.modifyInst i fun x => { x with context := g x }) :=
  ⟨map_modify_of fun _ _ => rfl, rfl, Instant.le_refl _⟩

/-- A mode of pact `P` in which every quiet change keeps the invariant and is a move of a part,
so that the processes of a step may run in it, side by side or not. -/
class Kit (P : Proc.Pact World) (m : Proc.Mode World) : Prop where
  quiet : ∀ w w', P.inv w → Quiet w w' → P.inv w' ∧ m.part w w'

instance Kit.narrow {P : Proc.Pact World} {m : Proc.Mode World} [Kit P m] : Kit P m.narrow :=
  ⟨Kit.quiet (m := m)⟩

/-! ## The primitives of the engine's processes -/

section Primitives

open Proc.Pact

variable {P : Proc.Pact World} {m : Proc.Mode World} [Kit P m]

/-- A quiet update is sound in every mode with a kit. -/
theorem sound_quiet {α : Type} {f : World → α × World} (hf : ∀ w, Quiet w (f w).2) :
    P.Sound m (.update f) :=
  Sound.update fun w hi =>
    have h := Kit.quiet w _ hi (hf w)
    ⟨h.1, m.part_own h.2, m.part_rely h.2⟩

/-- An update that changes neither the instances, nor the bus, nor the clock. -/
theorem sound_outside {α : Type} {f : World → α × World} (hi : ∀ w, (f w).2.instances = w.instances)
    (hb : ∀ w, (f w).2.busFails = w.busFails) (ha : ∀ w, (f w).2.ambient = w.ambient) :
    P.Sound m (.update f) :=
  sound_quiet fun w => Quiet.of_eq (hi w) (hb w) (ha w)

/-- A change of the world outside the instances, the bus and the clock. -/
theorem modify_sound {f : World → World} (hi : ∀ w, (f w).instances = w.instances)
    (hb : ∀ w, (f w).busFails = w.busFails) (ha : ∀ w, (f w).ambient = w.ambient) :
    P.Sound m (Proc.modify f) :=
  sound_outside hi hb ha

theorem read_sound {α : Type} (f : World → α) : P.Sound m (Proc.read f) :=
  sound_quiet Quiet.refl

theorem now_sound : P.Sound m Act.now := read_sound _

theorem inst_sound (i : Nat) : P.Sound m (Act.inst i) := read_sound _

theorem context_sound (i : Nat) : P.Sound m (Act.context i) := read_sound _

theorem isCancelled_sound (t : Nat) : P.Sound m (Act.isCancelled t) := read_sound _

theorem wall_sound : P.Sound m Act.wall := sound_quiet quiet_readWall

theorem freshId_sound : P.Sound m Act.freshId := sound_quiet quiet_drawId

theorem sleepFor_sound (d : Span) : P.Sound m (Act.sleepFor d) :=
  Sound.bind now_sound fun _ => Sound.sleepUntil _

theorem cancel_sound (t : Nat) : P.Sound m (Act.cancel t) :=
  modify_sound (fun _ => rfl) (fun _ => rfl) fun _ => rfl

theorem childToken_sound (t : Nat) : P.Sound m (Act.childToken t) :=
  sound_outside (fun _ => rfl) (fun _ => rfl) fun _ => rfl

/-- A time limit runs its process side by side with a sleep. -/
theorem within_sound {α : Type} {p : Act α} (hp : P.Sound m.narrow p) (limit : Span) :
    P.Sound m (Act.within limit p) :=
  Sound.bind now_sound fun _ => Sound.bind (Sound.race hp (Sound.sleepUntil _)) fun r => by
    cases r <;> exact Sound.pure _

omit [Kit P m] in
/-- Watching a token runs the process side by side with the wait for its cancellation. -/
theorem unlessCancelled_sound {α : Type} {p : Act α} (hp : P.Sound m.narrow p) (t : Nat) :
    P.Sound m (Act.unlessCancelled t p) :=
  Sound.bind (Sound.race (Sound.await _) hp) fun r => by
    cases r <;> exact Sound.pure _

theorem changeContext_sound (i : Nat) (f : SagaContext → Instant → SagaContext) :
    P.Sound m (Act.changeContext i f) :=
  Sound.bind wall_sound fun _ => sound_quiet fun w => quiet_changeContext w i _

theorem setValue_sound (i : Nat) (k : String) (v : Context.Value) : P.Sound m (Act.setValue i k v) :=
  changeContext_sound i _

theorem removeValue_sound (i : Nat) (k : String) : P.Sound m (Act.removeValue i k) :=
  changeContext_sound i _

theorem noteCall_sound (counter : Nat) (call name : String) :
    P.Sound m (Act.noteCall counter call name) :=
  Sound.bind (sound_outside (fun _ => rfl) (fun _ => rfl) fun _ => rfl) fun _ =>
    Sound.bind (modify_sound (fun _ => rfl) (fun _ => rfl) fun _ => rfl) fun _ => Sound.pure _

end Primitives

end Engine

end Saga
