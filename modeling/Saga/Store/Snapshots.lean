import Saga.Snapshot
import Saga.Failure

/-!
# A snapshot store in memory

`SnapshotShelf` keeps at most one snapshot per saga. Reading never fails; saving replaces
the saga's snapshot, and fails while saves are switched off.
-/

namespace Saga

/-- A snapshot store held in memory. -/
structure SnapshotShelf where
  entries : List (String × Snapshot) := []
  failSaves : Bool := false
  deriving Inhabited

namespace SnapshotShelf

/-- The snapshot of a saga. -/
def get? (s : SnapshotShelf) (id : String) : Option Snapshot := s.entries.lookup id

/-- Puts a snapshot in place of the saga's, whatever saves do. -/
def put (s : SnapshotShelf) (snap : Snapshot) : SnapshotShelf :=
  if s.entries.any (·.1 == snap.sagaId) then
    { s with entries := s.entries.map fun (k, v) => if k == snap.sagaId then (k, snap) else (k, v) }
  else { s with entries := s.entries ++ [(snap.sagaId, snap)] }

/-- Saves a snapshot, unless saves are off. -/
def save (s : SnapshotShelf) (snap : Snapshot) : Except SnapshotFault Unit × SnapshotShelf :=
  if s.failSaves then (.error SnapshotFault.unavailable, s) else (.ok (), s.put snap)

/-- Removes a saga's snapshot; says whether there was one. -/
def remove (s : SnapshotShelf) (id : String) : Bool × SnapshotShelf :=
  ((s.get? id).isSome, { s with entries := s.entries.filter (·.1 != id) })

/-- Removes every snapshot. -/
def clear (s : SnapshotShelf) : SnapshotShelf := { s with entries := [] }

end SnapshotShelf

end Saga
