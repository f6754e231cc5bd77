import Saga.Digest.NameUuid
import Saga.State

/-!
# Row identifiers of history entries

A relational store keeps each history entry of a saga as one row, identified by the
name-based identifier of the key `<saga id>/<step name>/<start time>`, with the start time
written in RFC 3339 with nine fraction digits. Saving an entry again with the same step name
and start time therefore lands on the same row.
-/

namespace Saga

/-- The name the row identifier of history entry `e` of saga `sagaId` is made from. -/
def stepRowKey (sagaId : String) (e : HistoryEntry) : String :=
  sagaId ++ "/" ++ e.stepName ++ "/" ++ e.startedAt.writeNanos

/-- The row identifier of history entry `e` of saga `sagaId`: 16 bytes. -/
def stepRowId (sagaId : String) (e : HistoryEntry) : List UInt8 :=
  NameUuid.v5 NameUuid.oidNamespace (stepRowKey sagaId e).toUTF8.toList

/-- The row identifier of history entry `e` of saga `sagaId` in its dashed text. -/
def stepRowText (sagaId : String) (e : HistoryEntry) : String := NameUuid.text (stepRowId sagaId e)

end Saga
