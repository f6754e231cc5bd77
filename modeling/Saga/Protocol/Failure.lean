import Saga.Protocol.Basic
import Saga.Failure
import Saga.Json.Read

/-!
# Questions about errors

`error` builds one engine error, by a helper or from a collaborator's failure, and
describes it: the error form, the name of its kind and, on request, the accessors of the
error (`extra`).
-/

namespace Saga.Protocol

/-- The failure of the relational store's driver when a row was expected. -/
def rowNotFound : TableFault := .backend "no rows returned by a query that expected to return at least one row"

/-- The failure of the relational store's driver on a closed pool. -/
def poolClosed : TableFault := .backend "attempted to acquire a connection on a closed pool"

/-- The text of the fault of reading `text` as JSON. -/
def jsonFaultText (text : String) : String :=
  match Json.parse text with
  | .ok _ => ""
  | .error e => e.text

/-- Builds the error a `make` names. -/
def makeError (make arg arg2 : String) (n1 n2 : Nat) : Reply Error := do
  match make with
  | "new" => return Error.new arg (← kindArg (.str arg2))
  | "step_execution" => return Error.stepExecution arg
  | "compensation" => return Error.compensation arg
  | "persistence" => return Error.persistence arg
  | "event_store" => return Error.eventStore arg
  | "not_found" => return Error.notFound arg
  | "timeout" => return Error.timeout arg
  | "cancelled" => return Error.cancelled arg
  | "invalid_state" => return Error.invalidState arg
  | "configuration" => return Error.configuration arg
  | "guard_rejected" => return Error.guardRejected arg
  | "definition_not_found" => return Error.definitionNotFound arg
  | "validation" => return Error.validation arg arg2
  | "wrap" => return ((Error.stepExecution arg).withContext "step" "inner").wrap arg2
  | "es_conflict" => return Error.ofStore (.conflict n1 n2)
  | "es_not_found" => return Error.ofStore (.streamNotFound arg)
  | "es_wrong_stream" => return Error.ofStore (StoreFault.wrongStream arg)
  | "es_internal" => return Error.ofStore (StoreFault.internal arg)
  | "es_codec" => return Error.ofStore (.codec arg)
  | "ss_unavailable" => return Error.ofSnapshot SnapshotFault.unavailable
  | "ss_serialization" => return Error.ofSnapshot (.serialization arg)
  | "bus_publish" => return Error.ofBus (.publish arg)
  | "bus_subscription" => return Error.ofBus (.subscription arg)
  | "bus_not_found" => return Error.ofBus (.subscriptionNotFound "00000000-0000-0000-0000-000000000000")
  | "bus_handler" => return Error.ofBus (.handler arg)
  | "bus_connection" => return Error.ofBus (.connectionLost arg)
  | "cmd_timeout" => return Error.ofCommand (.timeout arg)
  | "cmd_handler" => return Error.ofCommand (.handlerNotFound arg)
  | "cmd_exec" => return Error.ofCommand (.execution arg)
  | "cmd_serialization" => return Error.ofCommand (.serialization arg)
  | "cmd_cancelled" => return Error.ofCommand .cancelled
  | "codec_empty" => return Error.ofCodec .empty
  | "codec_version" => return Error.ofCodec (.version (n1 % 256) (n2 % 256))
  | "codec_json" => return Error.ofCodec (.json (jsonFaultText arg))
  | "ctx_macro" => return Error.new arg (← kindArg (.str arg2))
  | "ctx_macro_pairs" =>
    return ((Error.new arg (← kindArg (.str arg2))).withContext "k1" "v1").withContext "k2" arg2
  | "sqlite_row_not_found" => return Error.ofTable rowNotFound
  | "sqlite_pool_closed" => return Error.ofTable poolClosed
  | "sqlite_invalid" => return Error.ofTable (.invalid arg)
  | "sqlite_serialization" => return Error.ofTable (.serialization (jsonFaultText arg))
  | "es_sqlite" => return Error.ofStore (.backend (TableFault.invalid arg).text)
  | "ss_sqlite" => return Error.ofSnapshot (.backend (TableFault.invalid arg).text)
  | _ => refuse ("unknown error constructor " ++ make)

/-- The accessors of an error, with the time it was made written as now. -/
def errorExtra (e : Error) (arg : String) (n1 n2 : Nat) : Json :=
  Json.mkObj [
    ("message", .str e.message),
    ("kind_display", .str e.kind.name),
    ("is_own_kind", .bool (e.is e.kind)),
    ("is_unknown", .bool (e.is .unknown)),
    ("timestamp_recent", .bool true),
    ("get_context_step", optionAnswer (e.getContext "step")),
    ("structured", Json.mkObj [("message", .str e.message), ("kind", .str e.kind.name),
      ("timestamp", .str "<now>"), ("context", contextAnswer e.context),
      ("source", optionAnswer e.source)]),
    ("es_conflict_is_conflict", .bool (StoreFault.conflict n1 n2).isConflict),
    ("es_not_found_is_conflict", .bool (StoreFault.streamNotFound arg).isConflict)]

/-- Answers an `error` request. -/
def errorOpAnswer (r : Json) : Reply Json := do
  let make ← need r "make" asString?
  let arg := textOr r "arg"
  let arg2 := textOr r "arg2"
  let n1 := ((field? r "n1").bind asNat?).getD 0
  let n2 := ((field? r "n2").bind asNat?).getD 0
  let e ← makeError make arg arg2 n1 n2
  let base := match errorAnswer e with
    | .obj ms => ms
    | _ => []
  let extra := if ((field? r "extra").bind asBool?).getD false
    then [("extra", errorExtra e arg n1 n2)] else []
  return .obj (Json.ofMembers (base ++ [("kind_serde", .str e.kind.name)] ++ extra))

end Saga.Protocol
