import Saga.State
import Saga.Failure
import Saga.Json.Render

/-!
# The state codec

A saga state is stored as one version byte, `1`, followed by the compact JSON text of its
record. Decoding refuses an empty blob, another version byte, and a body that does not read
as a state record, in that order.
-/

namespace Saga.Codec

/-- The version byte of the stored form. -/
def formatVersion : Nat := 1

/-- The name of the codec. -/
def codecId : String := "json"

/-- The stored form of a state. -/
def encode (s : SagaState) : ByteArray :=
  ByteArray.mk #[formatVersion.toUInt8] ++ s.toJson.render.toUTF8

/-- The state of a stored form, or why it has none. -/
def decode (data : ByteArray) : Except CodecFault SagaState :=
  match data.toList with
  | [] => .error .empty
  | v :: body =>
    if v.toNat ≠ formatVersion then .error (.version formatVersion v.toNat)
    else match SagaState.shape.readBytes (ByteArray.mk body.toArray) with
      | .ok j => .ok (SagaState.ofShape j)
      | .error e => .error (.json e.text)

end Saga.Codec
