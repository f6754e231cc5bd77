import Saga.Protocol.Basic
import Saga.Codec

/-!
# Questions about the state codec

`codec` encodes a given state and shows the stored form, or decodes a stored form given as
a version byte and text, or as hexadecimal bytes.
-/

namespace Saga.Protocol

/-- The value of one hexadecimal digit. -/
def hexDigitValue (c : Char) : Option Nat :=
  if c.isDigit then some (c.toNat - 48)
  else if 'a' ≤ c && c ≤ 'f' then some (c.toNat - 87)
  else if 'A' ≤ c && c ≤ 'F' then some (c.toNat - 55)
  else none

/-- The bytes written as pairs of hexadecimal digits. -/
def hexBytes : List Char → Option (List UInt8)
  | [] => some []
  | a :: b :: rest => do
    let x ← hexDigitValue a
    let y ← hexDigitValue b
    return (x * 16 + y).toUInt8 :: (← hexBytes rest)
  | [_] => none

/-- The answer to a decoding. -/
def decodeAnswer (data : ByteArray) : Json :=
  match Codec.decode data with
  | .ok s => Json.mkObj [("state", s.toJson)]
  | .error f => errorAnswer (Error.ofCodec f)

/-- Answers a `codec` request. -/
def codecAnswer (r : Json) : Reply Json := do
  if let some v := r.get? "encode" then
    match SagaState.ofValue v with
    | .error e => return serdeAnswer e.text
    | .ok s =>
      let data := Codec.encode s
      let back := Codec.decode data
      return Json.mkObj [("version", .ofNat Codec.formatVersion),
        ("body", .str ((String.fromUTF8? (data.extract 1 data.size)).getD "")),
        ("roundtrip_equal", .bool (match back with
          | .ok b => b == s
          | .error _ => false)),
        ("codec_id", .str Codec.codecId)]
  if let some t := r.get? "decode_text" then
    let text ← (asString? t).elim (refuse "malformed text") pure
    let v ← need r "version" asNat?
    return decodeAnswer (ByteArray.mk #[v.toUInt8] ++ text.toUTF8)
  if let some h := r.get? "decode_hex" then
    let bytes ← ((asString? h).bind (hexBytes ·.toList)).elim (refuse "malformed hex") pure
    return decodeAnswer (ByteArray.mk bytes.toArray)
  refuse "unknown codec question"

end Saga.Protocol
