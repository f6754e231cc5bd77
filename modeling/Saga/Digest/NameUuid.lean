import Saga.Digest.Sha1

/-!
# Name-based identifiers

A name-based identifier (UUID version 5, RFC 4122) is the first 16 bytes of the SHA-1 digest
of a namespace identifier followed by a name, with two stamps: byte 6 keeps its low four bits
under the version `5`, and byte 8 keeps its low six bits under the variant bits `10`. The
same namespace and name always give the same identifier.
-/

namespace Saga.NameUuid

/-- The namespace of object identifiers, `6ba7b812-9dad-11d1-80b4-00c04fd430c8`. -/
def oidNamespace : List UInt8 :=
  [0x6b, 0xa7, 0xb8, 0x12, 0x9d, 0xad, 0x11, 0xd1, 0x80, 0xb4, 0x00, 0xc0, 0x4f, 0xd4, 0x30, 0xc8]

/-- Byte 6 under version 5: its low four bits, high bits `0101`. -/
def versionStamp (b : UInt8) : UInt8 := (b &&& 0x0f) ||| 0x50

/-- Byte 8 under the variant: its low six bits, high bits `10`. -/
def variantStamp (b : UInt8) : UInt8 := (b &&& 0x3f) ||| 0x80

/-- The identifier of `name` in namespace `ns`, as 16 bytes. -/
def v5 (ns : List UInt8) (name : List UInt8) : List UInt8 :=
  ((Sha1.digest (ns ++ name)).take 16).mapIdx fun i b =>
    if i = 6 then versionStamp b else if i = 8 then variantStamp b else b

/-- The version an identifier carries: the high four bits of byte 6. -/
def version (id : List UInt8) : Nat := (id.getD 6 0).toNat / 16

/-- Two lowercase hexadecimal digits per byte, without dashes. -/
def hex (bytes : List UInt8) : String :=
  let digit := fun (n : Nat) => if n < 10 then Char.ofNat (48 + n) else Char.ofNat (87 + n)
  String.ofList (bytes.flatMap fun b => [digit (b.toNat / 16), digit (b.toNat % 16)])

/-- The usual text of an identifier: its hexadecimal digits in groups of 8, 4, 4, 4 and 12,
joined by dashes. -/
def text (bytes : List UInt8) : String :=
  "-".intercalate [hex (bytes.take 4), hex ((bytes.drop 4).take 2), hex ((bytes.drop 6).take 2),
    hex ((bytes.drop 8).take 2), hex (bytes.drop 10)]

end Saga.NameUuid
