/-!
# SHA-1

The SHA-1 digest of a byte string (FIPS 180-4): the message is padded exactly as for SHA-256,
and each 64-byte block updates five 32-bit words by 80 rounds in four groups of twenty, each
group with its own mixing function and constant. Name-based identifiers are built from it.
-/

namespace Saga.Sha1

/-- The initial hash words. -/
def initialWords : List UInt32 := [0x67452301, 0xEFCDAB89, 0x98BADCFE, 0x10325476, 0xC3D2E1F0]

/-- Rotation left by `n` bits. -/
def rotl (x : UInt32) (n : UInt32) : UInt32 := (x <<< n) ||| (x >>> (32 - n))

/-- The padded message: `0x80`, zeros to 56 modulo 64, then the bit length. -/
def pad (msg : List UInt8) : List UInt8 :=
  let len := msg.length
  let zeros := (119 - len % 64) % 64
  let bits := len * 8
  msg ++ [0x80] ++ List.replicate zeros 0 ++
    (List.range 8).reverse.map fun i => (bits / Nat.pow 2 (8 * i) % 256).toUInt8

/-- The big-endian words of a block. -/
def words : List UInt8 → List UInt32
  | a :: b :: c :: d :: rest =>
    ((a.toUInt32 <<< 24) ||| (b.toUInt32 <<< 16) ||| (c.toUInt32 <<< 8) ||| d.toUInt32) ::
      words rest
  | _ => []

/-- Extends 16 words to the 80-word schedule. -/
def schedule (w : Array UInt32) : Nat → Array UInt32
  | 0 => w
  | n + 1 =>
    let i := w.size
    let x := w.getD (i - 3) 0 ^^^ w.getD (i - 8) 0 ^^^ w.getD (i - 14) 0 ^^^ w.getD (i - 16) 0
    schedule (w.push (rotl x 1)) n

/-- The mixing function and constant of round `t`. -/
def mixing (t : Nat) (b c d : UInt32) : UInt32 × UInt32 :=
  if t < 20 then ((b &&& c) ||| ((~~~ b) &&& d), 0x5A827999)
  else if t < 40 then (b ^^^ c ^^^ d, 0x6ED9EBA1)
  else if t < 60 then ((b &&& c) ||| (b &&& d) ||| (c &&& d), 0x8F1BBCDC)
  else (b ^^^ c ^^^ d, 0xCA62C1D6)

/-- Round `t` on the working words `(a, .., e)` with schedule word `w`. -/
def round (v : List UInt32) (t : Nat) (w : UInt32) : List UInt32 :=
  match v with
  | [a, b, c, d, e] =>
    let (f, k) := mixing t b c d
    [rotl a 5 + f + e + k + w, a, rotl b 30, c, d]
  | v => v

/-- The hash words after one 64-byte block. -/
def compress (hash : List UInt32) (block : List UInt8) : List UInt32 :=
  let w := schedule (words block).toArray 64
  let v := (w.toList.zipIdx).foldl (fun v (x, t) => round v t x) hash
  (hash.zip v).map fun (x, y) => x + y

/-- The 64-byte blocks of a padded message. -/
def blocks (msg : List UInt8) : Nat → List (List UInt8)
  | 0 => []
  | n + 1 => if msg.isEmpty then [] else msg.take 64 :: blocks (msg.drop 64) n

/-- The big-endian bytes of a word. -/
def wordBytes (x : UInt32) : List UInt8 :=
  [(x >>> 24).toUInt8, (x >>> 16).toUInt8, (x >>> 8).toUInt8, x.toUInt8]

/-- The 20-byte digest of a byte string. -/
def digest (msg : List UInt8) : List UInt8 :=
  let padded := pad msg
  ((blocks padded (padded.length / 64 + 1)).foldl compress initialWords).flatMap wordBytes

end Saga.Sha1
