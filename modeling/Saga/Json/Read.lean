import Saga.Json.Basic

/-!
# Reading JSON text

A reader over the bytes of a JSON text that stops at the first fault and says where it is.

*Positions.* A fault is placed by line and column, the column counting the bytes of the
line read so far. A fault found on the byte that was just read is placed after it; a
fault found by looking at the next byte without reading it is placed on that byte.

*Numbers.* An integer that fits 64 bits is kept as an integer (a negative one when it fits
the signed range; `-0` is the float `-0.0`). Any other number is read as a float by one
rule: the significand's digits (at most those that fit 64 bits, the rest counted into the
exponent) are converted to the nearest float, then multiplied or divided once by the float
nearest to the power of ten. Exponents beyond `10^308` divide by `10^308` first; a result
that overflows is the fault "number out of range". This is a fixed rule, not the nearest
float to the decimal, and answers depend on it.

*Strings* must be valid UTF-8, with escapes `\" \\ \/ \b \f \n \r \t \uXXXX` and UTF-16
surrogate pairs.

The same reader also re-reads the canonical text of a value that was already read
(`Source.positioned = false`): it then reports faults without a position.
-/

namespace Saga.Json

/-- What stopped a reading. -/
inductive Fault where
  | eofList
  | eofObject
  | eofString
  | eofValue
  | expectedColon
  | expectedListCommaOrEnd
  | expectedObjectCommaOrEnd
  | expectedIdent
  | expectedValue
  | invalidEscape
  | invalidNumber
  | numberOutOfRange
  | invalidCodePoint
  | controlCharacter
  | keyMustBeString
  | loneSurrogate
  | trailingComma
  | trailingCharacters
  | unexpectedEndOfHexEscape
  | recursionLimit
  /-- A fault of the value's shape, raised by a typed reading. -/
  | message (text : String)
  deriving Inhabited

/-- The text of a fault. -/
def Fault.text : Fault → String
  | .eofList => "EOF while parsing a list"
  | .eofObject => "EOF while parsing an object"
  | .eofString => "EOF while parsing a string"
  | .eofValue => "EOF while parsing a value"
  | .expectedColon => "expected `:`"
  | .expectedListCommaOrEnd => "expected `,` or `]`"
  | .expectedObjectCommaOrEnd => "expected `,` or `\x7d`"
  | .expectedIdent => "expected ident"
  | .expectedValue => "expected value"
  | .invalidEscape => "invalid escape"
  | .invalidNumber => "invalid number"
  | .numberOutOfRange => "number out of range"
  | .invalidCodePoint => "invalid unicode code point"
  | .controlCharacter => "control character (\\u0000-\\u001F) found while parsing a string"
  | .keyMustBeString => "key must be a string"
  | .loneSurrogate => "lone leading surrogate in hex escape"
  | .trailingComma => "trailing comma"
  | .trailingCharacters => "trailing characters"
  | .unexpectedEndOfHexEscape => "unexpected end of hex escape"
  | .recursionLimit => "recursion limit exceeded"
  | .message t => t

/-- A fault and, when reading a text, its line and column. -/
structure ReadError where
  fault : Fault
  place : Option (Nat × Nat)
  deriving Inhabited

/-- The error's text: the fault, then `at line L column C` when it has a place. -/
def ReadError.text (e : ReadError) : String :=
  match e.place with
  | some (l, c) => s!"{e.fault.text} at line {l} column {c}"
  | none => e.fault.text

/-- What is read, and whether faults are placed. -/
structure Source where
  bytes : ByteArray
  positioned : Bool

/-- Reading: the source is fixed, the state is the index of the next byte, and a fault keeps
the index where it was found. -/
abbrev ReadM := ReaderT Source (EStateM ReadError Nat)

/-- Line and column after the first `i` bytes: lines start at one, columns count bytes. -/
def placeOf (bytes : ByteArray) (i : Nat) : Nat × Nat :=
  (bytes.extract 0 i).foldl
    (fun (lc : Nat × Nat) b => if b = 10 then (lc.1 + 1, 0) else (lc.1, lc.2 + 1)) (1, 0)

/-- Fails with a fault placed after the first `i` bytes. -/
def failAt (i : Nat) (f : Fault) : ReadM α := do
  let s ← read
  throw ⟨f, if s.positioned then some (placeOf s.bytes i) else none⟩

/-- Fails with a fault placed after the bytes read so far. -/
def fail (f : Fault) : ReadM α := do
  failAt (← get) f

/-- Fails with a fault placed on the next byte, which is not read. -/
def failPeek (f : Fault) : ReadM α := do
  let s ← read
  failAt (min s.bytes.size ((← get) + 1)) f

/-- Places an unplaced fault of `act` after the bytes read when it stopped. -/
def placed (act : ReadM α) : ReadM α :=
  tryCatch act fun e => if e.place.isSome then throw e else fail e.fault

/-- The next byte, not read. -/
def peekByte : ReadM (Option UInt8) := do
  return (← read).bytes[← get]?

/-- Reads one byte. -/
def skipByte : ReadM Unit :=
  modify (· + 1)

/-- Reads and returns the next byte. -/
def nextByte : ReadM (Option UInt8) := do
  let b ← peekByte
  if b.isSome then skipByte
  return b

/-- Bytes left to read; loops over the input run at most this many times plus one. -/
def remaining : ReadM Nat := do
  return (← read).bytes.size - (← get) + 1

/-- An ASCII digit. -/
def isDigit (b : UInt8) : Bool := 48 ≤ b && b ≤ 57

/-- The value of an ASCII digit. -/
def digitValue (b : UInt8) : Nat := b.toNat - 48

/-- Skips blanks (space, tab, line feed, carriage return) and shows the next byte. -/
def skipBlanks : ReadM (Option UInt8) := do
  let rec go : Nat → ReadM (Option UInt8)
    | 0 => peekByte
    | n + 1 => do
      match ← peekByte with
      | some b => if b = 32 || b = 9 || b = 10 || b = 13 then skipByte; go n else return some b
      | none => return none
  go (← remaining)

/-- Reads the rest of a literal (`ull`, `rue`, `alse`) byte by byte. -/
def expectLiteral : List UInt8 → ReadM Unit
  | [] => pure ()
  | c :: cs => do
    match ← nextByte with
    | none => fail .eofValue
    | some b => if b = c then expectLiteral cs else fail .expectedIdent

/-- The literal `null` after its first byte. -/
def nullTail : List UInt8 := [117, 108, 108]
/-- The literal `true` after its first byte. -/
def trueTail : List UInt8 := [114, 117, 101]
/-- The literal `false` after its first byte. -/
def falseTail : List UInt8 := [97, 108, 115, 101]

/-! ## Numbers -/

/-- The largest 64-bit unsigned integer. -/
def u64Max : Nat := Nat.pow 2 64 - 1

/-- The largest 32-bit signed integer, the bound on a written exponent. -/
def i32Max : Nat := Nat.pow 2 31 - 1

/-- Whether appending digit `d` to `n` passes `bound`. -/
def overflows (n d bound : Nat) : Bool :=
  n ≥ bound / 10 && (n > bound / 10 || d > bound % 10)

/-- Clamps an exponent to the 32-bit signed range. -/
def clampI32 (i : Int) : Int :=
  max (-(Int.pow 2 31)) (min (Int.pow 2 31 - 1) i)

/-- The float nearest to `10^k`. -/
def pow10 (k : Nat) : Float := Float.ofScientific 1 false k

/-- `significand · 10^exponent` by the reading rule: one conversion, then one
multiplication or division by a power of ten, dividing by `10^308` while the exponent is
further below. A value already read (no positions) is re-read exactly, so that it keeps
the float it was read as. -/
def floatOfParts (positive : Bool) (significand : Nat) (exponent : Int) : ReadM Float := do
  if !(← read).positioned then
    let f := Float.ofScientific significand (exponent < 0) exponent.natAbs
    return if positive then f else -f
  let rec go : Nat → Float → Int → ReadM Float
    | 0, f, _ => return f
    | fuel + 1, f, e =>
      if e.natAbs ≤ 308 then
        if e ≥ 0 then
          let g := f * pow10 e.natAbs
          if g.isInf then fail .numberOutOfRange else return g
        else return f / pow10 e.natAbs
      else if f == 0 then return f
      else if e ≥ 0 then fail .numberOutOfRange
      else go fuel (f / pow10 308) (e + 308)
  let f ← go (exponent.natAbs / 308 + 2) (Float.ofScientific significand false 0) exponent
  return if positive then f else -f

/-- After the exponent marker: an optional sign and at least one digit. -/
def readExponent (positive : Bool) (significand : Nat) (start : Int) : ReadM Float := do
  skipByte
  let positiveExp ← match ← peekByte with
    | some 43 => do skipByte; pure true
    | some 45 => do skipByte; pure false
    | _ => pure true
  let first ← match ← nextByte with
    | none => fail .eofValue
    | some b => if isDigit b then pure (digitValue b) else fail .invalidNumber
  let rec digits : Nat → Nat → ReadM (Option Nat)
    | 0, e => return some e
    | n + 1, e => do
      match ← peekByte with
      | some b =>
        if isDigit b then
          skipByte
          if overflows e (digitValue b) i32Max then return none
          else digits n (e * 10 + digitValue b)
        else return some e
      | none => return some e
  match ← digits (← remaining) first with
  | some e =>
    let final := clampI32 (if positiveExp then start + e else start - e)
    floatOfParts positive significand final
  | none =>
    -- an exponent beyond 32 bits: an error upwards, zero downwards
    if significand ≠ 0 && positiveExp then fail .numberOutOfRange
    else
      let rec skip : Nat → ReadM Unit
        | 0 => pure ()
        | n + 1 => do
          match ← peekByte with
          | some b => if isDigit b then skipByte; skip n else pure ()
          | none => pure ()
      skip (← remaining)
      return if positive then 0.0 else -0.0

/-- Skips digits that no longer fit the significand. -/
def skipDigits : ReadM Unit := do
  let rec go : Nat → ReadM Unit
    | 0 => pure ()
    | n + 1 => do
      match ← peekByte with
      | some b => if isDigit b then skipByte; go n else pure ()
      | none => pure ()
  go (← remaining)

/-- After the decimal point: at least one digit, then an optional exponent. -/
def readFraction (positive : Bool) (significand : Nat) (before : Int) : ReadM Float := do
  skipByte
  let rec digits : Nat → Nat → Int → ReadM (Nat × Int × Bool)
    | 0, s, e => return (s, e, false)
    | n + 1, s, e => do
      match ← peekByte with
      | some b =>
        if isDigit b then
          if overflows s (digitValue b) u64Max then return (s, e, true)
          else skipByte; digits n (s * 10 + digitValue b) (e - 1)
        else return (s, e, false)
      | none => return (s, e, false)
  let (s, after, full) ← digits (← remaining) significand 0
  if full then
    skipDigits
    match ← peekByte with
    | some 101 | some 69 => readExponent positive s (before + after)
    | _ => floatOfParts positive s (before + after)
  else
    if after = 0 then
      match ← peekByte with
      | some _ => failPeek .invalidNumber
      | none => failPeek .eofValue
    match ← peekByte with
    | some 101 | some 69 => readExponent positive s (before + after)
    | _ => floatOfParts positive s (before + after)

/-- What follows an integer part that fits: a fraction, an exponent, or nothing. -/
def readNumberTail (positive : Bool) (significand : Nat) : ReadM Number := do
  match ← peekByte with
  | some 46 => return .float (← readFraction positive significand 0)
  | some 101 | some 69 => return .float (← readExponent positive significand 0)
  | _ =>
    if positive then return .nat significand
    else if significand = 0 || significand > Nat.pow 2 63 then
      return .float (-(Float.ofScientific significand false 0))
    else return .int (-(significand : Int))

/-- An integer part too long for 64 bits: the rest of its digits only scale it. -/
def readLongInteger (positive : Bool) (significand : Nat) : ReadM Float := do
  let rec go : Nat → Int → ReadM Float
    | 0, e => floatOfParts positive significand e
    | n + 1, e => do
      match ← peekByte with
      | some b =>
        if isDigit b then skipByte; go n (e + 1)
        else if b = 46 then readFraction positive significand e
        else if b = 101 || b = 69 then readExponent positive significand e
        else floatOfParts positive significand e
      | none => floatOfParts positive significand e
  go (← remaining) 0

/-- A number after its sign: one leading zero or a non-zero digit, then the rest. -/
def readNumber (positive : Bool) : ReadM Number := do
  match ← nextByte with
  | none => fail .eofValue
  | some c =>
    if c = 48 then
      match ← peekByte with
      | some d => if isDigit d then failPeek .invalidNumber else readNumberTail positive 0
      | none => readNumberTail positive 0
    else if isDigit c then
      let rec go : Nat → Nat → ReadM Number
        | 0, s => readNumberTail positive s
        | n + 1, s => do
          match ← peekByte with
          | some b =>
            if isDigit b then
              if overflows s (digitValue b) u64Max then
                return .float (← readLongInteger positive s)
              else skipByte; go n (s * 10 + digitValue b)
            else readNumberTail positive s
          | none => readNumberTail positive s
      go (← remaining) (digitValue c)
    else fail .invalidNumber

/-! ## Strings -/

/-- The value of a hexadecimal digit. -/
def hexValue (b : UInt8) : Option Nat :=
  if 48 ≤ b && b ≤ 57 then some (b.toNat - 48)
  else if 97 ≤ b && b ≤ 102 then some (b.toNat - 87)
  else if 65 ≤ b && b ≤ 70 then some (b.toNat - 55)
  else none

/-- Four hexadecimal digits of a `\u` escape. -/
def readHex4 : ReadM Nat := do
  let s ← read
  let p ← get
  if p + 4 ≤ s.bytes.size then
    set (p + 4)
    let ds := [s.bytes[p]?, s.bytes[p + 1]?, s.bytes[p + 2]?, s.bytes[p + 3]?]
    match ds.mapM (fun b => b.bind hexValue) with
    | some [a, b, c, d] => return ((a * 16 + b) * 16 + c) * 16 + d
    | _ => fail .invalidEscape
  else
    set s.bytes.size
    fail .eofString

/-- The UTF-8 bytes of a code point. -/
def utf8Bytes (c : Nat) : List UInt8 :=
  if c < 0x80 then [c.toUInt8]
  else if c < 0x800 then [(0xC0 + c / 64).toUInt8, (0x80 + c % 64).toUInt8]
  else if c < 0x10000 then
    [(0xE0 + c / 4096).toUInt8, (0x80 + c / 64 % 64).toUInt8, (0x80 + c % 64).toUInt8]
  else
    [(0xF0 + c / 262144).toUInt8, (0x80 + c / 4096 % 64).toUInt8,
      (0x80 + c / 64 % 64).toUInt8, (0x80 + c % 64).toUInt8]

/-- The next byte, which must exist inside a string. -/
def stringByte : ReadM UInt8 := do
  match ← nextByte with
  | some b => return b
  | none => fail .eofString

/-- A `\u` escape, with a following low surrogate when it is a high one. -/
def readUnicodeEscape : ReadM (List UInt8) := do
  let n ← readHex4
  if 0xDC00 ≤ n && n ≤ 0xDFFF then fail .loneSurrogate
  else if n < 0xD800 || n > 0xDBFF then return utf8Bytes n
  else
    match ← peekByte with
    | some 92 => skipByte
    | some _ => skipByte; fail .unexpectedEndOfHexEscape
    | none => fail .eofString
    match ← peekByte with
    | some 117 => skipByte
    | some _ => skipByte; fail .unexpectedEndOfHexEscape
    | none => fail .eofString
    let m ← readHex4
    if m < 0xDC00 || m > 0xDFFF then fail .loneSurrogate
    else return utf8Bytes ((n - 0xD800) * 1024 + (m - 0xDC00) + 0x10000)

/-- One escape after its backslash. -/
def readEscape : ReadM (List UInt8) := do
  match ← stringByte with
  | 34 => return [34]
  | 92 => return [92]
  | 47 => return [47]
  | 98 => return [8]
  | 102 => return [12]
  | 110 => return [10]
  | 114 => return [13]
  | 116 => return [9]
  | 117 => readUnicodeEscape
  | _ => fail .invalidEscape

/-- The rest of a string after its opening quote; the bytes must be UTF-8. -/
def readStringBody : ReadM String := do
  let rec go : Nat → ByteArray → ReadM String
    | 0, _ => fail .eofString
    | n + 1, acc => do
      match ← nextByte with
      | none => fail .eofString
      | some 34 =>
        match String.fromUTF8? acc with
        | some s => return s
        | none => fail .invalidCodePoint
      | some 92 => go n ((← readEscape).foldl ByteArray.push acc)
      | some b => if b < 32 then fail .controlCharacter else go n (acc.push b)
  go (← remaining) ByteArray.empty

/-! ## Values -/

/-- Nesting allowed below the top: a value nested deeper is refused. -/
def depthLimit : Nat := 127

/-- The end of an array: `]`, or a fault for what stands there instead. -/
def endArray : ReadM Unit := do
  match ← skipBlanks with
  | some 93 => skipByte
  | some 44 =>
    skipByte
    match ← skipBlanks with
    | some 93 => failPeek .trailingComma
    | _ => failPeek .trailingCharacters
  | some _ => failPeek .trailingCharacters
  | none => fail .eofList

/-- The end of an object: `}`, or a fault for what stands there instead. -/
def endObject : ReadM Unit := do
  match ← skipBlanks with
  | some 125 => skipByte
  | some 44 => failPeek .trailingComma
  | some _ => failPeek .trailingCharacters
  | none => fail .eofObject

/-- Before an array element: `true` when one follows, `false` at `]`. -/
def nextItem (first : Bool) : ReadM Bool := do
  match ← skipBlanks with
  | some 93 => return false
  | some 44 =>
    if first then return true
    else
      skipByte
      match ← skipBlanks with
      | some 93 => failPeek .trailingComma
      | some _ => return true
      | none => failPeek .eofValue
  | some _ => if first then return true else failPeek .expectedListCommaOrEnd
  | none => failPeek .eofList

/-- Before an object member: its key when one follows, `none` at `}`. -/
def nextKey (first : Bool) : ReadM (Option String) := do
  let key : ReadM (Option String) := do
    match ← peekByte with
    | some 34 => skipByte; return some (← readStringBody)
    | some 125 => failPeek .trailingComma
    | some _ => failPeek .keyMustBeString
    | none => failPeek .eofValue
  match ← skipBlanks with
  | some 125 => return none
  | some 44 =>
    if first then failPeek .keyMustBeString
    else
      skipByte
      match ← skipBlanks with
      | some _ => key
      | none => failPeek .eofValue
  | some _ => if first then key else failPeek .expectedObjectCommaOrEnd
  | none => failPeek .eofObject

/-- The colon between a key and its value. -/
def readColon : ReadM Unit := do
  match ← skipBlanks with
  | some 58 => skipByte
  | some _ => failPeek .expectedColon
  | none => failPeek .eofObject

/-- Refuses to open one more level when none is left. -/
def enterLevel (depth : Nat) : ReadM Unit :=
  if depth = 0 then failPeek .recursionLimit else pure ()

/-- Any value; objects become sorted maps in which a repeated key keeps its last value. -/
def readValue : Nat → Nat → ReadM Json
  | 0, _ => fail .eofValue
  | fuel + 1, depth => do
    match ← skipBlanks with
    | none => failPeek .eofValue
    | some b =>
      if b = 110 then skipByte; expectLiteral nullTail; return .null
      else if b = 116 then skipByte; expectLiteral trueTail; return .bool true
      else if b = 102 then skipByte; expectLiteral falseTail; return .bool false
      else if b = 45 then skipByte; placed (return .num (← readNumber false))
      else if isDigit b then placed (return .num (← readNumber true))
      else if b = 34 then skipByte; return .str (← readStringBody)
      else if b = 91 then
        enterLevel depth
        skipByte
        let rec items : Nat → Bool → List Json → ReadM (List Json)
          | 0, _, acc => return acc.reverse
          | n + 1, first, acc => do
            if ← nextItem first then items n false ((← readValue fuel (depth - 1)) :: acc)
            else return acc.reverse
        let xs ← items fuel true []
        endArray
        return .arr xs
      else if b = 123 then
        enterLevel depth
        skipByte
        let rec members : Nat → Bool → List (String × Json) → ReadM (List (String × Json))
          | 0, _, acc => return acc
          | n + 1, first, acc => do
            match ← nextKey first with
            | some k =>
              readColon
              let v ← readValue fuel (depth - 1)
              members n false (insertMember k v acc)
            | none => return acc
        let ms ← members fuel true []
        endObject
        return .obj ms
      else failPeek .expectedValue

/-- Reading fuel for a source: more than the number of values it can hold. -/
def Source.fuel (s : Source) : Nat := 2 * s.bytes.size + 8

/-- Fails when anything but blanks follows the value. -/
def readEnd : ReadM Unit := do
  match ← skipBlanks with
  | some _ => failPeek .trailingCharacters
  | none => pure ()

/-- Runs a reading over a whole source: the value, then nothing but blanks. -/
def ReadM.runOn (r : ReadM α) (s : Source) : Except ReadError α :=
  match ((do let v ← r; readEnd; return v : ReadM α).run s).run 0 with
  | .ok v _ => .ok v
  | .error e _ => .error e

/-- Reads a JSON text given as bytes, with faults placed. -/
def parseBytes (bytes : ByteArray) : Except ReadError Json :=
  let s : Source := ⟨bytes, true⟩
  (readValue s.fuel depthLimit).runOn s

/-- Reads a JSON text, with faults placed. -/
def parse (text : String) : Except ReadError Json :=
  parseBytes text.toUTF8

end Saga.Json
