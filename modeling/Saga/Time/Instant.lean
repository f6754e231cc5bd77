import Saga.Time.Span
import Saga.Text.Basic

/-!
# Instants

An `Instant` is a point in UTC: whole seconds since 1970-01-01T00:00:00Z in the proleptic
Gregorian calendar, and nanoseconds. A leap second is the second `23:59:59` with
nanoseconds from `10^9` on, so it sorts between `23:59:59` and the next day.

Instants are written in RFC 3339 with `Z`: `writeAuto` gives no fraction for whole seconds
and otherwise 3, 6 or 9 digits, whichever is the fewest exact; `writeNanos` always gives
9 digits. A year outside `0000..9999` is written with its sign and at least four digits.

Two readers take RFC 3339 text with any offset and convert it to UTC:

* `parseStrict` takes exactly `YYYY-MM-DD`, `T` (or `t` or a space), `hh:mm:ss`, an
  optional fraction, and `Z` or `±hh:mm`;
* `parseLoose` also allows blanks around the fields, years of other widths with a sign,
  `UTC` and offsets without a colon, and says why a text is refused:
  `input contains invalid characters`, `input is out of range`, `premature end of input`,
  `trailing input`, `input is not enough for unique date and time`.
-/

namespace Saga

/-- A point in UTC. -/
structure Instant where
  /-- Seconds since 1970-01-01T00:00:00Z. -/
  secs : Int
  /-- Nanoseconds into the second; from `10^9` on, a leap second. -/
  nanos : Nat
  deriving Repr, BEq, DecidableEq, Inhabited

namespace Instant

instance : Ord Instant := ⟨fun a b => (compare a.secs b.secs).then (compare a.nanos b.nanos)⟩

instance : LT Instant := ⟨fun a b => compare a b = .lt⟩

instance (a b : Instant) : Decidable (a < b) := inferInstanceAs (Decidable (compare a b = .lt))

instance : LE Instant := ⟨fun a b => compare a b ≠ .gt⟩

instance (a b : Instant) : Decidable (a ≤ b) := inferInstanceAs (Decidable (compare a b ≠ .gt))

/-- Days from 1970-01-01 to a civil date. -/
def daysFromCivil (y : Int) (m d : Nat) : Int :=
  let y := if m ≤ 2 then y - 1 else y
  let era := y / 400
  let yoe := y - era * 400
  let mp : Int := if m > 2 then (m : Int) - 3 else (m : Int) + 9
  let doy := (153 * mp + 2) / 5 + (d : Int) - 1
  let doe := yoe * 365 + yoe / 4 - yoe / 100 + doy
  era * 146097 + doe - 719468

/-- The civil date `(year, month, day)` of a day count from 1970-01-01. -/
def civilFromDays (z : Int) : Int × Nat × Nat :=
  let z := z + 719468
  let era := z / 146097
  let doe := z - era * 146097
  let yoe := (doe - doe / 1460 + doe / 36524 - doe / 146096) / 365
  let y := yoe + era * 400
  let doy := doe - (365 * yoe + yoe / 4 - yoe / 100)
  let mp := (5 * doy + 2) / 153
  let d := doy - (153 * mp + 2) / 5 + 1
  let m := if mp < 10 then mp + 3 else mp - 9
  ((if m ≤ 2 then y + 1 else y), m.toNat, d.toNat)

/-- Whether a year is a leap year. -/
def isLeapYear (y : Int) : Bool := (y % 4 = 0 && y % 100 ≠ 0) || y % 400 = 0

/-- Days in a month. -/
def daysInMonth (y : Int) (m : Nat) : Nat :=
  if m = 2 then (if isLeapYear y then 29 else 28)
  else if m = 4 || m = 6 || m = 9 || m = 11 then 30 else 31

/-- The instant of a civil date and time in UTC (second 60 is a leap second). -/
def ofCivil (y : Int) (mo d h mi s nanos : Nat) : Instant :=
  let (s, nanos) := if s = 60 then (59, nanos + 1000000000) else (s, nanos)
  ⟨daysFromCivil y mo d * 86400 + ((h * 3600 + mi * 60 + s : Nat) : Int), nanos⟩

/-- Zero-padded decimal of `n` with at least `w` digits. -/
def pad (w n : Nat) : String :=
  let s := toString n
  String.ofList (List.replicate (w - s.length) '0') ++ s

/-- The calendar part `YYYY-MM-DDThh:mm:ss`. -/
def writeSeconds (t : Instant) : String :=
  let days := t.secs / 86400
  let rem := (t.secs % 86400).toNat
  let (y, m, d) := civilFromDays days
  let leap := t.nanos ≥ 1000000000
  let yearText :=
    if 0 ≤ y && y ≤ 9999 then pad 4 y.toNat
    else (if y < 0 then "-" else "+") ++ pad 4 y.natAbs
  yearText ++ "-" ++ pad 2 m ++ "-" ++ pad 2 d ++ "T" ++ pad 2 (rem / 3600) ++ ":" ++
    pad 2 (rem / 60 % 60) ++ ":" ++ pad 2 (if leap then 60 else rem % 60)

/-- The nanoseconds within the written second. -/
def fraction (t : Instant) : Nat := t.nanos % 1000000000

/-- RFC 3339 with the fewest of 0, 3, 6 or 9 fraction digits that are exact. -/
def writeAuto (t : Instant) : String :=
  let f := t.fraction
  let frac :=
    if f = 0 then ""
    else if f % 1000000 = 0 then "." ++ pad 3 (f / 1000000)
    else if f % 1000 = 0 then "." ++ pad 6 (f / 1000)
    else "." ++ pad 9 f
  t.writeSeconds ++ frac ++ "Z"

/-- RFC 3339 with 9 fraction digits. -/
def writeNanos (t : Instant) : String :=
  t.writeSeconds ++ "." ++ pad 9 t.fraction ++ "Z"

/-- Nanoseconds from `a` to `b`, negative when `b` is earlier. -/
def nanosBetween (a b : Instant) : Int :=
  (b.secs - a.secs) * 1000000000 + ((b.nanos : Int) - (a.nanos : Int))

/-- The span from `a` to `b`, or none when `b` is earlier. -/
def spanBetween (a b : Instant) : Option Span :=
  let n := nanosBetween a b
  if n < 0 then none else some (Span.ofNanos n.toNat)

/-- The instant `n` nanoseconds later. -/
def addNanos (t : Instant) (n : Nat) : Instant :=
  let total := t.nanos + n
  ⟨t.secs + (total / 1000000000 : Nat), total % 1000000000⟩

/-! ## Reading -/

/-- Why a text is not an instant. -/
inductive TimeFault where
  | outOfRange
  | impossible
  | notEnough
  | invalid
  | tooShort
  | tooLong
  deriving Repr, BEq, Inhabited

/-- The text of a time fault. -/
def TimeFault.text : TimeFault → String
  | .outOfRange => "input is out of range"
  | .impossible => "no possible date and time matching input"
  | .notEnough => "input is not enough for unique date and time"
  | .invalid => "input contains invalid characters"
  | .tooShort => "premature end of input"
  | .tooLong => "trailing input"

/-- Reading of time texts: the rest of the text, or the fault. -/
abbrev Scan (α : Type) := List Char → Except TimeFault (α × List Char)

/-- The number of bytes of a text in UTF-8. -/
def byteLength (s : List Char) : Nat := s.foldl (fun n c => n + c.utf8Size) 0

/-- Whether a text has at least `n` bytes in UTF-8. -/
def hasBytes (s : List Char) (n : Nat) : Bool := byteLength (s.take n) ≥ n

/-- The largest value of a signed 64-bit integer. -/
def int64Max : Nat := Nat.pow 2 63 - 1

/-- At least `lo` and at most `hi` decimal digits as a number. A text of fewer than `lo` bytes
is too short; a non-digit among the first `lo` bytes is invalid; a value beyond a signed
64-bit integer is out of range. -/
def number (lo hi : Nat) : Scan Nat := fun s =>
  if !hasBytes s lo then .error .tooShort
  else
    let ds := (s.take hi).takeWhile Char.isDigit
    if ds.length < lo then .error .invalid
    else
      let v := ds.foldl (fun n c => n * 10 + (c.toNat - 48)) 0
      if v > int64Max then .error .outOfRange else .ok (v, s.drop ds.length)

/-- One expected character. -/
def char (c : Char) : Scan Unit := fun s =>
  match s with
  | [] => .error .tooShort
  | d :: rest => if d = c then .ok ((), rest) else .error .invalid

/-- A fraction after its point: one to nine digits scaled to nanoseconds, further digits
skipped. -/
def nanosecondDigits : Scan Nat := fun s => do
  let (v, rest) ← number 1 9 s
  let used := s.length - rest.length
  return (v * Nat.pow 10 (9 - used), rest.dropWhile Char.isDigit)

/-- Drops leading `White_Space` characters. -/
def trimStart (s : List Char) : List Char := s.dropWhile Text.isWhiteSpace

/-- A field value checked against its range as it is read. -/
def inRange (lo hi : Int) (v : Int) : Except TimeFault Unit :=
  if lo ≤ v ∧ v ≤ hi then .ok () else .error .outOfRange

/-- The fields of a date and time as read. -/
structure Fields where
  year : Int
  month : Nat
  day : Nat
  hour : Nat
  minute : Nat
  second : Nat
  nano : Nat
  offset : Int

/-- The first day of the calendar: -262143-01-01. -/
def firstDay : Int := daysFromCivil (-262143) 1 1

/-- The last day of the calendar: +262142-12-31. -/
def lastDay : Int := daysFromCivil 262142 12 31

/-- Converts fields read to an instant: the date must exist in the calendar and the offset
be less than a day; the instant in UTC must fall on a day of the calendar. -/
def Fields.toInstant (f : Fields) : Except TimeFault Instant := do
  if f.year < -262143 || f.year > 262142 || f.day > daysInMonth f.year f.month then
    throw .outOfRange
  if f.offset.natAbs ≥ 86400 then throw .outOfRange
  let wall := ofCivil f.year f.month f.day f.hour f.minute f.second f.nano
  let utc : Instant := ⟨wall.secs - f.offset, wall.nanos⟩
  let day := utc.secs / 86400
  if day < firstDay || day > lastDay then throw .impossible
  return utc

/-- Two leading decimal digits as a number. -/
def twoDigits (s : List Char) : Option Nat :=
  match s with
  | a :: b :: _ => if a.isDigit && b.isDigit then some ((a.toNat - 48) * 10 + (b.toNat - 48)) else none
  | _ => none

/-- An offset `Z`, or a sign (`+`, `-` or `−`), two hour digits, a separator taken by `sep`,
and two minute digits below 60; in seconds. -/
def offset (sep : List Char → Except TimeFault (List Char)) : Scan Int := fun s =>
  match s with
  | 'Z' :: rest | 'z' :: rest => .ok (0, rest)
  | [] => .error .tooShort
  | c :: rest => do
    let sign : Int ← if c = '+' then pure 1 else if c = '-' || c = '−' then pure (-1)
      else throw .invalid
    if !hasBytes rest 2 then throw .tooShort
    let some h := twoDigits rest | throw .invalid
    let s ← sep (rest.drop 2)
    if !hasBytes s 2 then throw .tooShort
    let some m := twoDigits s | throw .invalid
    if m ≥ 60 then throw .outOfRange
    return (sign * ((h * 60 + m) * 60 : Nat), s.drop 2)

/-- Reads strict RFC 3339, or says why not. -/
def readStrict (text : String) : Except TimeFault Instant := do
  let s := text.toList
  let (y, s) ← number 4 4 s
  let ((), s) ← char '-' s
  let (mo, s) ← number 2 2 s
  inRange 1 12 mo
  let ((), s) ← char '-' s
  let (d, s) ← number 2 2 s
  inRange 1 31 d
  let s ← match s with
    | c :: rest => if c = 'T' || c = 't' || c = ' ' then pure rest else throw .invalid
    | [] => throw .tooShort
  let (h, s) ← number 2 2 s
  inRange 0 23 h
  let ((), s) ← char ':' s
  let (mi, s) ← number 2 2 s
  inRange 0 59 mi
  let ((), s) ← char ':' s
  let (sec, s) ← number 2 2 s
  inRange 0 60 sec
  let (nano, s) ← match s with
    | '.' :: rest => nanosecondDigits rest
    | _ => pure (0, s)
  let (off, s) ← offset (fun s => match s with
    | ':' :: rest => .ok rest
    | [] => .error .tooShort
    | _ => .error .invalid) s
  if off.natAbs > (23 * 60 + 59) * 60 then throw .outOfRange
  if !s.isEmpty then throw .tooLong
  Fields.toInstant ⟨y, mo, d, h, mi, sec, nano, off⟩

/-- Reads strict RFC 3339. -/
def parseStrict (text : String) : Option Instant := (readStrict text).toOption

/-- A year after leading blanks: with a sign, any number of digits; without, at most four.
It must fit a signed 32-bit integer. -/
def yearField : Scan Int := fun s => do
  let (y, rest) ← match trimStart s with
    | '-' :: rest => (number 1 rest.length rest).map fun (v, r) => (-(v : Int), r)
    | '+' :: rest => (number 1 rest.length rest).map fun (v, r) => ((v : Int), r)
    | s => (number 1 4 s).map fun (v, r) => ((v : Int), r)
  inRange (-2147483648) 2147483647 y
  return (y, rest)

/-- A literal after optional blanks. -/
def literal (c : Char) : Scan Unit := fun s =>
  char c (trimStart s)

/-- A field of one or two digits after optional blanks, checked against its range. -/
def field (lo hi : Nat) : Scan Nat := fun s => do
  let (v, rest) ← number 1 2 (trimStart s)
  inRange lo hi v
  return (v, rest)

/-- Reads RFC 3339 with the relaxations of the module note, or says why not. -/
def parseLoose (text : String) : Except String Instant :=
  let go : Except TimeFault Instant := do
    let s := text.toList
    let (y, s) ← yearField s
    let ((), s) ← literal '-' s
    let (mo, s) ← field 1 12 s
    let ((), s) ← literal '-' s
    let (d, s) ← field 1 31 s
    let s ← match s with
      | c :: rest => if c = 'T' || c = 't' || c = ' ' then pure rest else throw .invalid
      | [] => throw .tooShort
    let (h, s) ← field 0 23 s
    let ((), s) ← literal ':' s
    let (mi, s) ← field 0 59 s
    let ((), s) ← literal ':' s
    let (sec, s) ← field 0 60 s
    let (nano, s) ← match s with
      | '.' :: rest => nanosecondDigits rest
      | _ => pure (0, s)
    let s := trimStart s
    let isUtc := match s with
      | a :: b :: c :: _ => a.toUpper = 'U' && b.toUpper = 'T' && c.toUpper = 'C'
      | _ => false
    let (off, s) ← if isUtc then pure (0, s.drop 3)
      else offset (fun s => .ok (s.dropWhile fun c => c = ':' || Text.isWhiteSpace c)) s
    if !(trimStart s).isEmpty then throw .tooLong
    Fields.toInstant ⟨y, mo, d, h, mi, sec, nano, off⟩
  go.mapError TimeFault.text

end Instant

end Saga

namespace Saga.Instant

/-- The serialized form of an instant: an RFC 3339 string, read loosely. The value read is
kept as its nine-digit text, which names the instant exactly. -/
def shape : Json.Shape :=
  .text "an RFC 3339 formatted date and time string" fun s =>
    (parseLoose s).map fun t => .str t.writeNanos

/-- The instant of a value read by `shape`. -/
def ofShape (j : Json) : Instant :=
  match j with
  | .str s => (parseLoose s).toOption.getD default
  | _ => default

/-- The serialized form of an instant, in whole seconds or 3, 6 or 9 fraction digits. -/
def toJson (t : Instant) : Json := .str t.writeAuto

/-- The serialized form of an optional instant. -/
def optionToJson : Option Instant → Json
  | some t => t.toJson
  | none => .null

end Saga.Instant
