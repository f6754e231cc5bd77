import Saga.Json.Shape

/-!
# Spans of time

A `Span` is a non-negative length of time in whole seconds and nanoseconds, the seconds
bounded by `2^64 - 1`. It is written in JSON as `{"secs": s, "nanos": n}` and read back from
that record (or from the array `[s, n]`), where nanoseconds beyond a second carry into the
seconds and a carry past the bound is refused.

Its debug text uses the largest unit that keeps a whole part: `1.5s`, `999ms`, `1.001s`,
`20µs`, `7ns`, with trailing zeros of the fraction dropped.
-/

namespace Saga

/-- A length of time: `secs` seconds and `nanos` nanoseconds, `nanos < 10^9`. -/
structure Span where
  secs : Nat
  nanos : Nat
  deriving Repr, BEq, DecidableEq, Inhabited

namespace Span

/-- Nanoseconds in a second. -/
def nanosPerSec : Nat := 1000000000

/-- The bound on seconds. -/
def maxSecs : Nat := Nat.pow 2 64 - 1

/-- No time. -/
def zero : Span := ⟨0, 0⟩

/-- The longest span. -/
def max : Span := ⟨maxSecs, nanosPerSec - 1⟩

/-- A span of `n` nanoseconds. -/
def ofNanos (n : Nat) : Span := ⟨n / nanosPerSec, n % nanosPerSec⟩

/-- A span of `n` milliseconds. -/
def ofMillis (n : Nat) : Span := ofNanos (n * 1000000)

/-- The span in nanoseconds. -/
def toNanos (d : Span) : Nat := d.secs * nanosPerSec + d.nanos

/-- Whole milliseconds of the span. -/
def toMillis (d : Span) : Nat := d.toNanos / 1000000

/-- Adds two spans, stopping at `max`. -/
def saturatingAdd (a b : Span) : Span :=
  let n := a.toNanos + b.toNanos
  if n > max.toNanos then max else ofNanos n

/-- The smaller of two spans. -/
def min (a b : Span) : Span := if a.toNanos ≤ b.toNanos then a else b

instance : LT Span := ⟨fun a b => a.toNanos < b.toNanos⟩

instance (a b : Span) : Decidable (a < b) := inferInstanceAs (Decidable (a.toNanos < b.toNanos))

/-- The record `{"secs", "nanos"}`. -/
def toJson (d : Span) : Json :=
  .obj [("nanos", .ofNat d.nanos), ("secs", .ofNat d.secs)]

/-- An optional span, `null` when absent. -/
def optionToJson : Option Span → Json
  | some d => d.toJson
  | none => .null

/-- The digits of a fraction `frac / (10 · unit)`, without trailing zeros. -/
def fractionDigits (frac unit : Nat) : Nat → List Char
  | 0 => []
  | n + 1 =>
    if frac = 0 || unit = 0 then []
    else Char.ofNat (48 + frac / unit) :: fractionDigits (frac % unit) (unit / 10) n

/-- `whole`, then `.` and the fraction's digits when there are any, then the unit. -/
def decimalText (whole frac unit : Nat) (suffix : String) : String :=
  let ds := fractionDigits frac unit 9
  toString whole ++ (if ds.isEmpty then "" else "." ++ String.ofList ds) ++ suffix

/-- The debug text: seconds when there is a whole second, else milliseconds, microseconds
or nanoseconds. -/
def debugText (d : Span) : String :=
  if d.secs > 0 then decimalText d.secs d.nanos 100000000 "s"
  else if d.nanos ≥ 1000000 then decimalText (d.nanos / 1000000) (d.nanos % 1000000) 100000 "ms"
  else if d.nanos ≥ 1000 then decimalText (d.nanos / 1000) (d.nanos % 1000) 100 "µs"
  else toString d.nanos ++ "ns"

/-- Builds a span from a record's seconds and nanoseconds, carrying whole seconds out of
the nanoseconds; refused when the carry passes the bound. -/
def ofParts (values : List Json) : Except String Json :=
  match values with
  | [.num (.nat s), .num (.nat n)] =>
    if s + n / nanosPerSec > maxSecs then .error "overflow deserializing Duration"
    else .ok (toJson ⟨s + n / nanosPerSec, n % nanosPerSec⟩)
  | _ => .error "overflow deserializing Duration"

/-- The shape of a span's JSON form: the closed record `Duration`. -/
def shape : Json.Shape :=
  .record "Duration"
    [("secs", .unsigned "u64" maxSecs, .required), ("nanos", .unsigned "u32" (Nat.pow 2 32 - 1), .required)]
    true "struct Duration" ofParts

/-- The span of a value read by `shape`. -/
def ofJson (j : Json) : Span :=
  match j.get? "secs", j.get? "nanos" with
  | some (.num (.nat s)), some (.num (.nat n)) => ⟨s, n⟩
  | _, _ => zero

end Span

end Saga
