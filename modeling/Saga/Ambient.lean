import Saga.Time.Instant

/-!
# What a run takes from outside

A run reads the wall clock and draws fresh identifiers. Both come from an `Ambient` value
that the run threads through: every reading of the clock is one microsecond after the
last, so readings are distinct and increasing, and every identifier is a new version-4
UUID text, numbered in the order drawn.
-/

namespace Saga

/-- The wall clock and the identifiers drawn so far. -/
structure Ambient where
  /-- The first reading of the clock. -/
  start : Instant
  /-- The next reading of the clock. -/
  wall : Instant
  /-- How many identifiers were drawn. -/
  drawn : Nat := 0
  deriving Inhabited

namespace Ambient

/-- A fresh clock at `start`. -/
def beginAt (start : Instant) : Ambient := { start, wall := start }

/-- The clock's reading; the next one is a microsecond later. -/
def read (a : Ambient) : Instant × Ambient := (a.wall, { a with wall := a.wall.addNanos 1000 })

/-- Lowercase hexadecimal digits of `n`, at least `w` of them. -/
def hex (w n : Nat) : String :=
  let ds := Nat.toDigits 16 n
  String.ofList (List.replicate (w - ds.length) '0' ++ ds)

/-- The `n`-th identifier: a version-4 UUID text. -/
def uuidText (n : Nat) : String :=
  hex 8 (n / Nat.pow 2 32 % Nat.pow 2 32) ++ "-" ++ hex 4 (n / Nat.pow 2 16 % Nat.pow 2 16) ++ "-4" ++
    hex 3 (n / Nat.pow 2 4 % Nat.pow 2 12) ++ "-8" ++ hex 3 (n % Nat.pow 2 4) ++ "-" ++ hex 12 (n + 1)

/-- A fresh identifier. -/
def draw (a : Ambient) : String × Ambient := (uuidText a.drawn, { a with drawn := a.drawn + 1 })

end Ambient

/-- Computations that read the clock or draw identifiers. -/
abbrev AmbientM := StateM Ambient

/-- The clock's reading. -/
def readClock : AmbientM Instant := modifyGet Ambient.read

/-- A fresh identifier. -/
def drawId : AmbientM String := modifyGet Ambient.draw

end Saga
