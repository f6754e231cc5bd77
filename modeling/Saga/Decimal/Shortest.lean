/-!
# Shortest decimal digits of a binary64 float

Every finite float stands for the exact rational `m · 2^e`. The reals that round back to it
form an interval around that value: half a gap to each neighbour, both ends included when
`m` is even (ties of reading go to the even significand). `shortest` finds the decimal with
the fewest significant digits in that interval, and of the candidates with that many digits
the one nearest to the float; an exact tie between two goes to the even significand.

All comparisons are exact `Nat` arithmetic on scaled integers, so the rule is the one stated
here and nothing depends on floating-point operations.
-/

namespace Saga.Decimal

/-- A decimal `digits · 10^exp`. `shortest` returns it with no trailing zero in `digits`. -/
structure Scaled where
  /-- The significand. -/
  digits : Nat
  /-- The power of ten it is scaled by. -/
  exp : Int
  deriving Repr, BEq, DecidableEq

/-- The significand and binary exponent of a finite float's absolute value, `m · 2^e`. -/
def binaryParts (f : Float) : Nat × Int :=
  let bits : Nat := f.toBits.toNat
  let frac : Nat := bits % Nat.pow 2 52
  let biased : Nat := (bits / Nat.pow 2 52) % Nat.pow 2 11
  if biased = 0 then (frac, -1074) else (frac + Nat.pow 2 52, Int.ofNat biased - 1075)

/-- Whether the float's sign bit is set (true also for `-0.0`). -/
def signBit (f : Float) : Bool :=
  f.toBits.toNat ≥ Nat.pow 2 63

/-- Number of decimal digits of `n` (one for zero). -/
def digitCount (n : Nat) : Nat :=
  if h : n < 10 then 1 else digitCount (n / 10) + 1
termination_by n
decreasing_by omega

/-- Compares `a · 10^p · 2^q` with `b`, for integer powers, by clearing the negative ones. -/
def scaledCompare (a : Nat) (p q : Int) (b : Nat) : Ordering :=
  let lhs := a * Nat.pow 10 p.toNat * Nat.pow 2 q.toNat
  let rhs := b * Nat.pow 10 (-p).toNat * Nat.pow 2 (-q).toNat
  compare lhs rhs

/-- Strips trailing zeros from a decimal's significand. -/
def Scaled.normalize (d : Scaled) : Scaled :=
  if h : d.digits ≠ 0 ∧ d.digits % 10 = 0 then
    Scaled.normalize ⟨d.digits / 10, d.exp + 1⟩
  else d
termination_by d.digits
decreasing_by omega

/-- The rounding interval of `m · 2^e`, scaled by `2^(e-2)`: lower end, value, upper end.
The lower gap is half as wide when `m` is the least normal significand above the smallest
exponent, since the float below it has the finer spacing. -/
def interval (m : Nat) (e : Int) : Nat × Nat × Nat :=
  let lowGap := if m = Nat.pow 2 52 ∧ e > -1074 then 1 else 2
  (4 * m - lowGap, 4 * m, 4 * m + 2)

/-- Whether `c · 10^p` lies in the rounding interval `(lo, hi) · 2^q`, ends included when
`closed`. -/
def inInterval (c : Nat) (p : Int) (lo hi : Nat) (q : Int) (closed : Bool) : Bool :=
  let above := scaledCompare c p (-q) lo
  let below := scaledCompare c p (-q) hi
  (above == .gt || (closed && above == .eq)) && (below == .lt || (closed && below == .eq))

/-- `⌊log₁₀ (a / b)⌋` for positive `a` and `b`. -/
def floorLog10 (a b : Nat) : Int :=
  let t : Int := (digitCount a : Int) - (digitCount b : Int)
  if a * Nat.pow 10 (-t).toNat ≥ b * Nat.pow 10 t.toNat then t else t - 1

/-- Of two neighbouring candidates `c` and `c + 1` (at scale `10^p`), the one nearer to
`v · 2^q`; a tie goes to the even one. -/
def nearer (c : Nat) (p : Int) (v : Nat) (q : Int) : Nat :=
  -- compare 2·v·2^q with (2c + 1)·10^p
  match scaledCompare (2 * c + 1) p (-q) (2 * v) with
  | .gt => c
  | .lt => c + 1
  | .eq => if c % 2 = 0 then c else c + 1

/-- The first digit count from `k` up to 17 at which the interval holds a decimal, and the
nearest such decimal. -/
def search (a b : Nat) (n : Int) (lo v hi : Nat) (q : Int) (closed : Bool) :
    Nat → Nat → Scaled
  | 0, _ => ⟨0, 0⟩
  | fuel + 1, k =>
    let p : Int := n - (k : Int) + 1
    -- ⌊(a / b) / 10^p⌋
    let cLo := a * Nat.pow 10 (-p).toNat / (b * Nat.pow 10 p.toNat)
    let loIn := inInterval cLo p lo hi q closed
    let hiIn := inInterval (cLo + 1) p lo hi q closed
    if loIn && hiIn then (Scaled.normalize ⟨nearer cLo p v q, p⟩)
    else if loIn then (Scaled.normalize ⟨cLo, p⟩)
    else if hiIn then (Scaled.normalize ⟨cLo + 1, p⟩)
    else search a b n lo v hi q closed fuel (k + 1)

/-- The shortest decimal that reads back as the float's absolute value, and of those the
nearest; zero for zero. Only meaningful for finite floats. -/
def shortest (f : Float) : Scaled :=
  let (m, e) := binaryParts f
  if m = 0 then ⟨0, 0⟩
  else
    let a := m * Nat.pow 2 e.toNat
    let b := Nat.pow 2 (-e).toNat
    let n := floorLog10 a b
    let (lo, v, hi) := interval m e
    search a b n lo v hi (e - 2) (m % 2 = 0) 18 1

end Saga.Decimal
