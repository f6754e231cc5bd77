import Saga.Decimal.Shortest

/-!
# Writing a float's shortest decimal

A finite float is written with its shortest digits (`shortest`), either positionally or in
exponent form. Let `k` be the position of the decimal point relative to the first digit
(`10^(k-1) ≤ |x| < 10^k`). A `Layout` fixes the window of `k` in which the number is written
positionally; outside it the number is written as `d.ddde±n`, with no fraction when there is
one digit, and with `+` on a positive exponent where the layout asks for it. Positional
numbers always carry a fraction, `.0` when they are whole.

Three layouts are used: `Layout.json` for JSON numbers, `Layout.debug` for debug texts, and
`Layout.plain`, which is always positional, for the numbers quoted in messages. The first two
differ in where small numbers switch to exponent form and in the sign of positive
exponents (`1e+30` in JSON, `1e30` in debug texts).
-/

namespace Saga.Decimal

/-- Where positional notation ends: it is used when `lowest < k ≤ highest`. -/
structure Layout where
  /-- Exclusive lower end of the positional window. -/
  lowest : Int
  /-- Inclusive upper end of the positional window. -/
  highest : Int
  /-- Whether a positive exponent is written with `+`. -/
  plusExponent : Bool := false

/-- JSON numbers: positional from `0.00001` up to below `10^16`, `+` on positive exponents. -/
def Layout.json : Layout := ⟨-5, 16, true⟩

/-- Debug texts: positional from `0.0001` up to below `10^16`. -/
def Layout.debug : Layout := ⟨-4, 16, false⟩

/-- Always positional: a finite float has `-324 < k ≤ 309`. -/
def Layout.plain : Layout := ⟨-400, 400, false⟩

/-- The decimal digits of `n`, most significant first. -/
def digitsOf (n : Nat) : List Char :=
  (Nat.toDigits 10 n)

/-- `n` zeros. -/
def zeros (n : Nat) : List Char :=
  List.replicate n '0'

/-- The exponent suffix `e-7`, and `e30` or `e+30` as `plus` says. -/
def exponentText (plus : Bool) (e : Int) : List Char :=
  'e' :: (if e < 0 then '-' :: digitsOf e.natAbs
    else if plus then '+' :: digitsOf e.natAbs else digitsOf e.natAbs)

/-- The text of a non-negative decimal under a layout; zero is `0.0`. -/
def Layout.renderDecimal (l : Layout) (d : Scaled) : List Char :=
  if d.digits = 0 then ['0', '.', '0']
  else
    let ds := digitsOf d.digits
    let len : Int := ds.length
    let k := len + d.exp
    if l.lowest < k ∧ k ≤ l.highest then
      if d.exp ≥ 0 then ds ++ zeros d.exp.toNat ++ ['.', '0']
      else if k > 0 then ds.take k.toNat ++ '.' :: ds.drop k.toNat
      else '0' :: '.' :: zeros (-k).toNat ++ ds
    else
      match ds with
      | [c] => c :: exponentText l.plusExponent (k - 1)
      | c :: rest => c :: '.' :: rest ++ exponentText l.plusExponent (k - 1)
      | [] => []

/-- The text of a finite float under a layout, with `-` for a set sign bit (also `-0.0`). -/
def Layout.render (l : Layout) (f : Float) : String :=
  let body := l.renderDecimal (shortest f)
  String.ofList (if signBit f then '-' :: body else body)

end Saga.Decimal
