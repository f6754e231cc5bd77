import Saga.Time.Instant
import Mathlib

/-!
# Instants read back from their nine-digit text

Event metadata holds instants as `writeNanos` text and reads them with the strict RFC 3339
grammar. The text names the instant exactly when the clock library could have held it (a
leap second only in the last second of a minute) and its year has four digits
(`Instant.Regular`): then `parseStrict` gives it back (`parseStrict_writeNanos`). A year from
`10000` on is written with a sign, which the strict grammar refuses.

The calendar part is the inverse of the day count: `civilFromDays_spec` says that
`daysFromCivil` undoes `civilFromDays` on every day, and that the month and day it gives are
in range. Its proof follows the structure of the algorithm: a day of a 400-year era is split
into centuries, four-year cycles, years and days (`parts_of_doe`), and on that form the year of
the era comes out of the formula exactly (`yoe_of_parts`).
-/

namespace Saga

namespace Instant

/-! ## The calendar -/

/-- On the day `36524 c + 1461 q + 365 r + j` of an era, the formula for the year of the era
gives `100 c + 4 q + r`. The day after the last day of a year is only there in a leap year. -/
theorem yoe_of_parts (c q r j : Int) (hc0 : 0 ≤ c) (hc : c ≤ 3) (hq0 : 0 ≤ q) (hq : q ≤ 24)
    (hr0 : 0 ≤ r) (hr : r ≤ 3) (hj0 : 0 ≤ j)
    (hj : j ≤ 364 ∨ j = 365 ∧ r = 3 ∧ (q ≠ 24 ∨ c = 3)) :
    let doe := 36524 * c + 1461 * q + 365 * r + j
    (doe - doe / 1460 + doe / 36524 - doe / 146096) / 365 = 100 * c + 4 * q + r := by
  intro doe
  -- each quotient in turn, so that the last division is by 365 of a known number
  have hd : doe / 1460 = 25 * c + q + (24 * c + q + 365 * r + j) / 1460 := by omega
  have hδ : (24 * c + q + 365 * r + j) / 1460 = if 1460 ≤ 24 * c + q + 365 * r + j then 1 else 0 := by
    split <;> omega
  by_cases hend : c = 3 ∧ q = 24 ∧ r = 3 ∧ j = 365
  · obtain ⟨rfl, rfl, rfl, rfl⟩ := hend
    decide
  · have hcent : doe / 36524 = c := by omega
    have hera : doe / 146096 = 0 := by omega
    rw [hd, hδ, hcent, hera]
    split <;> omega

/-- Every day of an era is the day `j` of year `r` of cycle `q` of century `c`. -/
theorem parts_of_doe (doe : Int) (h0 : 0 ≤ doe) (h1 : doe ≤ 146096) :
    ∃ c q r j : Int, 0 ≤ c ∧ c ≤ 3 ∧ 0 ≤ q ∧ q ≤ 24 ∧ 0 ≤ r ∧ r ≤ 3 ∧ 0 ≤ j ∧
      (j ≤ 364 ∨ j = 365 ∧ r = 3 ∧ (q ≠ 24 ∨ c = 3)) ∧ doe = 36524 * c + 1461 * q + 365 * r + j := by
  -- the last century, cycle and year of each may be one day longer
  obtain ⟨c, hc0, hc, hcd, hcr⟩ : ∃ c : Int, 0 ≤ c ∧ c ≤ 3 ∧ 36524 * c ≤ doe ∧
      (doe - 36524 * c ≤ 36523 ∨ c = 3) :=
    ⟨min (doe / 36524) 3, by omega, by omega, by omega, by omega⟩
  obtain ⟨q, hq0, hq, hqd, hqr⟩ : ∃ q : Int, 0 ≤ q ∧ q ≤ 24 ∧ 1461 * q ≤ doe - 36524 * c ∧
      doe - 36524 * c - 1461 * q ≤ 1460 :=
    ⟨(doe - 36524 * c) / 1461, by omega, by omega, by omega, by omega⟩
  obtain ⟨r, hr0, hr, hrd, hrr⟩ : ∃ r : Int, 0 ≤ r ∧ r ≤ 3 ∧ 365 * r ≤ doe - 36524 * c - 1461 * q ∧
      (doe - 36524 * c - 1461 * q - 365 * r ≤ 364 ∨ r = 3) :=
    ⟨min ((doe - 36524 * c - 1461 * q) / 365) 3, by omega, by omega, by omega, by omega⟩
  refine ⟨c, q, r, doe - 36524 * c - 1461 * q - 365 * r, hc0, hc, hq0, hq, hr0, hr, by omega, ?_, by omega⟩
  omega

/-- Day `doe` of an era falls in year `yoe` of the era (years counted from March), `doy` days
into it; the 366th day only in a year followed by a leap day. -/
theorem yoe_spec (doe : Int) (h0 : 0 ≤ doe) (h1 : doe ≤ 146096) :
    let yoe := (doe - doe / 1460 + doe / 36524 - doe / 146096) / 365
    0 ≤ yoe ∧ yoe ≤ 399 ∧ 0 ≤ doe - (365 * yoe + yoe / 4 - yoe / 100) ∧
      (doe - (365 * yoe + yoe / 4 - yoe / 100) ≤ 364 ∨
        doe - (365 * yoe + yoe / 4 - yoe / 100) = 365 ∧ (yoe + 1) % 4 = 0 ∧
          ((yoe + 1) % 100 ≠ 0 ∨ (yoe + 1) % 400 = 0)) := by
  intro yoe
  obtain ⟨c, q, r, j, hc0, hc, hq0, hq, hr0, hr, hj0, hj, rfl⟩ := parts_of_doe doe h0 h1
  have hy : yoe = 100 * c + 4 * q + r := yoe_of_parts c q r j hc0 hc hq0 hq hr0 hr hj0 hj
  have h4 : (100 * c + 4 * q + r) / 4 = 25 * c + q := by omega
  have h100 : (100 * c + 4 * q + r) / 100 = c := by omega
  rw [hy, h4, h100]
  refine ⟨by omega, by omega, by omega, ?_⟩
  rcases hj with hj | ⟨rfl, rfl, hqc⟩
  · exact .inl (by omega)
  · exact .inr ⟨by omega, by omega, by omega⟩

/-- The month (counted from March) of a day of the year, and where the month starts. -/
theorem month_spec (doy : Int) (h0 : 0 ≤ doy) (h1 : doy ≤ 365) :
    let mp := (5 * doy + 2) / 153
    0 ≤ mp ∧ mp ≤ 11 ∧ (153 * mp + 2) / 5 ≤ doy ∧
      (mp < 11 → doy < (153 * (mp + 1) + 2) / 5) ∧ (mp = 11 → doy - (153 * mp + 2) / 5 = doy - 337) := by
  intro mp
  omega

/-- `civilFromDays` gives a date of the calendar, which `daysFromCivil` takes back to the day. -/
theorem civilFromDays_spec (z : Int) :
    let ymd := civilFromDays z
    1 ≤ ymd.2.1 ∧ ymd.2.1 ≤ 12 ∧ 1 ≤ ymd.2.2 ∧ ymd.2.2 ≤ daysInMonth ymd.1 ymd.2.1 ∧
      daysFromCivil ymd.1 ymd.2.1 ymd.2.2 = z := by
  obtain ⟨era, doe, h0, h1, hz⟩ : ∃ era doe : Int, 0 ≤ doe ∧ doe ≤ 146096 ∧ z + 719468 = era * 146097 + doe :=
    ⟨(z + 719468) / 146097, (z + 719468) % 146097, by omega, by omega, by omega⟩
  have hera : (z + 719468) / 146097 = era := by omega
  have hdoe : z + 719468 - era * 146097 = doe := by omega
  simp only [civilFromDays, hera, hdoe]
  have hs := yoe_spec doe h0 h1
  generalize (doe - doe / 1460 + doe / 36524 - doe / 146096) / 365 = yoe at hs ⊢
  obtain ⟨hy0, hy1, hd0, hd1⟩ := hs
  generalize hD : doe - (365 * yoe + yoe / 4 - yoe / 100) = doy at hd0 hd1 ⊢
  have hm := month_spec doy hd0 (by omega)
  generalize (5 * doy + 2) / 153 = mp at hm ⊢
  obtain ⟨hm0, hm1, hm2, hm3, hm4⟩ := hm
  have hera' : (yoe + era * 400) / 400 = era := by omega
  by_cases hlow : mp < 10
  · -- March to December: the year of the era is the civil year
    have hmonth : ((mp + 3).toNat : Int) = mp + 3 := by omega
    simp only [hlow, if_true, show ¬ (mp + 3 ≤ 2) by omega, if_false]
    refine ⟨by omega, by omega, by omega, ?_, ?_⟩
    · have : mp = 0 ∨ mp = 1 ∨ mp = 2 ∨ mp = 3 ∨ mp = 4 ∨ mp = 5 ∨ mp = 6 ∨ mp = 7 ∨ mp = 8 ∨ mp = 9 := by
        omega
      rcases this with rfl | rfl | rfl | rfl | rfl | rfl | rfl | rfl | rfl | rfl <;>
        simp [daysInMonth] <;> omega
    · simp only [daysFromCivil, show ¬ ((mp + 3).toNat ≤ 2) by omega, if_false, hmonth, hera']
      omega
  · -- January and February belong to the next civil year
    have hmonth : ((mp - 9).toNat : Int) = mp - 9 := by omega
    simp only [hlow, if_false, show mp - 9 ≤ 2 by omega, if_true]
    refine ⟨by omega, by omega, by omega, ?_, ?_⟩
    · rcases (by omega : mp = 10 ∨ mp = 11) with rfl | rfl
      · simp [daysInMonth]
        omega
      · rcases hd1 with hd1 | ⟨rfl, h4, h100⟩
        · simp [daysInMonth]
          split <;> omega
        · have hleap : isLeapYear (yoe + era * 400 + 1) = true := by
            simp only [isLeapYear, Bool.or_eq_true, Bool.and_eq_true, decide_eq_true_eq]
            omega
          simp [daysInMonth, hleap]
    · simp only [daysFromCivil, show (mp - 9).toNat ≤ 2 by omega, if_true, hmonth,
        show yoe + era * 400 + 1 - 1 = yoe + era * 400 by omega, hera']
      omega

theorem daysInMonth_le (y : Int) (m : Nat) : daysInMonth y m ≤ 31 := by
  unfold daysInMonth
  split
  · split <;> omega
  · split <;> omega

/-- The days of four-digit years are days of the calendar the readers accept. -/
theorem daysFromCivil_bounds {y : Int} {m d : Nat} (hy0 : 0 ≤ y) (hy1 : y ≤ 9999) (hm : 1 ≤ m)
    (hm' : m ≤ 12) (hd : d ≤ 31) : firstDay ≤ daysFromCivil y m d ∧ daysFromCivil y m d ≤ lastDay := by
  have hf : firstDay = -96465292 := by decide
  have hl : lastDay = 95026236 := by decide
  rw [hf, hl]
  simp only [daysFromCivil]
  split <;> omega

/-! ## Digits -/

theorem length_le_byteLength (s : List Char) : s.length ≤ byteLength s := by
  unfold byteLength
  -- every character takes at least one byte
  suffices h : ∀ k, k + s.length ≤ s.foldl (fun n c => n + c.utf8Size) k by
    simpa using h 0
  induction s with
  | nil => simp
  | cons c s ih =>
    intro k
    have := c.utf8Size_pos
    have := ih (k + c.utf8Size)
    simp only [List.foldl_cons, List.length_cons]
    omega

theorem hasBytes_of_length {s : List Char} {n : Nat} (h : n ≤ s.length) : hasBytes s n = true := by
  unfold hasBytes
  have := length_le_byteLength (s.take n)
  simp only [List.length_take] at this
  simp only [decide_eq_true_eq]
  omega

/-- The fold `number` reads digits with is the library's reading of digit characters. -/
theorem foldl_digits (ds : List Char) :
    ds.foldl (fun n c => n * 10 + (c.toNat - 48)) 0 = Nat.ofDigitChars 10 ds 0 := by
  rw [Nat.ofDigitChars_eq_foldl]
  congr 1
  funext n c
  simp only [Char.reduceToNat]
  omega

/-- Exactly `k` digits followed by anything are read by `number lo k` as their value. -/
theorem number_digits {lo k : Nat} {ds rest : List Char} (hds : ∀ c ∈ ds, c.isDigit = true)
    (hlen : ds.length = k) (hlo : lo ≤ k) (hv : Nat.ofDigitChars 10 ds 0 ≤ int64Max) :
    number lo k (ds ++ rest) = .ok (Nat.ofDigitChars 10 ds 0, rest) := by
  have htake : (ds ++ rest).take k = ds := by simp [← hlen]
  have hwhile : ds.takeWhile Char.isDigit = ds := List.takeWhile_eq_self_iff.mpr hds
  unfold number
  rw [hasBytes_of_length (by simp; omega)]
  simp only [Bool.not_true, Bool.false_eq_true, if_false, htake, hwhile, foldl_digits, hlen]
  rw [if_neg (by omega), if_neg (by omega)]
  simp [← hlen]

theorem toList_pad (w n : Nat) :
    (pad w n).toList = List.replicate (w - (Nat.toDigits 10 n).length) '0' ++ Nat.toDigits 10 n := by
  simp [pad, String.length]

theorem length_pad {w n : Nat} (hw : 0 < w) (h : n < 10 ^ w) : (pad w n).toList.length = w := by
  have := (Nat.length_toDigits_le_iff (by decide) hw).mpr h
  rw [toList_pad]
  simp only [List.length_append, List.length_replicate]
  omega

theorem isDigit_of_mem_pad {w n : Nat} {c : Char} (hc : c ∈ (pad w n).toList) : c.isDigit = true := by
  rw [toList_pad] at hc
  rcases List.mem_append.mp hc with hc | hc
  · rw [List.eq_of_mem_replicate hc]
    rfl
  · exact Nat.isDigit_of_mem_toDigits (by decide) (by decide) hc

theorem ofDigitChars_pad (w n : Nat) : Nat.ofDigitChars 10 (pad w n).toList 0 = n := by
  rw [toList_pad, Nat.ofDigitChars_append]
  simp

/-- A number written with `w` digits is read back by a reading of exactly `w`. -/
theorem number_pad {lo w n : Nat} (rest : List Char) (hlo : 0 < lo) (hw : lo ≤ w) (h : n < 10 ^ w)
    (hmax : n ≤ int64Max) : number lo w ((pad w n).toList ++ rest) = .ok (n, rest) := by
  rw [number_digits (fun c hc => isDigit_of_mem_pad hc) (length_pad (by omega) h) hw
    (by rw [ofDigitChars_pad]; exact hmax), ofDigitChars_pad]

/-! ## The strict reading of the nine-digit text -/

theorem ok_bind {ε α β : Type} (a : α) (f : α → Except ε β) : (Except.ok a >>= f) = f a := rfl

theorem pure_bind_except {ε α β : Type} (a : α) (f : α → Except ε β) : (pure a >>= f) = f a := rfl

theorem char_self (c : Char) (rest : List Char) : char c (c :: rest) = .ok ((), rest) := by
  simp [char]

theorem inRange_ok {lo hi v : Int} (h : lo ≤ v ∧ v ≤ hi) : inRange lo hi v = .ok () := by
  simp [inRange, h]

theorem offset_z (sep : List Char → Except TimeFault (List Char)) (rest : List Char) :
    offset sep ('Z' :: rest) = .ok (0, rest) := rfl

theorem nanosecondDigits_pad {f : Nat} (hf : f < 10 ^ 9) :
    nanosecondDigits ((pad 9 f).toList ++ ['Z']) = .ok (f, ['Z']) := by
  have h64 : int64Max = 9223372036854775807 := rfl
  simp only [nanosecondDigits, @number_pad 1 9 _ ['Z'] (by decide) (by decide) hf (by omega),
    ok_bind, List.length_append, length_pad (by decide) hf, List.length_singleton, Nat.add_sub_cancel,
    Nat.sub_self]
  show Except.ok (f * 1, ['Z']) = _
  rw [Nat.mul_one]

/-- The fields a writer gives an instant make the instant again; a leap second is written as
second 60 and read back as the second before it. -/
theorem ofCivil_fields {t : Instant} {y : Int} {m d rem : Nat} (hinv : daysFromCivil y m d = t.secs / 86400)
    (hrem : (t.secs % 86400).toNat = rem)
    (hleap : t.nanos < 1000000000 ∨ t.nanos < 2000000000 ∧ t.secs % 60 = 59) :
    ofCivil y m d (rem / 3600) (rem / 60 % 60) (if t.nanos ≥ 1000000000 then 60 else rem % 60) t.fraction = t := by
  unfold ofCivil fraction
  rcases t with ⟨secs, nanos⟩
  dsimp only at hinv hrem hleap ⊢
  split
  · rw [if_pos rfl]
    simp only [Instant.mk.injEq, hinv]
    omega
  · rw [if_neg (by omega)]
    simp only [Instant.mk.injEq, hinv]
    omega

/-- The civil year an instant falls in. -/
def year (t : Instant) : Int := (civilFromDays (t.secs / 86400)).1

/-- An instant as the clock library holds it, with a leap second only in the last second of a
minute, in a year written with four digits. -/
structure Regular (t : Instant) : Prop where
  year_nonneg : 0 ≤ t.year
  year_le : t.year ≤ 9999
  leap : t.nanos < 1000000000 ∨ t.nanos < 2000000000 ∧ t.secs % 60 = 59

/-- The nine-digit text of a regular instant reads back, by the strict grammar, as the instant. -/
theorem parseStrict_writeNanos {t : Instant} (ht : t.Regular) : parseStrict t.writeNanos = some t := by
  have hspec := civilFromDays_spec (t.secs / 86400)
  have hy0 := ht.year_nonneg
  have hy1 := ht.year_le
  unfold year at hy0 hy1
  generalize hc : civilFromDays (t.secs / 86400) = ymd at hspec hy0 hy1
  obtain ⟨y, m, d⟩ := ymd
  obtain ⟨hm1, hm12, hd1, hdim, hinv⟩ := hspec
  dsimp only at hm1 hm12 hd1 hdim hinv hy0 hy1
  have hyear : (0 ≤ y && y ≤ 9999) = true := by simp [hy0, hy1]
  simp only [parseStrict, readStrict, writeNanos, writeSeconds, hc, hyear, if_true]
  generalize hrem : (t.secs % 86400).toNat = rem
  have hw : ∀ a b c e f g i : String,
      (a ++ "-" ++ b ++ "-" ++ c ++ "T" ++ e ++ ":" ++ f ++ ":" ++ g ++ "." ++ i ++ "Z").toList =
        a.toList ++ '-' :: (b.toList ++ '-' :: (c.toList ++ 'T' :: (e.toList ++ ':' ::
          (f.toList ++ ':' :: (g.toList ++ '.' :: (i.toList ++ ['Z'])))))) := by
    intro a b c e f g i
    simp [String.toList_append]
  rw [hw]
  have hfrac : t.fraction < 10 ^ 9 := Nat.mod_lt _ (by decide)
  have h64 : int64Max = 9223372036854775807 := rfl
  have hd31 : d ≤ 31 := hdim.trans (daysInMonth_le y m)
  have hsec : (if t.nanos ≥ 1000000000 then 60 else rem % 60) < 10 ^ 2 := by split <;> omega
  have hrem' : rem < 86400 := by omega
  -- the fields one after another: each reading takes its digits and leaves the rest
  rw [number_pad _ (by decide) (by decide) (by omega) (by omega)]
  simp only [ok_bind, char_self]
  rw [number_pad _ (by decide) (by decide) (by omega) (by omega)]
  simp only [ok_bind, char_self, inRange_ok (show (1 : Int) ≤ m ∧ (m : Int) ≤ 12 by omega)]
  rw [number_pad _ (by decide) (by decide) (by omega) (by omega)]
  simp only [ok_bind, inRange_ok (show (1 : Int) ≤ d ∧ (d : Int) ≤ 31 by omega)]
  simp only [decide_true, Bool.true_or, if_true, pure_bind_except]
  rw [number_pad _ (by decide) (by decide) (by omega) (by omega)]
  simp only [ok_bind, char_self,
    inRange_ok (show (0 : Int) ≤ ((rem / 3600 : Nat) : Int) ∧ ((rem / 3600 : Nat) : Int) ≤ 23 by omega)]
  rw [number_pad _ (by decide) (by decide) (by omega) (by omega)]
  simp only [ok_bind, char_self,
    inRange_ok (show (0 : Int) ≤ ((rem / 60 % 60 : Nat) : Int) ∧ ((rem / 60 % 60 : Nat) : Int) ≤ 59 by omega)]
  rw [number_pad _ (by decide) (by decide) hsec (by omega)]
  simp only [ok_bind]
  rw [inRange_ok (by split <;> omega)]
  simp only [ok_bind, nanosecondDigits_pad hfrac, offset_z, Int.natAbs_zero, List.isEmpty_nil,
    Bool.not_true, Bool.false_eq_true, if_false, show ¬ (0 > (23 * 60 + 59) * 60) by decide]
  -- the checks of the fields pass, and the fields make the instant
  unfold Fields.toInstant
  have hyn : ((y.toNat : Nat) : Int) = y := Int.toNat_of_nonneg hy0
  dsimp only
  rw [hyn, ofCivil_fields hinv hrem ht.leap]
  have hb := daysFromCivil_bounds hy0 hy1 hm1 hm12 hd31
  rw [hinv] at hb
  have hok : (decide (y < -262143) || decide (y > 262142) || decide (d > daysInMonth y m)) = false := by
    simp only [Bool.or_eq_false_iff, decide_eq_false_iff_not]
    omega
  have hday : (decide (t.secs / 86400 < firstDay) || decide (t.secs / 86400 > lastDay)) = false := by
    simp only [Bool.or_eq_false_iff, decide_eq_false_iff_not]
    omega
  simp only [Int.sub_zero]
  simp only [hok, hday, Bool.false_eq_true, if_false, Int.natAbs_zero, show ¬ (0 ≥ 86400) by decide]
  rfl

end Instant

end Saga
