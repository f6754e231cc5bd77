import Saga.Time.Instant
import Saga.Json.Basic

/-!
# Answers that do not depend on the clock or on chance

An answer mentions times read from the wall clock and identifiers drawn at random. Before
it is written, every identifier of the form `8-4-4-4-12` hexadecimal digits, inside a
string or a key, becomes `<uuid>`, and every string that is an RFC 3339 time within two
seconds of the request's stretch of wall-clock time becomes `<now>`. Times that a request
brings itself lie far from the clock and stay as they are. A `duration_ms` member next to a
masked start or completion time is a difference of clock times and becomes `<dur>`.
-/

namespace Saga.Protocol

/-- The wall-clock times a request saw: from `first` to `last`. -/
structure Window where
  first : Instant
  last : Instant
  deriving Inhabited

/-- Whether a time lies within two seconds of the window. -/
def Window.near (w : Window) (t : Instant) : Bool :=
  let lo : Instant := ⟨w.first.secs - 2, w.first.nanos⟩
  let hi : Instant := ⟨w.last.secs + 2, w.last.nanos⟩
  decide (lo ≤ t) && decide (t ≤ hi)

/-- Whether a character is a hexadecimal digit. -/
def isHex (c : Char) : Bool :=
  c.isDigit || ('a' ≤ c && c ≤ 'f') || ('A' ≤ c && c ≤ 'F')

/-- Whether the text starts with an identifier `8-4-4-4-12`. -/
def startsWithUuid (cs : List Char) : Bool :=
  let groups := [8, 4, 4, 4, 12]
  let rec go : List Nat → List Char → Bool
    | [], _ => true
    | [n], cs => (cs.take n).length == n && (cs.take n).all isHex
    | n :: ns, cs =>
      (cs.take n).length == n && (cs.take n).all isHex && (cs.drop n).head? == some '-' &&
        go ns (cs.drop (n + 1))
  go groups cs

/-- Replaces every identifier in a text by `<uuid>`. -/
def maskUuids : List Char → List Char
  | [] => []
  | c :: cs =>
    if startsWithUuid (c :: cs) then "<uuid>".toList ++ maskUuids (cs.drop 35)
    else c :: maskUuids cs
  termination_by cs => cs.length
  decreasing_by
    all_goals simp only [List.length_drop, List.length_cons]
    all_goals omega

/-- The masked form of one string. -/
def maskText (w : Window) (s : String) : String :=
  match Instant.parseStrict s with
  | some t => if w.near t then "<now>" else String.ofList (maskUuids s.toList)
  | none => String.ofList (maskUuids s.toList)

/-- A duration in milliseconds beside a masked clock time is masked too: `<dur>`. -/
def maskDuration (ms : List (String × Json)) : List (String × Json) :=
  let fromClock := ms.any fun (k, v) => (k == "started_at" || k == "completed_at") && v == .str "<now>"
  if fromClock then ms.map fun (k, v) => if k == "duration_ms" then (k, .str "<dur>") else (k, v)
  else ms

mutual

/-- Masks clock times and identifiers throughout a value. -/
def mask (w : Window) : Json → Json
  | .str s => .str (maskText w s)
  | .arr xs => .arr (maskItems w xs)
  | .obj ms => .obj (maskDuration (maskMembers w ms))
  | j => j

/-- Masks the items of an array. -/
def maskItems (w : Window) : List Json → List Json
  | [] => []
  | x :: xs => mask w x :: maskItems w xs

/-- Masks the keys and values of an object. -/
def maskMembers (w : Window) : List (String × Json) → List (String × Json)
  | [] => []
  | (k, v) :: ms => (String.ofList (maskUuids k.toList), mask w v) :: maskMembers w ms

end

end Saga.Protocol
