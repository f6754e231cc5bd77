/-!
# Text helpers

Substring search and trimming by the Unicode `White_Space` property, used where a rule
speaks of "the message contains" or "the value, trimmed".
-/

namespace Saga.Text

/-- Whether `needle` is a prefix of `hay`. -/
def startsWith : List Char → List Char → Bool
  | _, [] => true
  | [], _ :: _ => false
  | c :: cs, d :: ds => c == d && startsWith cs ds

/-- Whether `needle` occurs in `hay` as a contiguous piece; the empty needle occurs in
every text. -/
def occursIn (needle : List Char) : List Char → Bool
  | [] => needle.isEmpty
  | c :: cs => startsWith (c :: cs) needle || occursIn needle cs

/-- Whether `s` contains `piece`. -/
def contains (s piece : String) : Bool :=
  occursIn piece.toList s.toList

/-- Characters with the Unicode `White_Space` property. -/
def isWhiteSpace (c : Char) : Bool :=
  let n := c.toNat
  (9 ≤ n && n ≤ 13) || n = 32 || n = 0x85 || n = 0xA0 || n = 0x1680 ||
  (0x2000 ≤ n && n ≤ 0x200A) || n = 0x2028 || n = 0x2029 || n = 0x202F || n = 0x205F ||
  n = 0x3000

/-- `s` without leading and trailing `White_Space` characters. -/
def trim (s : String) : String :=
  String.ofList ((s.toList.dropWhile isWhiteSpace).reverse.dropWhile isWhiteSpace).reverse

/-- Whether `s` is empty or all `White_Space`. -/
def isBlank (s : String) : Bool :=
  s.toList.all isWhiteSpace

end Saga.Text
