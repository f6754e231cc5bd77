import Saga.Text.Escaped

/-!
# Debug texts

Debug texts show a value the way a reader of logs wants it: strings in double quotes with
escapes, records as `Name { field: value, .. }`, lists as `[a, b]`, absent values as `None`
and present ones as `Some(..)`.

A quoted string escapes `"` and `\`, writes tab, carriage return, line feed and NUL as
`\t`, `\r`, `\n`, `\0`, and writes every other character of `Text.escapedRanges` as
`\u{hex}` (lowercase, no leading zeros); all other characters are written as they are.
-/

namespace Saga.Debug

/-- Lowercase hexadecimal digits of `n`, without leading zeros. -/
def hexDigits (n : Nat) : List Char :=
  Nat.toDigits 16 n

/-- One character inside a quoted debug string. -/
def escapeChar (c : Char) : List Char :=
  match c with
  | '"' => ['\\', '"']
  | '\\' => ['\\', '\\']
  | '\n' => ['\\', 'n']
  | '\r' => ['\\', 'r']
  | '\t' => ['\\', 't']
  | c =>
    if c.toNat = 0 then ['\\', '0']
    else if Text.isEscaped c then
      ['\\', 'u', '{'] ++ hexDigits c.toNat ++ ['}']
    else [c]

/-- A string in double quotes, escaped for a debug text. -/
def quote (s : String) : String :=
  String.ofList ('"' :: (s.toList.flatMap escapeChar ++ ['"']))

/-- A list of debug texts as `[a, b, c]`. -/
def list (items : List String) : String :=
  "[" ++ ", ".intercalate items ++ "]"

/-- An optional debug text as `Some(x)` or `None`. -/
def option (x : Option String) : String :=
  match x with
  | some s => "Some(" ++ s ++ ")"
  | none => "None"

/-- A record as `Name { a: x, b: y }`, or `Name` alone when it has no fields. -/
def record (name : String) (fields : List (String × String)) : String :=
  if fields.isEmpty then name
  else name ++ " \x7b " ++ ", ".intercalate (fields.map fun (k, v) => k ++ ": " ++ v) ++ " \x7d"

end Saga.Debug
