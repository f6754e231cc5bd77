/-!
# The syntax of field patterns

A field value in a span filter that is neither a boolean nor a number is a regular
expression. This module decides whether its text is well formed, which is all a filter
needs to know of it before it is used.

The grammar is the usual one: alternatives `|`, groups `(...)`, `(?:...)`, named groups
`(?P<name>...)` and `(?<name>...)`, flag settings `(?imsUuxR-)`, classes `[...]` with ranges,
nested classes, the operators `&&`, `--`, `~~` and the ASCII classes `[:name:]`, repetitions
`*`, `+`, `?` and `{m}`, `{m,}`, `{m,n}` (each with an optional `?`), and escapes. A pattern
is malformed when a repetition has nothing to repeat (at the start, after `(`, `|` or a flag
setting), when a group or a class is left open, when `)` closes nothing, when a range runs
backwards or has a class at one end, when a count is missing or runs backwards, or when an
escape is unknown: a digit, a letter that names nothing, anything beyond ASCII, a bad hex
code, or an assertion inside a class.

The scan reads a character or more at each step, so a fuel of one more than the length of
the text is enough.
-/

namespace Saga.Telemetry.Pattern

/-- Characters with a meaning of their own in a pattern. -/
def isMeta (c : Char) : Bool := "\\.+*?()|[]{}^$#&-~".toList.contains c

/-- Whether a backslash before `c` makes it stand for itself: a meta character, or an ASCII
character that is none of a letter, a digit, `<` and `>`. -/
def isEscapable (c : Char) : Bool :=
  isMeta c || (c.toNat < 128 && !c.isAlphanum && c != '<' && c != '>')

/-- Whether `c` is a hexadecimal digit. -/
def isHexDigit (c : Char) : Bool :=
  c.isDigit || ('a' ≤ c && c ≤ 'f') || ('A' ≤ c && c ≤ 'F')

/-- The value of a hexadecimal digit. -/
def hexDigitValue (c : Char) : Nat :=
  if c.isDigit then c.toNat - 48
  else if 'a' ≤ c && c ≤ 'f' then c.toNat - 87
  else c.toNat - 55

/-- The value of hexadecimal digits. -/
def hexValue (ds : List Char) : Nat := ds.foldl (fun n c => n * 16 + hexDigitValue c) 0

/-- Whether `n` is a Unicode scalar value. -/
def isScalar (n : Nat) : Bool := n < 0xD800 || (0xE000 ≤ n && n ≤ 0x10FFFF)

/-- What an escape stands for. -/
inductive Escape where
  /-- One code point. -/
  | char (code : Nat)
  /-- A class of characters, such as the digits. -/
  | set
  /-- A position, such as a word boundary. -/
  | assertion
  deriving DecidableEq, Repr

/-- A code point written in hexadecimal after `\x`, `\u` or `\U`: exactly `width` digits, or
one digit or more in braces. -/
def hexEscape (width : Nat) : List Char → Option (Escape × List Char)
  | '{' :: r =>
    let ds := r.takeWhile isHexDigit
    match r.drop ds.length with
    | '}' :: rest =>
      if !ds.isEmpty && isScalar (hexValue ds) then some (.char (hexValue ds), rest) else none
    | _ => none
  | r =>
    let ds := r.take width
    if ds.length == width && ds.all isHexDigit && isScalar (hexValue ds) then
      some (.char (hexValue ds), r.drop width)
    else none

/-- A Unicode class after `\p` or `\P`: one letter naming a general category, or a name in
braces. -/
def propertyEscape : List Char → Option (Escape × List Char)
  | '{' :: r =>
    let name := r.takeWhile (· != '}')
    match r.drop name.length with
    | '}' :: rest => if name.isEmpty then none else some (.set, rest)
    | _ => none
  | c :: rest => if "LMNPSZC".toList.contains c then some (.set, rest) else none
  | [] => none

/-- An escape, read after its backslash, with the rest of the text. -/
def escape : List Char → Option (Escape × List Char)
  | [] => none
  | c :: r =>
    if c.isDigit then none
    else if c == 'x' then hexEscape 2 r
    else if c == 'u' then hexEscape 4 r
    else if c == 'U' then hexEscape 8 r
    else if c == 'p' || c == 'P' then propertyEscape r
    else if "dDsSwW".toList.contains c then some (.set, r)
    else if "bBAz<>".toList.contains c then some (.assertion, r)
    else if c == 'a' then some (.char 7, r)
    else if c == 'f' then some (.char 12, r)
    else if c == 't' then some (.char 9, r)
    else if c == 'n' then some (.char 10, r)
    else if c == 'r' then some (.char 13, r)
    else if c == 'v' then some (.char 11, r)
    else if isEscapable c then some (.char c.toNat, r)
    else none

/-! ## Classes -/

/-- The names of the ASCII classes `[:name:]`. -/
def asciiClassNames : List String :=
  ["alnum", "alpha", "ascii", "blank", "cntrl", "digit", "graph", "lower", "print", "punct",
    "space", "upper", "word", "xdigit"]

/-- The rest after an ASCII class `[:name:]` or `[:^name:]`, read after its `[`, if one
stands there. -/
def asciiClass : List Char → Option (List Char)
  | ':' :: r =>
    let r := match r with
      | '^' :: r' => r'
      | r' => r'
    let name := r.takeWhile Char.isAlpha
    match r.drop name.length with
    | ':' :: ']' :: rest => if asciiClassNames.contains (String.ofList name) then some rest else none
    | _ => none
  | _ => none

/-- The start of a class after its `[`: an optional `^`, after which a `]` and then any `-`
stand for themselves. -/
def classStart (cs : List Char) : List Char :=
  let cs := match cs with
    | '^' :: r => r
    | r => r
  let cs := match cs with
    | ']' :: r => r
    | r => r
  cs.dropWhile (· == '-')

/-- One member of a class that may end a range: a character or an escape. -/
def classAtom : List Char → Option (Escape × List Char)
  | '\\' :: r =>
    match escape r with
    | some (.assertion, _) => none
    | e => e
  | c :: r => some (.char c.toNat, r)
  | [] => none

/-- The rest after one member of a class, which is a range `a-z` when a `-` follows it and
neither a `]` nor a `-` follows that; a range runs between two characters, upwards. -/
def classItem (cs : List Char) : Option (List Char) := do
  let (a, r) ← classAtom cs
  match r with
  | '-' :: ']' :: _ => some r
  | '-' :: '-' :: _ => some r
  | '-' :: r' =>
    let (b, rest) ← classAtom r'
    match a, b with
    | .char x, .char y => if x ≤ y then some rest else none
    | _, _ => none
  | _ => some r

/-- The rest after the class being read, with `depth` more classes open around it. -/
def classRest : Nat → Nat → List Char → Option (List Char)
  | 0, _, _ => none
  | fuel + 1, depth, cs =>
    match cs with
    | [] => none
    | '[' :: r =>
      match asciiClass r with
      | some rest => classRest fuel depth rest
      | none => classRest fuel (depth + 1) (classStart r)
    | ']' :: r => if depth == 0 then some r else classRest fuel (depth - 1) r
    | '&' :: '&' :: r => classRest fuel depth r
    | '-' :: '-' :: r => classRest fuel depth r
    | '~' :: '~' :: r => classRest fuel depth r
    | _ =>
      match classItem cs with
      | some rest => classRest fuel depth rest
      | none => none

/-! ## Groups and repetitions -/

/-- What an opening parenthesis starts. -/
inductive Opening where
  /-- A group, closed by a later `)`. -/
  | group
  /-- A flag setting, closed already. -/
  | flags
  deriving DecidableEq, Repr

/-- Whether a character may stand in a group's name, at its start or further on. -/
def isNameChar (first : Bool) (c : Char) : Bool :=
  c == '_' || (c.isAlpha || (c.toNat ≥ 128 && c.isAlphanum)) ||
    (!first && (c.isDigit || c == '.' || c == '[' || c == ']'))

/-- The rest after a group's name and its `>`. -/
def groupName (cs : List Char) : Option (List Char) :=
  match cs with
  | c :: r =>
    if isNameChar true c then
      let more := r.takeWhile (isNameChar false)
      match r.drop more.length with
      | '>' :: rest => some rest
      | _ => none
    else none
  | [] => none

/-- Whether flag letters are well formed: known letters, none twice, at most one `-` and
not last. -/
def validFlags (fs : List Char) : Bool :=
  fs.all (fun c => "imsUuxR-".toList.contains c) &&
    (fs.filter (· == '-')).length ≤ 1 && fs.getLast? != some '-' &&
    (fs.filter (· != '-')).Nodup

/-- What an opening parenthesis starts, read after it, with the rest. -/
def opening : List Char → Option (Opening × List Char)
  | '?' :: 'P' :: '<' :: r => (groupName r).map fun rest => (.group, rest)
  | '?' :: 'P' :: _ => none
  | '?' :: '<' :: r => (groupName r).map fun rest => (.group, rest)
  | '?' :: r =>
    let fs := r.takeWhile fun c => c != ':' && c != ')'
    if !validFlags fs then none
    else match r.drop fs.length with
      | ':' :: rest => some (.group, rest)
      | ')' :: rest => if fs.isEmpty then none else some (.flags, rest)
      | _ => none
  | r => some (.group, r)

/-- The value of decimal digits. -/
def decimalValue (ds : List Char) : Nat := ds.foldl (fun n c => n * 10 + (c.toNat - 48)) 0

/-- A count of a repetition: at least one digit, at most `2 ^ 32 - 1`. -/
def count (cs : List Char) : Option (Nat × List Char) :=
  let ds := cs.takeWhile Char.isDigit
  if ds.isEmpty || decimalValue ds ≥ Nat.pow 2 32 then none
  else some (decimalValue ds, cs.drop ds.length)

/-- The rest after the counts of a repetition and its `}`, read after its `{`. -/
def counted (cs : List Char) : Option (List Char) := do
  let (lo, r) ← count cs
  match r with
  | '}' :: rest => some rest
  | ',' :: '}' :: rest => some rest
  | ',' :: r' =>
    let (hi, r'') ← count r'
    match r'' with
    | '}' :: rest => if lo ≤ hi then some rest else none
    | _ => none
  | _ => none

/-- The rest after the `?` that makes a repetition lazy, if one follows. -/
def lazy : List Char → List Char
  | '?' :: r => r
  | r => r

/-- Whether the rest of a pattern is well formed, with `groups` groups open and `operand`
telling whether what was just read may be repeated. -/
def scan : Nat → Nat → Bool → List Char → Bool
  | 0, _, _, _ => false
  | fuel + 1, groups, operand, cs =>
    match cs with
    | [] => groups == 0
    | '(' :: r =>
      match opening r with
      | some (.group, rest) => scan fuel (groups + 1) false rest
      | some (.flags, rest) => scan fuel groups false rest
      | none => false
    | ')' :: r => groups > 0 && scan fuel (groups - 1) true r
    | '|' :: r => scan fuel groups false r
    | '[' :: r =>
      match classRest fuel 0 (classStart r) with
      | some rest => scan fuel groups true rest
      | none => false
    | '\\' :: r =>
      match escape r with
      | some (_, rest) => scan fuel groups true rest
      | none => false
    | '{' :: r =>
      operand && match counted r with
        | some rest => scan fuel groups true (lazy rest)
        | none => false
    | c :: r =>
      if c == '*' || c == '+' || c == '?' then operand && scan fuel groups true (lazy r)
      else scan fuel groups true r

/-- Whether `p` is a well-formed pattern. -/
def isValid (p : String) : Bool := scan (p.length + 1) 0 false p.toList

end Saga.Telemetry.Pattern
