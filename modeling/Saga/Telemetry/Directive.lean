import Saga.Text.Basic
import Saga.Text.Alphanumeric
import Saga.Telemetry.Pattern

/-!
# Filter directives

A filter of what tracing records is a list of directives separated by commas. A directive is
a level on its own (a level name in any case, or a digit from 0 to 5), or a target, a span
filter in brackets or both, followed by an optional `=` and a level.

* A target runs up to the first `[` or `=`. Its characters are letters and digits of any
  script, white space, and ASCII punctuation other than `+`, `{` and `}`.
* A span filter `[name]` or `[name{fields}]` names a span (or none, when empty) and the
  fields it must carry: one or more, separated by commas, each a name with an optional
  `=value`. A value is a boolean, a number, or else a pattern that must be well formed.
* The level after `=` is a level name in any case, an unsigned decimal from 0 to 5 (with an
  optional `+` and leading zeros), or nothing, which means `error`. Everything after the
  first `=` outside the brackets is the level.

A directive must name a target or a span. The three faults are told apart, each with its
own text: a malformed directive, a malformed level, and a malformed field pattern.
-/

namespace Saga.Telemetry

/-- How much tracing records: nothing, or every event up to a level of detail. -/
inductive LevelFilter where
  | off
  | error
  | warn
  | info
  | debug
  | trace
  deriving DecidableEq, Repr, Inhabited

namespace LevelFilter

/-- The level filters in order of their numbers, from `off` (0) to `trace` (5). -/
def all : List LevelFilter := [.off, .error, .warn, .info, .debug, .trace]

/-- The name of a level filter. -/
def name : LevelFilter → String
  | .off => "off"
  | .error => "error"
  | .warn => "warn"
  | .info => "info"
  | .debug => "debug"
  | .trace => "trace"

/-- The level filter of a number from 0 to 5. -/
def ofNat? (n : Nat) : Option LevelFilter := all[n]?

/-- The level filter a name gives, in any case of its ASCII letters. -/
def ofName? (s : String) : Option LevelFilter :=
  let lower := String.ofList (s.toList.map Char.toLower)
  all.find? (·.name == lower)

/-- The value of an unsigned decimal: an optional `+`, then one digit or more. -/
def unsigned? (s : List Char) : Option Nat :=
  let ds := match s with
    | '+' :: r => r
    | r => r
  if !ds.isEmpty && ds.all Char.isDigit then some (Pattern.decimalValue ds) else none

/-- The level filter written after `=`: a number from 0 to 5, a name, or nothing for
`error`. -/
def parse? (s : String) : Option LevelFilter :=
  match (unsigned? s.toList).bind ofNat? with
  | some l => some l
  | none => if s.isEmpty then some .error else ofName? s

/-- The level filter a whole directive gives when it is a level on its own: a name or one
digit from 0 to 5. -/
def ofDirective? (s : String) : Option LevelFilter :=
  match s.toList with
  | [c] => if c.isDigit then ofNat? (c.toNat - 48) else none
  | _ => ofName? s

end LevelFilter

/-- What a field of a span filter must hold. -/
inductive FieldValue where
  | bool (b : Bool)
  /-- A number, kept as written. -/
  | number (text : String)
  /-- A pattern the field's text must match. -/
  | pattern (source : String)
  deriving DecidableEq, Repr

namespace FieldValue

/-- Whether a text, after its sign, is a decimal number: digits with an optional point and
fraction (one of the two not empty), then an optional exponent. -/
def isDecimal (cs : List Char) : Bool :=
  let whole := cs.takeWhile Char.isDigit
  let r := cs.drop whole.length
  let (fraction, r) := match r with
    | '.' :: r' => (r'.takeWhile Char.isDigit, r'.dropWhile Char.isDigit)
    | r' => ([], r')
  (!whole.isEmpty || !fraction.isEmpty) &&
    match r with
    | [] => true
    | e :: r' =>
      (e == 'e' || e == 'E') &&
        let ds := match r' with
          | '+' :: d => d
          | '-' :: d => d
          | d => d
        !ds.isEmpty && ds.all Char.isDigit

/-- Whether a text is a number: an optional sign, then a decimal number, or `inf`,
`infinity` or `nan` in any case. -/
def isNumber (s : String) : Bool :=
  let cs := match s.toList with
    | '+' :: r => r
    | '-' :: r => r
    | r => r
  ["inf", "infinity", "nan"].contains (String.ofList (cs.map Char.toLower)) || isDecimal cs

/-- The value a text gives: `true` or `false`, a number, or else a pattern. -/
def ofText (s : String) : FieldValue :=
  if s == "true" then .bool true
  else if s == "false" then .bool false
  else if isNumber s then .number s
  else .pattern s

end FieldValue

/-- A field a span must carry, with the value it must hold if one is given. -/
structure FieldMatch where
  name : String
  value : Option FieldValue
  deriving DecidableEq, Repr

/-- A span filter: the span's name (empty for any span) and the fields it must carry. -/
structure SpanMatch where
  name : String
  fields : List FieldMatch
  deriving DecidableEq, Repr

/-- One directive: where it applies and the level it lets through there. -/
structure Directive where
  target : Option String := none
  span : Option SpanMatch := none
  level : LevelFilter := .trace
  deriving DecidableEq, Repr

/-- Why a directive is malformed. -/
inductive DirectiveError where
  | invalid
  | level
  /-- A field's pattern, with the reason it was refused. -/
  | field (reason : String)
  deriving DecidableEq, Repr

/-- The text of a malformed directive's fault. -/
def DirectiveError.text : DirectiveError → String
  | .invalid => "invalid filter directive"
  | .level => "error parsing level filter: expected one of \"off\", \"error\", \"warn\", " ++
    "\"info\", \"debug\", \"trace\", or a number 0-5"
  | .field reason => "invalid field filter: " ++ reason

namespace Directive

/-- Whether a character may stand in a target. -/
def isTargetChar (c : Char) : Bool :=
  Text.isAlphanumeric c || Text.isWhiteSpace c ||
    (c.toNat < 128 && Pattern.isEscapable c && c != '+' && c != '{' && c != '}')

/-- A field of a span filter: its name up to the first `=`, and its value up to the next. -/
def parseField (s : String) : Except DirectiveError FieldMatch :=
  match s.splitOn "=" with
  | [] | "" :: _ => .error .invalid
  | name :: rest =>
    match rest.head?.map FieldValue.ofText with
    | some (.pattern p) =>
      if Pattern.isValid p then .ok { name, value := some (.pattern p) }
      else .error (.field "error building NFA")
    | value => .ok { name, value }

/-- A span filter read after its `[`, with the rest after its `]`. -/
def parseSpan (cs : List Char) : Except DirectiveError (SpanMatch × List Char) := do
  let name := cs.takeWhile fun c => c != '{' && c != ']'
  match cs.drop name.length with
  | ']' :: rest => return ({ name := String.ofList name, fields := [] }, rest)
  | '{' :: r =>
    let body := r.takeWhile (· != '}')
    match r.drop body.length with
    | '}' :: ']' :: rest =>
      let fields ← ((String.ofList body).splitOn ",").mapM parseField
      return ({ name := String.ofList name, fields }, rest)
    | _ => throw .invalid
  | _ => throw .invalid

/-- Reads one directive. -/
def parse (d : String) : Except DirectiveError Directive := do
  if let some level := LevelFilter.ofDirective? d then return { level }
  let cs := d.toList
  let target := cs.takeWhile fun c => c != '[' && c != '='
  unless target.all isTargetChar do throw .invalid
  let (span, rest) ← match cs.drop target.length with
    | '[' :: r => do
      let (s, rest) ← parseSpan r
      pure (some s, rest)
    | r => pure (none, r)
  if target.isEmpty && span.isNone then throw .invalid
  let level ← match rest with
    | [] => pure .trace
    | '=' :: l =>
      match LevelFilter.parse? (String.ofList l) with
      | some level => pure level
      | none => throw .level
    | _ => throw .invalid
  return { target := if target.isEmpty then none else some (String.ofList target), span, level }

end Directive

/-- Reads a filter: its directives separated by commas, empty ones skipped, up to the first
malformed one. -/
def parseFilter (filter : String) : Except DirectiveError (List Directive) :=
  ((filter.splitOn ",").filter (· != "")).mapM Directive.parse

end Saga.Telemetry
