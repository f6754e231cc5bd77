import Saga.Json.Read
import Saga.Json.Render
import Saga.Text.Debug

/-!
# Reading a value of a given shape

A `Shape` says what a text must hold: an unsigned integer up to a bound, a float, a string,
a record with named fields, and so on. `Shape.read` reads the text against the shape and
yields the value in canonical form (a record as an object of its fields in declaration
order, absent fields filled in), or the first fault in reading order.

Faults of shape are worded `invalid type: <found>, expected <wanted>`, `invalid value: ..`,
`invalid length ..`, `missing field ..`, `duplicate field ..`, `unknown field ..` and
`unknown variant ..`. A fault about a token is placed after the token; a fault about a
record (a missing field, too few elements) is placed after the record's closing bracket; a
fault about a key is placed after the key; a bracket found where a scalar was wanted is
placed before the bracket.

`Shape.readValue` reads an already-read value against a shape by re-reading its canonical
text without positions. Its one other difference: a record given as an array with more
elements than fields reports `invalid length N, expected fewer elements in array`.
-/

namespace Saga

/-- How a fault names a number it found. -/
def Number.unexpected : Number → String
  | .nat n => s!"integer `{n}`"
  | .int i => s!"integer `{i}`"
  | .float f =>
    let t := if f.isFinite then Saga.Decimal.Layout.plain.render f
      else if f.isNaN then "NaN" else if f > 0 then "inf" else "-inf"
    "floating point `" ++ t ++ "`"

namespace Json

/-- How a record fills a field its text leaves out. -/
inductive Absent where
  /-- The record is refused: `missing field`. -/
  | required
  /-- An optional field: `null` when the record is an object, refused when it is an array. -/
  | optional
  /-- A field with a default, used in both forms. -/
  | default (value : Json)

/-- The shape a reading expects. -/
inductive Shape where
  /-- An unsigned integer named `name` (`u32`, `u64`, `usize`) at most `max`. -/
  | unsigned (name : String) (max : Nat)
  /-- A float; integers are converted. -/
  | float
  | string
  | boolean
  /-- `null`, or a value of the inner shape. -/
  | option (inner : Shape)
  /-- An array of values of the inner shape. -/
  | seq (inner : Shape)
  /-- An object of any values, as a sorted map. -/
  | map
  /-- Any value. -/
  | any
  /-- A record: its name, its fields (name, shape, how it is filled when absent), whether
  unknown keys are refused, what a short array expects, and how the field values (in
  declaration order) become the value or a fault. -/
  | record (name : String) (fields : List (String × Shape × Absent)) (closed : Bool)
      (arrayExpecting : String) (finish : List Json → Except String Json)
  /-- A string checked by `check`, which yields the value or the fault's text. -/
  | text (expecting : String) (check : String → Except String Json)
  /-- One of the named variants, given as a string. -/
  | variants (name : String) (names : List String)

/-- What a shape expects, as faults word it. -/
def Shape.expecting : Shape → String
  | .unsigned name _ => name
  | .float => "f64"
  | .string => "a string"
  | .boolean => "a boolean"
  | .option _ => "option"
  | .seq _ => "a sequence"
  | .map => "a map"
  | .any => "any valid JSON value"
  | .record name _ _ _ _ => "struct " ++ name
  | .text e _ => e
  | .variants name _ => "enum " ++ name

/-- A list of names as a fault words the choices: `` `a` ``, `` `a` or `b` ``,
`` one of `a`, `b`, `c` ``. -/
def oneOf (what : String) (names : List String) : String :=
  let tick := fun (n : String) => "`" ++ n ++ "`"
  match names with
  | [] => "there are no " ++ what
  | [a] => tick a
  | [a, b] => tick a ++ " or " ++ tick b
  | _ => "one of " ++ ", ".intercalate (names.map tick)

/-- An unplaced fault with the given text. -/
def refuse (text : String) : ReadM α :=
  throw ⟨.message text, none⟩

/-- `invalid type: <found>, expected <wanted>`. -/
def invalidType (found wanted : String) : String :=
  "invalid type: " ++ found ++ ", expected " ++ wanted

/-- `invalid value: <found>, expected <wanted>`. -/
def invalidValue (found wanted : String) : String :=
  "invalid value: " ++ found ++ ", expected " ++ wanted

/-- Reads the token that stands where `wanted` was expected and refuses it, naming what it
is. A bracket is not read; a byte that starts no value is `expected value`. -/
def refuseFound (wanted : String) : ReadM α := do
  let found : String ← match ← peekByte with
    | some 110 => do skipByte; expectLiteral nullTail; pure "null"
    | some 116 => do skipByte; expectLiteral trueTail; pure "boolean `true`"
    | some 102 => do skipByte; expectLiteral falseTail; pure "boolean `false`"
    | some 45 => do skipByte; pure (Number.unexpected (← readNumber false))
    | some 34 => do skipByte; pure ("string " ++ Saga.Debug.quote (← readStringBody))
    | some 91 => pure "sequence"
    | some 123 => pure "map"
    | some b =>
      if isDigit b then do
        let n ← readNumber true
        pure (Number.unexpected n)
      else failPeek .expectedValue
    | none => failPeek .expectedValue
  fail (.message (invalidType found wanted))

/-- Runs `act` and returns its fault instead of failing; the index stays where it stopped. -/
def attempt (act : ReadM α) : ReadM (Except ReadError α) :=
  tryCatch (Except.ok <$> act) fun e => pure (.error e)

/-- Skips the remaining elements of an array after at least one was read, up to its `]`
(not read); returns how many there were. -/
def countRest : Nat → Nat → ReadM Nat
  | 0, k => return k
  | fuel + 1, k => do
    if ← nextItem false then
      let _ ← readValue fuel depthLimit
      countRest fuel (k + 1)
    else return k

/-- Fills the absent fields of a record given as an object, in declaration order. -/
def fillFields (fields : List (String × Shape × Absent)) (got : List (Option Json)) :
    ReadM (List Json) :=
  (fields.zip got).mapM fun ((name, _, absent), v) =>
    match v, absent with
    | some v, _ => pure v
    | none, .optional => pure .null
    | none, .default d => pure d
    | none, .required => refuse ("missing field `" ++ name ++ "`")

/-- Reads a scalar of the shape whose first byte `b` stands next. -/
def readScalar (s : Shape) (b : UInt8) : ReadM Json :=
  match s with
  | .unsigned name max =>
    if b = 45 || isDigit b then
      placed do
        let positive := b ≠ 45
        if !positive then skipByte
        match ← readNumber positive with
        | .nat n =>
          if n ≤ max then return .num (.nat n)
          else refuse (invalidValue s!"integer `{n}`" name)
        | .int i => refuse (invalidValue s!"integer `{i}`" name)
        | .float f => refuse (invalidType (Number.unexpected (.float f)) name)
    else placed (refuseFound name)
  | .float =>
    if b = 45 || isDigit b then
      placed do
        let positive := b ≠ 45
        if !positive then skipByte
        return .num (.float (← readNumber positive).toFloat)
    else placed (refuseFound "f64")
  | .string =>
    if b = 34 then do skipByte; return .str (← readStringBody)
    else placed (refuseFound "a string")
  | .boolean =>
    if b = 116 then do skipByte; expectLiteral trueTail; return .bool true
    else if b = 102 then do skipByte; expectLiteral falseTail; return .bool false
    else placed (refuseFound "a boolean")
  | .text expecting check =>
    if b = 34 then do
      skipByte
      let str ← readStringBody
      match check str with
      | .ok v => return v
      | .error m => fail (.message m)
    else placed (refuseFound expecting)
  | s => placed (refuseFound s.expecting)

/-- A variant name given as a string. -/
def readVariantName (names : List String) : ReadM Json := do
  skipByte
  let str ← readStringBody
  if names.contains str then return .str str
  else fail (.message ("unknown variant `" ++ str ++ "`, expected " ++ oneOf "variants" names))

/-- A variant given as a one-member object `{"name": null}`, after its `{`. -/
def readVariantObject (names : List String) : ReadM Json := do
  let v ← match ← skipBlanks with
    | some 34 => readVariantName names
    | some _ => placed (refuseFound "variant identifier")
    | none => failPeek .eofValue
  readColon
  match ← skipBlanks with
  | some 110 => skipByte; expectLiteral nullTail
  | some _ => placed (refuseFound "unit")
  | none => failPeek .eofValue
  match ← skipBlanks with
  | some 125 => skipByte; return v
  | some _ => fail .expectedValue
  | none => fail .eofObject

/-- Runs a record's reading, then the reading of its closing bracket; the record's fault
comes first and is placed where the closing reading stopped. -/
def closeRecord (body : ReadM Json) (close : ReadM Unit) : ReadM Json := do
  let ret ← attempt body
  let fin ← attempt close
  match ret, fin with
  | .error e, _ => placed (throw e)
  | .ok _, .error e => throw e
  | .ok v, .ok () => return v

/-- The value a record's `finish` makes of its fields, or its fault. -/
def finishRecord (finish : List Json → Except String Json) (values : List Json) : ReadM Json :=
  match finish values with
  | .ok v => return v
  | .error m => refuse m

mutual

/-- Reads a value of the shape. `fuel` bounds the work, `depth` the nesting left. -/
def Shape.readAt : Nat → Shape → Nat → ReadM Json
  | 0, _, _ => fail .eofValue
  | fuel + 1, s, depth => do
    match s with
    | .any => readValue fuel depth
    | .option inner =>
      match ← skipBlanks with
      | some 110 => skipByte; expectLiteral nullTail; return .null
      | _ => Shape.readAt fuel inner depth
    | .seq inner =>
      match ← skipBlanks with
      | some 91 =>
        enterLevel depth
        skipByte
        let xs ← readItems fuel inner (depth - 1) true []
        endArray
        return .arr xs
      | some _ => placed (refuseFound "a sequence")
      | none => failPeek .eofValue
    | .map =>
      match ← skipBlanks with
      | some 123 =>
        enterLevel depth
        skipByte
        let ms ← readMembers fuel (depth - 1) true []
        endObject
        return .obj ms
      | some _ => placed (refuseFound "a map")
      | none => failPeek .eofValue
    | .variants _ names =>
      match ← skipBlanks with
      | some 34 => readVariantName names
      | some 123 =>
        enterLevel depth
        skipByte
        readVariantObject names
      | some _ =>
        if (← read).positioned then failPeek .expectedValue
        else placed (refuseFound "string or map")
      | none => failPeek .eofValue
    | .record name fields closed arrayExpecting finish =>
      match ← skipBlanks with
      | some 123 =>
        enterLevel depth
        skipByte
        closeRecord
          (do
            let got ← readFields fuel fields closed (depth - 1) true (fields.map fun _ => none)
            finishRecord finish (← fillFields fields got))
          endObject
      | some 91 =>
        enterLevel depth
        skipByte
        let body : ReadM Json := do
          finishRecord finish (← readFieldItems fuel fields arrayExpecting (depth - 1) 0 true)
        if (← read).positioned then closeRecord body endArray
        else
          let v ← body
          let rest ← countRest fuel 0
          skipByte
          if rest = 0 then return v
          else refuse ("invalid length " ++ toString (fields.length + rest) ++
            ", expected fewer elements in array")
      | some _ => placed (refuseFound ("struct " ++ name))
      | none => failPeek .eofValue
    | s =>
      match ← skipBlanks with
      | some b => readScalar s b
      | none => failPeek .eofValue

/-- The items of an array after its `[`, until `]` (not read). -/
def readItems : Nat → Shape → Nat → Bool → List Json → ReadM (List Json)
  | 0, _, _, _, acc => return acc.reverse
  | fuel + 1, inner, depth, first, acc => do
    if ← nextItem first then
      let x ← Shape.readAt fuel inner depth
      readItems fuel inner depth false (x :: acc)
    else return acc.reverse

/-- The members of an object after its `{`, until `}` (not read), as a sorted map. -/
def readMembers : Nat → Nat → Bool → List (String × Json) → ReadM (List (String × Json))
  | 0, _, _, acc => return acc
  | fuel + 1, depth, first, acc => do
    match ← nextKey first with
    | some k =>
      readColon
      let v ← readValue fuel depth
      readMembers fuel depth false (insertMember k v acc)
    | none => return acc

/-- The members of a record given as an object, each stored at its field's place; unknown
keys are skipped, or refused when the record is closed. -/
def readFields : Nat → List (String × Shape × Absent) → Bool → Nat → Bool → List (Option Json) →
    ReadM (List (Option Json))
  | 0, _, _, _, _, acc => return acc
  | fuel + 1, fields, closed, depth, first, acc => do
    match ← nextKey first with
    | none => return acc
    | some k =>
      match fields.findIdx? (fun f => f.1 = k) with
      | some i =>
        if (acc[i]?).join.isSome then refuse ("duplicate field `" ++ k ++ "`")
        else
          readColon
          let shape := (fields[i]?.map (·.2.1)).getD .any
          let v ← Shape.readAt fuel shape depth
          readFields fuel fields closed depth false (acc.set i (some v))
      | none =>
        if closed then
          refuse ("unknown field `" ++ k ++ "`, expected " ++ oneOf "fields" (fields.map (·.1)))
        else
          readColon
          let _ ← readValue fuel depth
          readFields fuel fields closed depth false acc

/-- The elements of a record given as an array, one per field in order; `i` counts the
fields read so far. -/
def readFieldItems : Nat → List (String × Shape × Absent) → String → Nat → Nat → Bool →
    ReadM (List Json)
  | 0, _, _, _, _, _ => return []
  | _ + 1, [], _, _, _, _ => return []
  | fuel + 1, (_, shape, absent) :: rest, arrayExpecting, depth, i, first => do
    if ← nextItem first then
      let v ← Shape.readAt fuel shape depth
      return v :: (← readFieldItems fuel rest arrayExpecting depth (i + 1) false)
    else
      match absent with
      | .default d => return d :: (← readFieldItems fuel rest arrayExpecting depth (i + 1) first)
      | _ => refuse ("invalid length " ++ toString i ++ ", expected " ++ arrayExpecting)

end

/-- Reads a whole text of the shape, faults placed. -/
def Shape.readBytes (s : Shape) (bytes : ByteArray) : Except ReadError Json :=
  let src : Source := ⟨bytes, true⟩
  (Shape.readAt src.fuel s depthLimit).runOn src

/-- Reads a whole text of the shape, faults placed. -/
def Shape.readText (s : Shape) (text : String) : Except ReadError Json :=
  s.readBytes text.toUTF8

/-- Reads an already-read value against the shape; faults have no place. -/
def Shape.readValue (s : Shape) (v : Json) : Except ReadError Json :=
  let src : Source := ⟨(render v).toUTF8, false⟩
  (Shape.readAt src.fuel s depthLimit).runOn src

end Json

end Saga
