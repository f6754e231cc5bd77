import Saga.Json.Basic
import Saga.Decimal.Shortest

/-!
# Context values

A saga context holds values of six kinds: booleans, 64-bit signed integers, binary64 floats,
strings, lists of strings, and any other JSON document carried as it is (a `document`).

A JSON value is classified by `Value.ofJson`: a number that fits a signed 64-bit integer is
an integer, a number written with a fraction or an exponent is a float, and a larger
integer stays a document; an array of strings only (the empty array included) is a string list;
null, objects and other arrays are documents. `Value.ofUntagged` is the classification of a
serialized value, which tries the kinds in order, so there a large integer is a float.

Reading a value as an integer truncates a finite float toward zero and stops at the ends of
the 64-bit range; reading one as a float widens an integer to the nearest float.
-/

namespace Saga.Context

/-- A value in a saga context. -/
inductive Value where
  | bool (b : Bool)
  | int (i : Int)
  | float (f : Float)
  | string (s : String)
  | stringList (items : List String)
  | document (j : Json)
  deriving Inhabited

namespace Value

/-- Equality by kind and content; floats compare as floats do. -/
def beq : Value → Value → Bool
  | .bool a, .bool b => a == b
  | .int a, .int b => a == b
  | .float a, .float b => a == b
  | .string a, .string b => a == b
  | .stringList a, .stringList b => a == b
  | .document a, .document b => a == b
  | _, _ => false

instance : BEq Value := ⟨beq⟩

/-- The least 64-bit signed integer. -/
def i64Min : Int := -(Int.pow 2 63)

/-- The greatest 64-bit signed integer. -/
def i64Max : Int := Int.pow 2 63 - 1

/-- The JSON form of a value; a non-finite float has none and is `null`. -/
def toJson : Value → Json
  | .bool b => .bool b
  | .int i => .ofInt i
  | .float f => .ofFloat f
  | .string s => .str s
  | .stringList l => .arr (l.map .str)
  | .document j => j

/-- The strings of an array of strings only. -/
def strings? : List Json → Option (List String)
  | [] => some []
  | .str s :: rest => (strings? rest).map (s :: ·)
  | _ => none

/-- Classifies a JSON value. -/
def ofJson : Json → Value
  | .bool b => .bool b
  | .str s => .string s
  | .num (.nat n) => if (n : Int) ≤ i64Max then .int n else .document (.num (.nat n))
  | .num (.int i) => if i64Min ≤ i then .int i else .document (.num (.int i))
  | .num (.float f) => .float f
  | .arr xs => match strings? xs with
    | some l => .stringList l
    | none => .document (.arr xs)
  | j => .document j

/-- Classifies a serialized value by trying the kinds in order: a number that is no 64-bit
integer is a float. -/
def ofUntagged (j : Json) : Value :=
  match j with
  | .num (.nat n) => if (n : Int) ≤ i64Max then .int n else .float (Number.toFloat (.nat n))
  | .num (.int i) => if i64Min ≤ i then .int i else .float (Number.toFloat (.int i))
  | j => ofJson j

/-- The name of a value's kind. -/
def typeName : Value → String
  | .bool _ => "bool"
  | .int _ => "int"
  | .float _ => "float"
  | .string _ => "string"
  | .stringList _ => "string_list"
  | .document _ => "opaque"

/-- A finite float truncated toward zero and held within the 64-bit range. -/
def truncate (f : Float) : Int :=
  let (m, e) := Saga.Decimal.binaryParts f
  let whole : Nat := if e ≥ 0 then m * Nat.pow 2 e.toNat else m / Nat.pow 2 e.natAbs
  let signed : Int := if Saga.Decimal.signBit f then -(whole : Int) else whole
  max i64Min (min i64Max signed)

/-- The value read as an integer: integers as they are, finite floats truncated. -/
def asInt? : Value → Option Int
  | .int i => some i
  | .float f => if f.isFinite then some (truncate f) else none
  | _ => none

/-- The value read as a float: floats as they are, integers widened. -/
def asFloat? : Value → Option Float
  | .float f => some f
  | .int i => some (Number.toFloat (.int i))
  | _ => none

/-- The value read as a string. -/
def asString? : Value → Option String
  | .string s => some s
  | _ => none

/-- The value read as a boolean. -/
def asBool? : Value → Option Bool
  | .bool b => some b
  | _ => none

/-- The value read as a list of strings. -/
def asStringList? : Value → Option (List String)
  | .stringList l => some l
  | _ => none

end Value

/-- A map from keys to values, sorted by key with one entry per key. -/
abbrev Entries := List (String × Value)

/-- Inserts or replaces the entry for `k`, keeping keys sorted. -/
def Entries.insert (k : String) (v : Value) : Entries → Entries
  | [] => [(k, v)]
  | (k', v') :: rest =>
    if k = k' then (k, v) :: rest
    else if k < k' then (k, v) :: (k', v') :: rest
    else (k', v') :: Entries.insert k v rest

/-- The sorted map of the given entries; of two entries with one key the later wins. -/
def Entries.ofList (l : List (String × Value)) : Entries :=
  l.foldl (fun acc (k, v) => Entries.insert k v acc) []

/-- Equality of two maps, entry by entry. -/
def Entries.beq (a b : Entries) : Bool :=
  a.length == b.length && (a.zip b).all fun ((k, v), (l, w)) => k == l && v == w

/-- The JSON object of a map. -/
def Entries.toJson (e : Entries) : Json := .obj (e.map fun (k, v) => (k, v.toJson))

end Saga.Context
