import Saga.Decimal.Layout

/-!
# JSON values

The dynamic values that saga contexts, stored event metadata and the line protocol carry.

A number keeps the kind a reader gave it: a non-negative integer, a negative integer, or a
binary64 float. Two numbers of different kinds are different values, and floats compare
as floats do (`NaN` differs from itself).

An object is the list of its members. Maps made by this library are sorted by key with one
member per key (`Json.insert` keeps that form); record-shaped texts list their fields in
declaration order instead, so the printer writes members in the order it finds them.
-/

namespace Saga

/-- A JSON number, by the kind of its text. -/
inductive Number where
  /-- A non-negative integer. -/
  | nat (n : Nat)
  /-- A negative integer. -/
  | int (i : Int)
  /-- A binary64 float. -/
  | float (f : Float)
  deriving Inhabited, BEq

/-- The float nearest to a number. -/
def Number.toFloat : Number → Float
  | .nat n => Float.ofScientific n false 0
  | .int i => if i < 0 then -(Float.ofScientific i.natAbs false 0) else Float.ofScientific i.toNat false 0
  | .float f => f

/-- A JSON value. -/
inductive Json where
  | null
  | bool (b : Bool)
  | num (n : Number)
  | str (s : String)
  | arr (items : List Json)
  | obj (members : List (String × Json))
  deriving Inhabited

namespace Json

mutual

/-- Structural equality; numbers compare by kind, then value. -/
def beq : Json → Json → Bool
  | .null, .null => true
  | .bool a, .bool b => a == b
  | .num a, .num b => a == b
  | .str a, .str b => a == b
  | .arr as, .arr bs => beqItems as bs
  | .obj as, .obj bs => beqMembers as bs
  | _, _ => false

/-- Pointwise equality of two item lists. -/
def beqItems : List Json → List Json → Bool
  | [], [] => true
  | a :: as, b :: bs => beq a b && beqItems as bs
  | _, _ => false

/-- Pointwise equality of two member lists, keys and values. -/
def beqMembers : List (String × Json) → List (String × Json) → Bool
  | [], [] => true
  | (k, a) :: as, (l, b) :: bs => k == l && beq a b && beqMembers as bs
  | _, _ => false

end

instance : BEq Json := ⟨beq⟩

/-- A float value; a non-finite float has no JSON number and becomes `null`. -/
def ofFloat (f : Float) : Json := if f.isFinite then .num (.float f) else .null

/-- A non-negative integer value. -/
def ofNat (n : Nat) : Json := .num (.nat n)

/-- An integer value: non-negative ones are `nat`, negative ones `int`. -/
def ofInt (i : Int) : Json := if i < 0 then .num (.int i) else .num (.nat i.toNat)

/-- A string or `null`. -/
def ofOption (s : Option String) : Json := match s with
  | some s => .str s
  | none => .null

/-- The member of a map with key `k`, if any. -/
def get? (j : Json) (k : String) : Option Json :=
  match j with
  | .obj ms => ms.lookup k
  | _ => none

/-- The members of an object, or none. -/
def members? : Json → Option (List (String × Json))
  | .obj ms => some ms
  | _ => none

/-- Inserts `(k, v)` into a key-sorted member list, replacing a member with the same key. -/
def insertMember (k : String) (v : Json) : List (String × Json) → List (String × Json)
  | [] => [(k, v)]
  | (k', v') :: rest =>
    if k = k' then (k, v) :: rest
    else if k < k' then (k, v) :: (k', v') :: rest
    else (k', v') :: insertMember k v rest

/-- The sorted map with the given members; of two members with one key the later wins. -/
def ofMembers (ms : List (String × Json)) : List (String × Json) :=
  ms.foldl (fun acc (k, v) => insertMember k v acc) []

/-- The sorted-map object of the given members. -/
def mkObj (ms : List (String × Json)) : Json := .obj (ofMembers ms)

/-- Removes the member with key `k`. -/
def eraseMember (k : String) (ms : List (String × Json)) : List (String × Json) :=
  ms.filter (fun m => m.1 != k)

end Json

end Saga
