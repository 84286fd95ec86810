import StatementProfiles.Decimal.Binary64
import StatementProfiles.Members

/-!
# JSON values

A `Json` is a document value: the members of an object are kept in the order of their keys. Numbers keep the
distinction between integers (those that fit 64 bits) and binary numbers, and so does equality of values (`Json.same`):
`1` and `1.0` differ, while the two zeros among the binary numbers are equal.
-/

namespace StatementProfiles

/-- A number as it is written: an integer of 64 bits, signed or unsigned, or a binary number. -/
inductive Number where
  | int (value : Int)
  | real (value : Binary64)
deriving DecidableEq, Repr, Inhabited

namespace Number

/-- The greatest integer that is kept as an integer. -/
def greatestInt : Int := 0xffffffffffffffff

/-- The least integer that is kept as an integer. -/
def leastInt : Int := -0x8000000000000000

/-- Equality of numbers: of the same sort and of the same value. -/
def same : Number → Number → Bool
  | .int a, .int b => a == b
  | .real a, .real b => a.same b
  | _, _ => false

/-- The number as a binary number. -/
def toReal : Number → Binary64
  | .int i => (Binary64.ofInt i).getD (Binary64.zero false)
  | .real x => x

end Number

/-- A JSON value. -/
inductive Json where
  | null
  | bool (value : Bool)
  | number (value : Number)
  | string (value : String)
  | array (items : List Json)
  | object (members : List (String × Json))
deriving Repr, Inhabited

namespace Json

/-- The object without members. -/
def empty : Json := .object []

/-- An object from pairs in any order; the last value of a key stays. -/
def ofPairs (pairs : List (String × Json)) : Json := .object (Members.ofList pairs)

/-- An integer. -/
def int (i : Int) : Json := .number (.int i)

/-- The text of a string. -/
def asString? : Json → Option String
  | .string s => some s
  | _ => none

/-- The items of an array. -/
def asArray? : Json → Option (List Json)
  | .array items => some items
  | _ => none

/-- Whether the value is an object. -/
def isObject : Json → Bool
  | .object _ => true
  | _ => false

/-- Whether the value is an array or an object. -/
def isContainer : Json → Bool
  | .array _ | .object _ => true
  | _ => false

/-- The value of a member of an object. -/
def member? : Json → String → Option Json
  | .object members, key => Members.find? members key
  | _, _ => none

/-- The members of an object, the items of an array: the values one level down. -/
def children : Json → List Json
  | .array items => items
  | .object members => Members.values members
  | _ => []

/-- A map of texts as an object. -/
def ofTexts (texts : Members String) : Json := .object (Members.mapValues Json.string texts)

/-- A list of texts as an array. -/
def strings (texts : List String) : Json := .array (texts.map Json.string)

/-- A text, or null. -/
def ofText? : Option String → Json
  | some s => .string s
  | none => .null

/-! ## Equality of values -/

mutual

/-- Equality of values: member by member and item by item, numbers by `Number.same`. -/
def same : Json → Json → Bool
  | .null, .null => true
  | .bool a, .bool b => a == b
  | .number a, .number b => a.same b
  | .string a, .string b => a == b
  | .array as, .array bs => sameItems as bs
  | .object as, .object bs => sameMembers as bs
  | _, _ => false
termination_by structural j => j

/-- Equality of items, one by one. -/
def sameItems : List Json → List Json → Bool
  | [], [] => true
  | a :: as, b :: bs => same a b && sameItems as bs
  | _, _ => false
termination_by structural js => js

/-- Equality of members, one by one. -/
def sameMembers : List (String × Json) → List (String × Json) → Bool
  | [], [] => true
  | (k, a) :: as, (l, b) :: bs => k == l && same a b && sameMembers as bs
  | _, _ => false
termination_by structural ms => ms

end

/-- Whether some value of a list equals `j`. -/
def isAmong (j : Json) (values : List Json) : Bool := values.any fun v => v.same j

/-! ## Decidable identity -/

mutual

/-- Identity of values is decidable. -/
def decideEq : (a b : Json) → Decidable (a = b)
  | .null, .null => isTrue rfl
  | .bool a, .bool b => if h : a = b then isTrue (by rw [h]) else isFalse (by simpa using h)
  | .number a, .number b => if h : a = b then isTrue (by rw [h]) else isFalse (by simpa using h)
  | .string a, .string b => if h : a = b then isTrue (by rw [h]) else isFalse (by simpa using h)
  | .array a, .array b => match decideEqItems a b with
    | isTrue h => isTrue (by rw [h])
    | isFalse h => isFalse (by simpa using h)
  | .object a, .object b => match decideEqMembers a b with
    | isTrue h => isTrue (by rw [h])
    | isFalse h => isFalse (by simpa using h)
  | .null, .bool _ | .null, .number _ | .null, .string _ | .null, .array _ | .null, .object _
  | .bool _, .null | .bool _, .number _ | .bool _, .string _ | .bool _, .array _ | .bool _, .object _
  | .number _, .null | .number _, .bool _ | .number _, .string _ | .number _, .array _ | .number _, .object _
  | .string _, .null | .string _, .bool _ | .string _, .number _ | .string _, .array _ | .string _, .object _
  | .array _, .null | .array _, .bool _ | .array _, .number _ | .array _, .string _ | .array _, .object _
  | .object _, .null | .object _, .bool _ | .object _, .number _ | .object _, .string _ | .object _, .array _ =>
    isFalse (by simp)
termination_by structural a => a

/-- Identity of item lists is decidable. -/
def decideEqItems : (a b : List Json) → Decidable (a = b)
  | [], [] => isTrue rfl
  | a :: as, b :: bs => match decideEq a b, decideEqItems as bs with
    | isTrue h, isTrue h' => isTrue (by rw [h, h'])
    | isFalse h, _ => isFalse (by simp [h])
    | _, isFalse h => isFalse (by simp [h])
  | [], _ :: _ | _ :: _, [] => isFalse (by simp)
termination_by structural a => a

/-- Identity of member lists is decidable. -/
def decideEqMembers : (a b : List (String × Json)) → Decidable (a = b)
  | [], [] => isTrue rfl
  | (k, a) :: as, (l, b) :: bs => match decideEq a b, decideEqMembers as bs, decEq k l with
    | isTrue h, isTrue h', isTrue hk => isTrue (by rw [h, h', hk])
    | isFalse h, _, _ => isFalse (by simp [h])
    | _, isFalse h, _ => isFalse (by simp [h])
    | _, _, isFalse h => isFalse (by simp [h])
  | [], _ :: _ | _ :: _, [] => isFalse (by simp)
termination_by structural a => a

end

instance : DecidableEq Json := decideEq

end Json

end StatementProfiles
