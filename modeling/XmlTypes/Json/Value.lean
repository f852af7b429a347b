import XmlTypes.Number.Binary64
/-!
# JSON values

A value keeps the order of the members of its objects and every repetition among them. A number is
an integer if it is written as one, and a decimal otherwise; minus zero counts as a decimal. A
text with half of a surrogate pair is no string: as a value, or as a key of an object, it makes
the value ill-formed, which matters only where somebody looks at it.
-/

namespace XmlTypes.Json

/-- A JSON value. -/
inductive Value
  | null
  | bool (b : Bool)
  | integer (n : Int)
  /-- The number `± coefficient · 10 ^ exponent`. -/
  | decimal (negative : Bool) (coefficient : Nat) (exponent : Int)
  | string (s : String)
  | array (items : List Value)
  | object (members : List (String × Value))
  /-- A string, or an object with a key, that escapes half of a surrogate pair. -/
  | illFormed
deriving Inhabited, Repr

/-- The members of an object. -/
abbrev Members := List (String × Value)

namespace Value

/-- A text, or null for none. -/
def stringOrNull : Option String → Value
  | none => null
  | some s => string s

/-- A natural number. -/
def ofNat (n : Nat) : Value := integer n

/-- A natural number, or null for none. -/
def natOrNull : Option Nat → Value
  | none => null
  | some n => ofNat n

/-- A list of texts. -/
def ofTexts (ss : List String) : Value := array (ss.map string)

/-- The leading digits of `coefficient` that fit 64 bits, and the number of the others. -/
def leadingWord (coefficient : Nat) : Nat × Nat :=
  if coefficient < Nat.pow 2 64 then (coefficient, 0)
  else
    let (word, others) := leadingWord (coefficient / 10)
    (word, others + 1)
termination_by coefficient
decreasing_by
  rename_i h
  have : 0 < Nat.pow 2 64 := by decide
  omega

/-- Whether the number `± coefficient · 10 ^ exponent` is within the range of doubles, when its
leading digits and the power of ten are rounded first and then multiplied. -/
def inRange (coefficient : Nat) (exponent : Int) : Bool :=
  let (word, others) := leadingWord coefficient
  let exponent := exponent + others
  if word = 0 || exponent ≤ 0 then true
  else
    match Number.Binary64.mul (.ofDecimal false word 0) (.ofDecimal false 1 exponent) with
    | .finite .. => true
    | _ => false

mutual

/-- Whether the value is well-formed throughout, nests at most `room` levels deep, and all its
numbers are in range. -/
def isSound (room : Nat) : Value → Bool
  | null | bool _ | string _ => true
  | integer n => inRange n.natAbs 0
  | decimal _ coefficient exponent => inRange coefficient exponent
  | array items => room != 0 && itemsSound (room - 1) items
  | object members => room != 0 && membersSound (room - 1) members
  | illFormed => false

/-- Whether all items are sound. -/
def itemsSound (room : Nat) : List Value → Bool
  | [] => true
  | v :: vs => isSound room v && itemsSound room vs

/-- Whether the values of all members are sound. -/
def membersSound (room : Nat) : List (String × Value) → Bool
  | [] => true
  | m :: ms => isSound room m.2 && membersSound room ms

end

mutual

/-- Whether two values are the same, members in the same order. -/
def beq : Value → Value → Bool
  | null, null => true
  | bool a, bool b => a == b
  | integer a, integer b => a == b
  | decimal s c e, decimal s' c' e' => s == s' && c == c' && e == e'
  | string a, string b => a == b
  | array as, array bs => beqItems as bs
  | object as, object bs => beqMembers as bs
  | illFormed, illFormed => true
  | _, _ => false

/-- Whether two lists of items are the same. -/
def beqItems : List Value → List Value → Bool
  | [], [] => true
  | a :: as, b :: bs => beq a b && beqItems as bs
  | _, _ => false

/-- Whether two lists of members are the same. -/
def beqMembers : List (String × Value) → List (String × Value) → Bool
  | [], [] => true
  | a :: as, b :: bs => a.1 == b.1 && beq a.2 b.2 && beqMembers as bs
  | _, _ => false

end

instance : BEq Value := ⟨beq⟩

end Value

end XmlTypes.Json
