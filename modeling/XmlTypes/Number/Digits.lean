/-!
# Digit strings

Reading a run of decimal digits as a natural number, and the signed integers of 64 bits that are
written that way.
-/

namespace XmlTypes.Number

/-- The value of a digit character. -/
def digitValue (c : Char) : Nat := c.toNat - '0'.toNat

/-- Continues the number `n` with the digits `cs`; none if one of them is no digit. -/
def continueDigits? : (n : Nat) → (cs : List Char) → Option Nat
  | n, [] => some n
  | n, c :: cs => if c.isDigit then continueDigits? (n * 10 + digitValue c) cs else none

/-- A non-empty run of digits. -/
def digits? : List Char → Option Nat
  | [] => none
  | cs => continueDigits? 0 cs

/-- Digits after an optional plus sign. -/
def unsigned? : List Char → Option Nat
  | '+' :: cs => digits? cs
  | cs => digits? cs

/-- Digits after an optional sign. -/
def signed? : List Char → Option Int
  | '-' :: cs => (digits? cs).map fun n => -(n : Int)
  | cs => (unsigned? cs).map fun n => (n : Int)

/-- A signed number that fits 64 bits. -/
def int64? (cs : List Char) : Option Int := do
  let n ← signed? cs
  if -0x8000000000000000 ≤ n ∧ n < 0x8000000000000000 then some n else none

/-- The digits of `n`, padded on the left with zeros to `width` characters. -/
def padded (width n : Nat) : List Char :=
  let ds := (toString n).toList
  List.replicate (width - ds.length) '0' ++ ds

end XmlTypes.Number
