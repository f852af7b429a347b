/-!
# Occurrence bounds

How often a particle may occur: at least `min` times and at most `max` times, or without an upper
limit. Counts are 32-bit numbers, and products of counts stop at the greatest of them.
-/

namespace XmlTypes.Schema

/-- Bounds on the number of occurrences; no `max` means unbounded. -/
structure Occurs where
  min : Nat := 1
  max : Option Nat := some 1
deriving DecidableEq, Repr, Inhabited

namespace Occurs

/-- The greatest count. -/
def maxCount : Nat := Nat.pow 2 32 - 1

/-- A product of counts, or the greatest count if the product is beyond it. -/
def times (a b : Nat) : Nat := Nat.min (a * b) maxCount

/-- Exactly once. -/
def once : Occurs := ⟨1, some 1⟩

/-- At most once. -/
def optional : Occurs := ⟨0, some 1⟩

/-- Any number of times. -/
def zeroOrMore : Occurs := ⟨0, none⟩

/-- At least once. -/
def oneOrMore : Occurs := ⟨1, none⟩

/-- Never. -/
def never : Occurs := ⟨0, some 0⟩

/-- Whether the particle may be absent. -/
def isEmptiable (o : Occurs) : Bool := o.min == 0

/-- Whether the particle never occurs. -/
def isEmpty (o : Occurs) : Bool := o.max == some 0

/-- Whether the particle may occur more than once. -/
def isMultiple (o : Occurs) : Bool := !o.isEmpty && o.max != some 1

/-- The bounds of a particle within an enclosing one: bounds multiply, and unbounded absorbs
everything but zero. -/
def within (inner outer : Occurs) : Occurs where
  min := times inner.min outer.min
  max :=
    if inner.isEmpty || outer.isEmpty then some 0
    else match inner.max, outer.max with
      | some a, some b => some (times a b)
      | _, _ => none

end Occurs

end XmlTypes.Schema
