import XmlTypes.Number.Binary64
import XmlTypes.Schema.Primitive
import XmlTypes.Text.Blank
/-!
# Restrictions

What a graph says about the values of a simple type or a property. Each restriction has a least
annotation mode under which it is given. Bounds are read by the type that they bound: as whole
numbers, decimals or doubles, and otherwise verbatim.
-/

namespace XmlTypes

open Schema (Primitive)

/-- How much a graph says about restrictions: nothing, combined ranges and patterns, or
everything. -/
inductive AnnotationMode
  | none | ranges | all
deriving DecidableEq, Repr, Inhabited

namespace AnnotationMode

/-- The position of the mode among all modes. -/
def rank : AnnotationMode → Nat
  | none => 0
  | ranges => 1
  | all => 2

/-- The name a mode is written by in data. -/
def key : AnnotationMode → String
  | none => "none"
  | ranges => "partial"
  | all => "all"

/-- Whether the mode `m` says at least as much as `least`. -/
def covers (m least : AnnotationMode) : Bool := least.rank ≤ m.rank

end AnnotationMode

/-- The value of a bound. -/
inductive BoundValue
  | integer (n : Int)
  | decimal (d : Number.Decimal)
  | float (x : Number.Binary64)
  | literal (s : String)
deriving DecidableEq, Repr, Inhabited

namespace BoundValue

/-- The value of trimmed text as a bound of the given type, if it has one. -/
def read? (type : Primitive) (cs : List Char) : Option BoundValue :=
  if type.isIntegral then
    ((Number.int64? cs).map .integer).orElse fun _ => (Number.Decimal.read? cs).map .decimal
  else match type with
    | .decimal => (Number.Decimal.read? cs).map .decimal
    | .float | .double => (Number.Binary64.read? cs).map .float
    | _ => none

/-- The value of a literal as a bound of the given type; what cannot be read stays verbatim. -/
def ofLiteral (type : Primitive) (literal : String) : BoundValue :=
  (read? type (Text.trim literal.toList)).getD (.literal literal)

/-- The value as a literal. -/
def toText : BoundValue → String
  | integer n => toString n
  | decimal d => d.toText
  | float x => x.toText
  | literal s => s

end BoundValue

/-- A bound and the type that it bounds. -/
structure Bound where
  value : BoundValue
  type : Primitive
deriving DecidableEq, Repr, Inhabited

/-- The bound that a literal sets on values of the given type. -/
def Bound.ofLiteral (type : Primitive) (literal : String) : Bound := ⟨.ofLiteral type literal, type⟩

/-- A restriction of values. -/
inductive Restriction
  | minLength (n : Nat)
  | maxLength (n : Nat)
  | minMaxLength (min : Nat) (max : Option Nat)
  | totalDigits (n : Nat)
  | fractionDigits (n : Nat)
  | pattern (s : String)
  | minInclusive (b : Bound)
  | minExclusive (b : Bound)
  | maxInclusive (b : Bound)
  | maxExclusive (b : Bound)
deriving DecidableEq, Repr, Inhabited

namespace Restriction

/-- The least mode under which the restriction is given. -/
def leastMode : Restriction → AnnotationMode
  | minLength _ | maxLength _ | totalDigits _ | fractionDigits _ => .all
  | _ => .ranges

/-- Whether the restriction is given under a mode. -/
def isGiven (r : Restriction) (mode : AnnotationMode) : Bool := mode.covers r.leastMode

/-- The kind of the restriction. -/
def kind : Restriction → String
  | minLength _ => "minLength"
  | maxLength _ => "maxLength"
  | minMaxLength .. => "minMaxLength"
  | totalDigits _ => "totalDigits"
  | fractionDigits _ => "fractionDigits"
  | pattern _ => "pattern"
  | minInclusive _ => "minInclusive"
  | minExclusive _ => "minExclusive"
  | maxInclusive _ => "maxInclusive"
  | maxExclusive _ => "maxExclusive"

/-- The bound of the restriction, if it sets one. -/
def bound? : Restriction → Option Bound
  | minInclusive b | minExclusive b | maxInclusive b | maxExclusive b => some b
  | _ => none

/-- The value of the restriction as a literal. -/
def literal : Restriction → String
  | minLength n | maxLength n | totalDigits n | fractionDigits n => toString n
  | minMaxLength min max =>
    toString min ++ ".." ++ match max with
      | some n => toString n
      | none => ""
  | pattern s => s
  | minInclusive b | minExclusive b | maxInclusive b | maxExclusive b => b.value.toText

end Restriction

end XmlTypes
