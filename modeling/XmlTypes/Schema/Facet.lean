/-!
# Facets

The constraints that a restriction puts on a simple type.
-/

namespace XmlTypes.Schema

/-- How white space is handled. -/
inductive WhiteSpace
  | preserve | replace | collapse
deriving DecidableEq, Repr, Inhabited

/-- A constraint on the values of a simple type. -/
inductive Facet
  | length (value : Nat)
  | minLength (value : Nat)
  | maxLength (value : Nat)
  | pattern (value : String)
  | enumeration (value : String) (documentation : List String) (deprecated : Bool)
  | whiteSpace (value : WhiteSpace)
  | minInclusive (value : String)
  | minExclusive (value : String)
  | maxInclusive (value : String)
  | maxExclusive (value : String)
  | totalDigits (value : Nat)
  | fractionDigits (value : Nat)
deriving DecidableEq, Repr, Inhabited

namespace Facet

/-- An enumerated literal without annotations. -/
def literal (value : String) : Facet := enumeration value [] false

/-- Whether the facet enumerates a literal. -/
def isEnumeration : Facet → Bool
  | enumeration .. => true
  | _ => false

/-- The name of the facet in a schema. -/
def name : Facet → String
  | length _ => "length"
  | minLength _ => "minLength"
  | maxLength _ => "maxLength"
  | pattern _ => "pattern"
  | enumeration .. => "enumeration"
  | whiteSpace _ => "whiteSpace"
  | minInclusive _ => "minInclusive"
  | minExclusive _ => "minExclusive"
  | maxInclusive _ => "maxInclusive"
  | maxExclusive _ => "maxExclusive"
  | totalDigits _ => "totalDigits"
  | fractionDigits _ => "fractionDigits"

/-- Whether there are facets, and all of them enumerate literals. -/
def onlyEnumerations (fs : List Facet) : Bool := !fs.isEmpty && fs.all isEnumeration

end Facet

end XmlTypes.Schema
