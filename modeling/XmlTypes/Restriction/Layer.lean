import XmlTypes.Restriction.Basic
import XmlTypes.Schema.Facet
/-!
# Layers of restrictions

The restrictions that the facets of one derivation step amount to, and the layering of a step over
those it derives from: a restriction replaces every inherited one of its kind.
-/

namespace XmlTypes

open Schema (Facet Primitive)

/-- The least and the greatest length that facets allow; the last facet decides. -/
def lengths (facets : List Facet) : Option Nat × Option Nat :=
  facets.foldl (fun (min, max) f => match f with
    | .length n => (some n, some n)
    | .minLength n => (some n, max)
    | .maxLength n => (min, some n)
    | _ => (min, max)) (none, none)

/-- The restriction of a facet that is not about length. -/
def Schema.Facet.restriction? (type : Primitive) : Facet → Option Restriction
  | .pattern s => some (.pattern s)
  | .minInclusive s => some (.minInclusive (.ofLiteral type s))
  | .minExclusive s => some (.minExclusive (.ofLiteral type s))
  | .maxInclusive s => some (.maxInclusive (.ofLiteral type s))
  | .maxExclusive s => some (.maxExclusive (.ofLiteral type s))
  | .totalDigits n => some (.totalDigits n)
  | .fractionDigits n => some (.fractionDigits n)
  | _ => none

/-- The restrictions of a range of lengths: apart when everything is given, and otherwise as one
range. -/
def lengthRestrictions (mode : AnnotationMode) (min max : Option Nat) : List Restriction :=
  if mode = .all then
    (min.map Restriction.minLength).toList ++ (max.map Restriction.maxLength).toList
  else if min.isSome || max.isSome then [.minMaxLength (min.getD 0) max]
  else []

/-- The restrictions that facets amount to under a mode, lengths first. -/
def restrictionsOf (facets : List Facet) (type : Primitive) (mode : AnnotationMode) :
    List Restriction :=
  if mode = .none then []
  else
    let (min, max) := lengths facets
    (lengthRestrictions mode min max ++ facets.filterMap (Facet.restriction? type)).filter
      (·.isGiven mode)

/-- `derived` over `inherited`: an inherited restriction stays unless a derived one is of its
kind. -/
def layer (inherited derived : List Restriction) : List Restriction :=
  inherited.filter (fun r => derived.all fun d => d.kind != r.kind) ++ derived

end XmlTypes
