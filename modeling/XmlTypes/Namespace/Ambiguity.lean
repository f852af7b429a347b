import XmlTypes.Text.Segments
/-!
# Ambiguous namespaces

A dotted output namespace `N` is shadowed when another one, `N.rest`, has a segment in `rest` that
equals the first segment of `N`: inside `N.rest` a reference that begins with that segment would
mean the nested namespace.
-/

namespace XmlTypes

/-- The segments of a dotted name. -/
def dottedSegments (name : List Char) : List (List Char) := Text.splitOn (· = '.') name

/-- Whether `inner` is nested in `outer` and shadows it. -/
def shadows (outer inner : String) : Bool :=
  match Text.dropHead? (outer.toList ++ ['.']) inner.toList with
  | none => false
  | some rest => (dottedSegments rest).contains ((dottedSegments outer.toList).headD [])

/-- Whether one of `names` shadows `outer`. -/
def isShadowed (names : List String) (outer : String) : Bool := names.any (shadows outer)

end XmlTypes
