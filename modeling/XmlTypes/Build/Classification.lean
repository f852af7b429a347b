import XmlTypes.Build.Context
import XmlTypes.Configuration
import XmlTypes.Restriction.Layer
/-!
# Classifying simple types

A simple type is an enumeration or a restricted value. It is an enumeration if its facets are
enumerated literals and nothing else, if it enumerates literals of a type whose literals name
symbols, if it restricts an enumeration, or if it is a union of enumerations only. Names that are
followed on the way are remembered, so a type that derives from itself is found out.
-/

namespace XmlTypes.Build

open Schema

/-- What a simple type is. -/
inductive Classification
  /-- An enumeration, with its facets in order. -/
  | enumeration (facets : List Facet)
  /-- A value of a primitive type, or a list of such. -/
  | value (type : Primitive) (restrictions : List Restriction) (isList : Bool)
deriving DecidableEq, Repr, Inhabited

namespace Classification

/-- The primitive type of the values. -/
def valueType : Classification → Primitive
  | enumeration _ => .string
  | value type _ _ => type

/-- Whether the type is an enumeration. -/
def isEnumeration : Classification → Bool
  | enumeration _ => true
  | value .. => false

/-- The facets of an enumeration. -/
def facets : Classification → List Facet
  | enumeration fs => fs
  | value .. => []

/-- A restriction of the given base by facets. -/
def restrict (mode : AnnotationMode) (base : Classification) (facets : List Facet) :
    Classification :=
  let literals := facets.filter (·.isEnumeration)
  match base with
  | enumeration inherited => enumeration (if literals.isEmpty then inherited else literals)
  | value type restrictions isList =>
    if !literals.isEmpty && !isList && (Facet.onlyEnumerations facets || type.isEnumerable) then
      enumeration literals
    else value type (layer restrictions (restrictionsOf facets type mode)) isList

/-- A list of the given items. -/
def listOf (item : Classification) : Classification := value item.valueType [] true

/-- A union of the given members; `widen` asks for the widest of their types. -/
def unionOf (widen : Bool) (members : List Classification) : Classification :=
  if !members.isEmpty && members.all (·.isEnumeration) then enumeration (members.flatMap facets)
  else value (if widen then Primitive.widest (members.map valueType) else .string) [] false

end Classification

/-- Classifies a simple type, whose parts are classified by `refer`. -/
def classifyContent (options : Options) (refer : TypeRef → Except Failure Classification) :
    SimpleContent → Except Failure Classification
  | .restriction base facets => do return (← refer base).restrict options.annotationMode facets
  | .list item => do return (← refer item).listOf
  | .union members => do return .unionOf options.widenUnions (← members.mapM refer)

/-- Classifies the type that a reference in `document` refers to, while the derivations of the
types named in `visiting` are being followed; at most `fuel` references deep. -/
def classifyRef (index : Index) (options : Options) :
    (fuel : Nat) → (document : Document) → (visiting : List QName) → TypeRef →
      Except Failure Classification
  | 0, document, _, _ => .error (.build .bottomless none (some document.location))
  | fuel + 1, document, visiting, .named name =>
    if name.isXsd then
      match Primitive.ofBuiltin? name.name with
      | some p => .ok (.value p [] (isListBuiltin name.name))
      | none => .error (.unsupported (.construct name))
    else match index.type? name with
      | none => .error (.unresolved .type name document.location)
      | some ⟨.complex _, home, _⟩ => .error (.about .derivedFromComplex name home.location)
      | some ⟨.simple t, home, _⟩ =>
        if visiting.contains name then .error (.about .circularDerivation name home.location)
        else
          classifyContent options (classifyRef index options fuel home (visiting ++ [name]))
            t.content
  | fuel + 1, document, visiting, .inline (.simple t) =>
    classifyContent options (classifyRef index options fuel document visiting) t.content
  | _ + 1, _, _, .inline (.complex _) => .error (.unsupported .inlineComplexType)

end XmlTypes.Build
