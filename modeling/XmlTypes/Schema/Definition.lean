import XmlTypes.Schema.Facet
import XmlTypes.Schema.Occurs
import XmlTypes.Schema.Primitive
/-!
# Declarations and definitions

The abstract syntax of a compiled schema. A type is referred to by name or given inline, so
element declarations, type definitions and content models are defined together. A complex type
carries its declared content only: what an extension appends, or what a restriction restates.
-/

namespace XmlTypes.Schema

/-- Whether a local name is qualified by its namespace. -/
inductive Form
  | qualified | unqualified
deriving DecidableEq, Repr, Inhabited

/-- How the particles of a group combine. -/
inductive Compositor
  | sequence | choice | all
deriving DecidableEq, Repr, Inhabited

/-- How strictly the content of a wildcard is validated. -/
inductive ProcessContents
  | strict | lax | skip
deriving DecidableEq, Repr, Inhabited

/-- Whether an attribute may, must or must not be present. -/
inductive AttributeUse
  | optional | required | prohibited
deriving DecidableEq, Repr, Inhabited

/-- How a complex type derives from its base. -/
inductive DerivationMethod
  | restriction | extension
deriving DecidableEq, Repr, Inhabited

namespace Form

/-- The form as a word. -/
def toText : Form → String
  | qualified => "qualified"
  | unqualified => "unqualified"

end Form

namespace Compositor

/-- The compositor as a word. -/
def toText : Compositor → String
  | sequence => "sequence"
  | choice => "choice"
  | all => "all"

end Compositor

namespace AttributeUse

/-- The use as a word. -/
def toText : AttributeUse → String
  | optional => "optional"
  | required => "required"
  | prohibited => "prohibited"

end AttributeUse

namespace DerivationMethod

/-- The method as a word. -/
def toText : DerivationMethod → String
  | restriction => "restriction"
  | extension => "extension"

end DerivationMethod

/-- An element or attribute wildcard. -/
structure Wildcard where
  /-- The namespace constraint as written. -/
  allowed : Option String := none
  processContents : ProcessContents := .strict
  documentation : List String := []
deriving DecidableEq, Repr, Inhabited

/-- The base type of a derived complex type. -/
structure Derivation where
  base : QName
  method : DerivationMethod
deriving DecidableEq, Repr, Inhabited

mutual

/-- An element declaration, global or local. No type means that anything is allowed. -/
structure ElementDecl where
  name : QName
  typeRef : Option TypeRef := none
  nillable : Bool := false
  default : Option String := none
  fixed : Option String := none
  form : Form := .unqualified
  isAbstract : Bool := false
  substitutionGroup : Option QName := none
  documentation : List String := []

/-- An attribute declaration, global or local. No type means any simple type. -/
structure AttributeDecl where
  name : QName
  typeRef : Option TypeRef := none
  use : AttributeUse := .optional
  default : Option String := none
  fixed : Option String := none
  form : Form := .unqualified
  documentation : List String := []

/-- A type by its name, or defined in place. -/
inductive TypeRef
  | named (name : QName)
  | inline (definition : TypeDefinition)

/-- A complex or simple type definition. -/
inductive TypeDefinition
  | complex (type : ComplexType)
  | simple (type : SimpleType)

/-- A complex type definition. -/
structure ComplexType where
  name : Option QName := none
  documentation : List String := []
  isAbstract : Bool := false
  mixed : Bool := false
  derivation : Option Derivation := none
  particle : Option Particle := none
  attributes : List AttributeItem := []
  anyAttribute : Option Wildcard := none
  simpleContent : Option TypeRef := none

/-- An entry of an attribute list. -/
inductive AttributeItem
  | attribute (declaration : AttributeDecl)
  | ref (name : QName)
  | group (name : QName)

/-- A part of a content model with its occurrence bounds. -/
structure Particle where
  term : Term
  occurs : Occurs := .once

/-- What a particle stands for. -/
inductive Term
  | element (declaration : ElementDecl)
  | elementRef (name : QName)
  | any (wildcard : Wildcard)
  | groupRef (name : QName)
  | group (group : ModelGroup)

/-- Particles combined by a compositor. -/
structure ModelGroup where
  compositor : Compositor := .sequence
  particles : List Particle := []

/-- A simple type definition. -/
structure SimpleType where
  name : Option QName := none
  documentation : List String := []
  content : SimpleContent

/-- How a simple type is made from others. -/
inductive SimpleContent
  | restriction (base : TypeRef) (facets : List Facet)
  | list (item : TypeRef)
  | union (members : List TypeRef)

end

instance : Inhabited TypeRef := ⟨.named default⟩

instance : Inhabited SimpleType := ⟨{ content := .union [] }⟩

instance : Inhabited TypeDefinition := ⟨.simple default⟩

instance : Inhabited ElementDecl := ⟨{ name := default }⟩

instance : Inhabited AttributeDecl := ⟨{ name := default }⟩

instance : Inhabited Particle := ⟨{ term := .any {} }⟩

/-- The kinds of simple types. -/
inductive Variety
  | atomic | list | union
deriving DecidableEq, Repr, Inhabited

namespace Variety

/-- The variety as a word. -/
def toText : Variety → String
  | atomic => "Atomic"
  | list => "List"
  | union => "Union"

end Variety

namespace SimpleType

/-- Whether the type is atomic, a list or a union. -/
def variety (t : SimpleType) : Variety :=
  match t.content with
  | .restriction .. => .atomic
  | .list _ => .list
  | .union _ => .union

/-- The facets of a restriction; lists and unions have none. -/
def facets (t : SimpleType) : List Facet :=
  match t.content with
  | .restriction _ fs => fs
  | _ => []

end SimpleType

namespace TypeDefinition

/-- The name of the type, if it has one. -/
def name : TypeDefinition → Option QName
  | complex t => t.name
  | simple t => t.name

/-- Whether the type is complex. -/
def isComplex : TypeDefinition → Bool
  | complex _ => true
  | simple _ => false

end TypeDefinition

namespace TypeRef

/-- A built-in type. -/
def xsd (name : String) : TypeRef := named (.xsd name)

end TypeRef

namespace Particle

/-- A term that occurs once. -/
def one (term : Term) : Particle := { term }

end Particle

end XmlTypes.Schema
