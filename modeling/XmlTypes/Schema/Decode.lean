import XmlTypes.Json.Reader
import XmlTypes.Json.Shape
import XmlTypes.Schema.Document
/-!
# Reading schemas from JSON

The shapes of declarations, definitions and documents. A member that has a natural default may be
absent. Type references and particles nest, so their shapes are built level by level:
`Readers.upTo n` reads whatever nests at most `n` levels deep.
-/

namespace XmlTypes

open Json (Value Room Shape Members Record)

/-- The members of a name. -/
def QName.record : Record QName where
  keys := ["namespace", "name"]
  read room ms := do
    return { uri := ← ms.optional room "namespace" Shape.text
             name := ← ms.required room "name" Shape.text }

/-- A name. -/
def QName.shape : Shape QName := Shape.object QName.record

namespace Schema

/-- The members of occurrence bounds. -/
def Occurs.record : Record Occurs where
  keys := ["min", "max"]
  read room ms := do
    return { min := ← ms.withDefault room "min" 1 Shape.nat32
             max := ← ms.withDefault room "max" (some 1) Shape.nat32.orNull }

/-- Occurrence bounds. -/
def Occurs.shape : Shape Occurs := Shape.object Occurs.record

/-- A form. -/
def Form.shape : Shape Form := Shape.word [("qualified", .qualified), ("unqualified", .unqualified)]

/-- A compositor. -/
def Compositor.shape : Shape Compositor :=
  Shape.word [("sequence", .sequence), ("choice", .choice), ("all", .all)]

/-- The use of an attribute. -/
def AttributeUse.shape : Shape AttributeUse :=
  Shape.word [("optional", .optional), ("required", .required), ("prohibited", .prohibited)]

/-- A method of derivation. -/
def DerivationMethod.shape : Shape DerivationMethod :=
  Shape.word [("restriction", .restriction), ("extension", .extension)]

/-- How content is processed. -/
def ProcessContents.shape : Shape ProcessContents :=
  Shape.word [("strict", .strict), ("lax", .lax), ("skip", .skip)]

/-- A mode of white space handling. -/
def WhiteSpace.shape : Shape WhiteSpace :=
  Shape.word [("preserve", .preserve), ("replace", .replace), ("collapse", .collapse)]

/-- A primitive by its key. -/
def Primitive.shape : Shape Primitive := Shape.word (Primitive.all.map fun p => (p.key, p))

/-- A facet with a single value. -/
def Facet.withValue {α : Type} (s : Shape α) (make : α → Facet) : Record Facet where
  keys := ["value"]
  read room ms := (ms.required room "value" s).map make

/-- An enumerated literal. -/
def Facet.literalRecord : Record Facet where
  keys := ["value", "documentation", "deprecated"]
  read room ms := do
    return .enumeration (← ms.required room "value" Shape.text)
      (← ms.list room "documentation" Shape.text)
      (← ms.withDefault room "deprecated" false Shape.bool)

/-- A facet. -/
def Facet.shape : Shape Facet :=
  Shape.tagged
    [("length", withValue Shape.nat64 .length),
     ("minLength", withValue Shape.nat64 .minLength),
     ("maxLength", withValue Shape.nat64 .maxLength),
     ("pattern", withValue Shape.text .pattern),
     ("enumeration", literalRecord),
     ("whiteSpace", withValue WhiteSpace.shape .whiteSpace),
     ("minInclusive", withValue Shape.text .minInclusive),
     ("minExclusive", withValue Shape.text .minExclusive),
     ("maxInclusive", withValue Shape.text .maxInclusive),
     ("maxExclusive", withValue Shape.text .maxExclusive),
     ("totalDigits", withValue Shape.nat32 .totalDigits),
     ("fractionDigits", withValue Shape.nat32 .fractionDigits)]

/-- The members of a wildcard. -/
def Wildcard.record : Record Wildcard where
  keys := ["namespace", "processContents", "documentation"]
  read room ms := do
    return { allowed := ← ms.optional room "namespace" Shape.text
             processContents :=
               ← ms.withDefault room "processContents" .strict ProcessContents.shape
             documentation := ← ms.list room "documentation" Shape.text }

/-- A wildcard. -/
def Wildcard.shape : Shape Wildcard := Shape.object Wildcard.record

/-- The members of a derivation. -/
def Derivation.record : Record Derivation where
  keys := ["base", "method"]
  read room ms := do
    return { base := ← ms.required room "base" QName.shape
             method := ← ms.required room "method" DerivationMethod.shape }

/-- A derivation. -/
def Derivation.shape : Shape Derivation := Shape.object Derivation.record

/-! ## Shapes that nest -/

/-- Shapes for what nests, at one room. -/
structure Readers where
  typeRef : Value → Option TypeRef
  typeRefs : Value → Option (List TypeRef)
  typeDefinition : Value → Option TypeDefinition
  particle : Value → Option Particle
  particles : Value → Option (List Particle)
  term : Value → Option Term
  attributeItems : Value → Option (List AttributeItem)
  attributeItem : Value → Option AttributeItem
  simpleContent : Value → Option SimpleContent

namespace Readers

/-- Where no level is left, nothing that nests can be read. -/
def none : Readers where
  typeRef _ := Option.none
  typeRefs _ := Option.none
  typeDefinition _ := Option.none
  particle _ := Option.none
  particles _ := Option.none
  term _ := Option.none
  attributeItems _ := Option.none
  attributeItem _ := Option.none
  simpleContent _ := Option.none

/-- The reader `f` as a shape; the room it is given is the one it was made for. -/
def asShape {α : Type} (f : Value → Option α) : Shape α := fun _ v => f v

/-- An array of items that are one level deeper. -/
def array {α : Type} (f : Value → Option α) : Value → Option (List α)
  | .array vs => vs.mapM f
  | _ => Option.none

end Readers

/-- The members of an element declaration, whose type is read by `r`. -/
def ElementDecl.record (r : Readers) : Record ElementDecl where
  keys := ["name", "type", "nillable", "default", "fixed", "form", "abstract",
    "substitutionGroup", "documentation"]
  read room ms := do
    return { name := ← ms.required room "name" QName.shape
             typeRef := ← ms.optional room "type" (Readers.asShape r.typeRef)
             nillable := ← ms.withDefault room "nillable" false Shape.bool
             default := ← ms.optional room "default" Shape.text
             fixed := ← ms.optional room "fixed" Shape.text
             form := ← ms.withDefault room "form" .unqualified Form.shape
             isAbstract := ← ms.withDefault room "abstract" false Shape.bool
             substitutionGroup := ← ms.optional room "substitutionGroup" QName.shape
             documentation := ← ms.list room "documentation" Shape.text }

/-- The members of an attribute declaration, whose type is read by `r`. -/
def AttributeDecl.record (r : Readers) : Record AttributeDecl where
  keys := ["name", "type", "use", "default", "fixed", "form", "documentation"]
  read room ms := do
    return { name := ← ms.required room "name" QName.shape
             typeRef := ← ms.optional room "type" (Readers.asShape r.typeRef)
             use := ← ms.withDefault room "use" .optional AttributeUse.shape
             default := ← ms.optional room "default" Shape.text
             fixed := ← ms.optional room "fixed" Shape.text
             form := ← ms.withDefault room "form" .unqualified Form.shape
             documentation := ← ms.list room "documentation" Shape.text }

/-- The members of a complex type, whose parts are read by `r`. -/
def ComplexType.record (r : Readers) : Record ComplexType where
  keys := ["name", "documentation", "abstract", "mixed", "derivation", "particle", "attributes",
    "anyAttribute", "simpleContent"]
  read room ms := do
    return { name := ← ms.optional room "name" QName.shape
             documentation := ← ms.list room "documentation" Shape.text
             isAbstract := ← ms.withDefault room "abstract" false Shape.bool
             mixed := ← ms.withDefault room "mixed" false Shape.bool
             derivation := ← ms.optional room "derivation" Derivation.shape
             particle := ← ms.optional room "particle" (Readers.asShape r.particle)
             attributes :=
               ← ms.withDefault room "attributes" [] (Readers.asShape r.attributeItems)
             anyAttribute := ← ms.optional room "anyAttribute" Wildcard.shape
             simpleContent := ← ms.optional room "simpleContent" (Readers.asShape r.typeRef) }

/-- The members of a simple type, whose content is read by `r`. -/
def SimpleType.record (r : Readers) : Record SimpleType where
  keys := ["name", "documentation", "content"]
  read room ms := do
    return { name := ← ms.optional room "name" QName.shape
             documentation := ← ms.list room "documentation" Shape.text
             content := ← ms.required room "content" (Readers.asShape r.simpleContent) }

/-- The members of a model group, whose particles are read by `r`. -/
def ModelGroup.record (r : Readers) : Record ModelGroup where
  keys := ["model", "particles"]
  read room ms := do
    return { compositor := ← ms.withDefault room "model" .sequence Compositor.shape
             particles := ← ms.withDefault room "particles" [] (Readers.asShape r.particles) }

/-- The members of a particle, whose term is read by `r`. -/
def Particle.record (r : Readers) : Record Particle where
  keys := ["term", "occurs"]
  read room ms := do
    return { term := ← ms.required room "term" (Readers.asShape r.term)
             occurs := ← ms.withDefault room "occurs" .once Occurs.shape }

/-- The only member of a type reference. -/
def TypeRef.read (r : Readers) (room : Room) (key : String) (v : Value) : Option TypeRef :=
  match key with
  | "named" => (QName.shape room v).map .named
  | "anonymous" => (r.typeDefinition v).map .inline
  | _ => none

/-- The alternatives of a type definition. -/
def TypeDefinition.alternatives (r : Readers) : List (String × Record TypeDefinition) :=
  [("complex", (ComplexType.record r).map .complex), ("simple", (SimpleType.record r).map .simple)]

/-- The alternatives of a term. -/
def Term.alternatives (r : Readers) : List (String × Record Term) :=
  [("element", (ElementDecl.record r).map .element), ("elementRef", QName.record.map .elementRef),
   ("any", Wildcard.record.map .any), ("groupRef", QName.record.map .groupRef),
   ("group", (ModelGroup.record r).map .group)]

/-- The alternatives of an entry in an attribute list. -/
def AttributeItem.alternatives (r : Readers) : List (String × Record AttributeItem) :=
  [("attribute", (AttributeDecl.record r).map .attribute), ("ref", QName.record.map .ref),
   ("group", QName.record.map .group)]

/-- A restriction of a base type. -/
def SimpleContent.restrictionRecord (r : Readers) : Record SimpleContent where
  keys := ["base", "facets"]
  read room ms := do
    return .restriction (← ms.required room "base" (Readers.asShape r.typeRef))
      (← ms.list room "facets" Facet.shape)

/-- A list of items. -/
def SimpleContent.listRecord (r : Readers) : Record SimpleContent where
  keys := ["item"]
  read room ms := (ms.required room "item" (Readers.asShape r.typeRef)).map .list

/-- A union of members. -/
def SimpleContent.unionRecord (r : Readers) : Record SimpleContent where
  keys := ["members"]
  read room ms := (ms.required room "members" (Readers.asShape r.typeRefs)).map .union

/-- The alternatives of the making of a simple type. -/
def SimpleContent.alternatives (r : Readers) : List (String × Record SimpleContent) :=
  [("restriction", restrictionRecord r), ("list", listRecord r), ("union", unionRecord r)]

namespace Readers

/-- The readers for `room`, given those that are one level deeper, within a held object or not. -/
def next (room : Room) (deeper : Bool → Readers) : Readers where
  typeRef v := Shape.single (TypeRef.read (deeper room.held)) room v
  typeRefs v := array (deeper room.held).typeRef v
  typeDefinition v := Shape.tagged (TypeDefinition.alternatives (deeper true)) room v
  particle v := Shape.object (Particle.record (deeper room.held)) room v
  particles v := array (deeper room.held).particle v
  term v := Shape.tagged (Term.alternatives (deeper true)) room v
  attributeItems v := array (deeper room.held).attributeItem v
  attributeItem v := Shape.tagged (AttributeItem.alternatives (deeper true)) room v
  simpleContent v := Shape.tagged (SimpleContent.alternatives (deeper true)) room v

/-- The readers for values that nest at most `levels` deep. -/
def upTo : (levels : Nat) → (held : Bool) → Readers
  | 0, _ => none
  | levels + 1, held => next ⟨levels + 1, held⟩ (upTo levels)

/-- The readers for the values in a room. -/
def within (room : Room) : Readers := upTo room.levels room.held

/-- An object whose members may nest. -/
def object {α : Type} (record : Readers → Record α) : Shape α := fun room =>
  Shape.object (record (upTo (room.levels - 1) room.held)) room

end Readers

/-! ## Declarations and documents -/

/-- A type definition. -/
def TypeDefinition.shape : Shape TypeDefinition :=
  fun room => (Readers.within room).typeDefinition

/-- A complex type without its kind. -/
def ComplexType.shape : Shape ComplexType :=
  Readers.object ComplexType.record

/-- A simple type without its kind. -/
def SimpleType.shape : Shape SimpleType :=
  Readers.object SimpleType.record

/-- A particle. -/
def Particle.shape : Shape Particle := fun room => (Readers.within room).particle

/-- An entry of an attribute list. -/
def AttributeItem.shape : Shape AttributeItem := fun room => (Readers.within room).attributeItem

/-- An element declaration. -/
def ElementDecl.shape : Shape ElementDecl :=
  Readers.object ElementDecl.record

/-- An attribute declaration. -/
def AttributeDecl.shape : Shape AttributeDecl :=
  Readers.object AttributeDecl.record

/-- A model group without its kind. -/
def ModelGroup.shape : Shape ModelGroup :=
  Readers.object ModelGroup.record

/-- The members of a named model group. -/
def GroupDef.record : Record GroupDef where
  keys := ["name", "group", "documentation"]
  read room ms := do
    return { name := ← ms.required room "name" QName.shape
             group := ← ms.required room "group" ModelGroup.shape
             documentation := ← ms.list room "documentation" Shape.text }

/-- A named model group. -/
def GroupDef.shape : Shape GroupDef := Shape.object GroupDef.record

/-- The members of a named attribute group. -/
def AttributeGroupDef.record : Record AttributeGroupDef where
  keys := ["name", "attributes", "anyAttribute", "documentation"]
  read room ms := do
    return { name := ← ms.required room "name" QName.shape
             attributes := ← ms.list room "attributes" AttributeItem.shape
             anyAttribute := ← ms.optional room "anyAttribute" Wildcard.shape
             documentation := ← ms.list room "documentation" Shape.text }

/-- A named attribute group. -/
def AttributeGroupDef.shape : Shape AttributeGroupDef := Shape.object AttributeGroupDef.record

/-- The members of a document. -/
def Document.record : Record Document where
  keys := ["location", "targetNamespace", "includes", "imports", "types", "elements", "groups",
    "attributeGroups", "attributes"]
  read room ms := do
    return { location := ← ms.required room "location" Shape.text
             targetNamespace := ← ms.optional room "targetNamespace" Shape.text
             includes := ← ms.list room "includes" Shape.text
             imports := ← ms.list room "imports" Shape.text
             types := ← ms.list room "types" TypeDefinition.shape
             elements := ← ms.list room "elements" ElementDecl.shape
             groups := ← ms.list room "groups" GroupDef.shape
             attributeGroups := ← ms.list room "attributeGroups" AttributeGroupDef.shape
             attributes := ← ms.list room "attributes" AttributeDecl.shape }

/-- A document. -/
def Document.shape : Shape Document := Shape.object Document.record

/-- The members of a schema set. -/
def SchemaSet.record : Record SchemaSet where
  keys := ["documents"]
  read room ms := do
    return { documents := ← ms.required room "documents" Document.shape.items }

/-- A schema set. -/
def SchemaSet.shape : Shape SchemaSet := Shape.object SchemaSet.record

end Schema

end XmlTypes
