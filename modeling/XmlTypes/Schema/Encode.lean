import XmlTypes.Json.Value
import XmlTypes.Schema.Document
/-!
# Schemas as JSON

The written form of declarations, definitions and documents. Every member of an object is written,
null for what is absent and an empty array for an empty list; only a name without a namespace
leaves the member out. Alternatives are told by a member `kind`, a type reference by its only key.
-/

namespace XmlTypes

open Json (Value)

/-- A name; the namespace is left out when there is none. -/
def QName.encode (q : QName) : Value :=
  .object (match q.uri with
    | some uri => [("namespace", .string uri), ("name", .string q.name)]
    | none => [("name", .string q.name)])

/-- A name, or null for none. -/
def QName.encode? : Option QName → Value
  | none => .null
  | some q => q.encode

namespace Schema

/-- Occurrence bounds. -/
def Occurs.encode (o : Occurs) : Value :=
  .object [("min", .ofNat o.min), ("max", .natOrNull o.max)]

/-- A form. -/
def Form.encode (f : Form) : Value := .string f.toText

/-- A compositor. -/
def Compositor.encode (c : Compositor) : Value := .string c.toText

/-- The use of an attribute. -/
def AttributeUse.encode (u : AttributeUse) : Value := .string u.toText

/-- How content is processed. -/
def ProcessContents.encode : ProcessContents → Value
  | .strict => .string "strict"
  | .lax => .string "lax"
  | .skip => .string "skip"

/-- A mode of white space handling. -/
def WhiteSpace.encode : WhiteSpace → Value
  | .preserve => .string "preserve"
  | .replace => .string "replace"
  | .collapse => .string "collapse"

/-- An object of the given kind. -/
def ofKind (kind : String) (members : Json.Members) : Value :=
  .object (("kind", .string kind) :: members)

/-- A facet. -/
def Facet.encode (f : Facet) : Value :=
  ofKind f.name (match f with
    | .length n | .minLength n | .maxLength n | .totalDigits n | .fractionDigits n =>
      [("value", .ofNat n)]
    | .pattern s | .minInclusive s | .minExclusive s | .maxInclusive s | .maxExclusive s =>
      [("value", .string s)]
    | .enumeration s documentation deprecated =>
      [("value", .string s), ("documentation", .ofTexts documentation),
       ("deprecated", .bool deprecated)]
    | .whiteSpace w => [("value", w.encode)])

/-- The members of a wildcard. -/
def Wildcard.members (w : Wildcard) : Json.Members :=
  [("namespace", .stringOrNull w.allowed), ("processContents", w.processContents.encode),
   ("documentation", .ofTexts w.documentation)]

/-- A wildcard, or null for none. -/
def Wildcard.encode? : Option Wildcard → Value
  | none => .null
  | some w => .object w.members

/-- A derivation, or null for none. -/
def Derivation.encode? : Option Derivation → Value
  | none => .null
  | some d => .object [("base", d.base.encode), ("method", .string d.method.toText)]

mutual

/-- The members of an element declaration. -/
def ElementDecl.members : ElementDecl → Json.Members
  | ⟨name, typeRef, nillable, default, fixed, form, isAbstract, substitutionGroup,
      documentation⟩ =>
    [("name", name.encode), ("type", TypeRef.encode? typeRef), ("nillable", .bool nillable),
     ("default", .stringOrNull default), ("fixed", .stringOrNull fixed), ("form", form.encode),
     ("abstract", .bool isAbstract), ("substitutionGroup", QName.encode? substitutionGroup),
     ("documentation", .ofTexts documentation)]

/-- The members of an attribute declaration. -/
def AttributeDecl.members : AttributeDecl → Json.Members
  | ⟨name, typeRef, use, default, fixed, form, documentation⟩ =>
    [("name", name.encode), ("type", TypeRef.encode? typeRef), ("use", use.encode),
     ("default", .stringOrNull default), ("fixed", .stringOrNull fixed), ("form", form.encode),
     ("documentation", .ofTexts documentation)]

/-- A type reference, or null for none. -/
def TypeRef.encode? : Option TypeRef → Value
  | none => .null
  | some r => TypeRef.encode r

/-- A type reference. -/
def TypeRef.encode : TypeRef → Value
  | .named name => .object [("named", name.encode)]
  | .inline definition => .object [("anonymous", TypeDefinition.encode definition)]

/-- Type references. -/
def TypeRef.encodeAll : List TypeRef → List Value
  | [] => []
  | r :: rs => TypeRef.encode r :: TypeRef.encodeAll rs

/-- A type definition. -/
def TypeDefinition.encode : TypeDefinition → Value
  | .complex type => ofKind "complex" (ComplexType.members type)
  | .simple type => ofKind "simple" (SimpleType.members type)

/-- The members of a complex type. -/
def ComplexType.members : ComplexType → Json.Members
  | ⟨name, documentation, isAbstract, mixed, derivation, particle, attributes, anyAttribute,
      simpleContent⟩ =>
    [("name", QName.encode? name), ("documentation", .ofTexts documentation),
     ("abstract", .bool isAbstract), ("mixed", .bool mixed),
     ("derivation", Derivation.encode? derivation), ("particle", Particle.encode? particle),
     ("attributes", .array (AttributeItem.encodeAll attributes)),
     ("anyAttribute", Wildcard.encode? anyAttribute),
     ("simpleContent", TypeRef.encode? simpleContent)]

/-- An entry of an attribute list. -/
def AttributeItem.encode : AttributeItem → Value
  | .attribute declaration => ofKind "attribute" (AttributeDecl.members declaration)
  | .ref ⟨none, name⟩ => ofKind "ref" [("name", .string name)]
  | .ref ⟨some uri, name⟩ => ofKind "ref" [("namespace", .string uri), ("name", .string name)]
  | .group ⟨none, name⟩ => ofKind "group" [("name", .string name)]
  | .group ⟨some uri, name⟩ => ofKind "group" [("namespace", .string uri), ("name", .string name)]

/-- Entries of an attribute list. -/
def AttributeItem.encodeAll : List AttributeItem → List Value
  | [] => []
  | i :: is => AttributeItem.encode i :: AttributeItem.encodeAll is

/-- A particle. -/
def Particle.encode : Particle → Value
  | ⟨term, occurs⟩ => .object [("term", Term.encode term), ("occurs", occurs.encode)]

/-- A particle, or null for none. -/
def Particle.encode? : Option Particle → Value
  | none => .null
  | some p => Particle.encode p

/-- Particles. -/
def Particle.encodeAll : List Particle → List Value
  | [] => []
  | p :: ps => Particle.encode p :: Particle.encodeAll ps

/-- The term of a particle. -/
def Term.encode : Term → Value
  | .element declaration => ofKind "element" (ElementDecl.members declaration)
  | .elementRef ⟨none, name⟩ => ofKind "elementRef" [("name", .string name)]
  | .elementRef ⟨some uri, name⟩ =>
    ofKind "elementRef" [("namespace", .string uri), ("name", .string name)]
  | .any wildcard => ofKind "any" wildcard.members
  | .groupRef ⟨none, name⟩ => ofKind "groupRef" [("name", .string name)]
  | .groupRef ⟨some uri, name⟩ =>
    ofKind "groupRef" [("namespace", .string uri), ("name", .string name)]
  | .group group => ofKind "group" (ModelGroup.members group)

/-- The members of a model group. -/
def ModelGroup.members : ModelGroup → Json.Members
  | ⟨compositor, particles⟩ =>
    [("model", compositor.encode), ("particles", .array (Particle.encodeAll particles))]

/-- The members of a simple type. -/
def SimpleType.members : SimpleType → Json.Members
  | ⟨name, documentation, content⟩ =>
    [("name", QName.encode? name), ("documentation", .ofTexts documentation),
     ("content", SimpleContent.encode content)]

/-- The making of a simple type. -/
def SimpleContent.encode : SimpleContent → Value
  | .restriction base facets =>
    ofKind "restriction"
      [("base", TypeRef.encode base), ("facets", .array (facets.map Facet.encode))]
  | .list item => ofKind "list" [("item", TypeRef.encode item)]
  | .union members => ofKind "union" [("members", .array (TypeRef.encodeAll members))]

end

/-- An element declaration. -/
def ElementDecl.encode (e : ElementDecl) : Value := .object e.members

/-- An attribute declaration. -/
def AttributeDecl.encode (a : AttributeDecl) : Value := .object a.members

/-- A complex type without its kind. -/
def ComplexType.encode (t : ComplexType) : Value := .object t.members

/-- A simple type without its kind. -/
def SimpleType.encode (t : SimpleType) : Value := .object t.members

/-- A model group without its kind. -/
def ModelGroup.encode (g : ModelGroup) : Value := .object g.members

/-- A named model group. -/
def GroupDef.encode (g : GroupDef) : Value :=
  .object [("name", g.name.encode), ("group", g.group.encode),
    ("documentation", .ofTexts g.documentation)]

/-- A named attribute group. -/
def AttributeGroupDef.encode (g : AttributeGroupDef) : Value :=
  .object [("name", g.name.encode), ("attributes", .array (AttributeItem.encodeAll g.attributes)),
    ("anyAttribute", Wildcard.encode? g.anyAttribute), ("documentation", .ofTexts g.documentation)]

/-- A document. -/
def Document.encode (d : Document) : Value :=
  .object [("location", .string d.location), ("targetNamespace", .stringOrNull d.targetNamespace),
    ("includes", .ofTexts d.includes), ("imports", .ofTexts d.imports),
    ("types", .array (d.types.map TypeDefinition.encode)),
    ("elements", .array (d.elements.map ElementDecl.encode)),
    ("groups", .array (d.groups.map GroupDef.encode)),
    ("attributeGroups", .array (d.attributeGroups.map AttributeGroupDef.encode)),
    ("attributes", .array (d.attributes.map AttributeDecl.encode))]

/-- A schema set. -/
def SchemaSet.encode (s : SchemaSet) : Value :=
  .object [("documents", .array (s.documents.map Document.encode))]

/-- Two definitions are the same when their written forms are. -/
instance : BEq TypeDefinition := ⟨fun a b => a.encode == b.encode⟩

/-- Two schema sets are the same when their written forms are. -/
instance : BEq SchemaSet := ⟨fun a b => a.encode == b.encode⟩

end Schema

end XmlTypes
