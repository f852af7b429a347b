import XmlTypes.Schema.Document
/-!
# Putting schemas together

Additions to documents and definitions, for schemas that are made rather than read. What is added
to a list comes last.
-/

namespace XmlTypes.Schema

namespace Document

/-- The document with one more include. -/
def addInclude (d : Document) (location : String) : Document :=
  { d with includes := d.includes ++ [location] }

/-- The document with one more import. -/
def addImport (d : Document) (location : String) : Document :=
  { d with imports := d.imports ++ [location] }

/-- The document with one more type. -/
def addType (d : Document) (t : TypeDefinition) : Document := { d with types := d.types ++ [t] }

/-- The document with one more element. -/
def addElement (d : Document) (e : ElementDecl) : Document :=
  { d with elements := d.elements ++ [e] }

/-- The document with one more model group. -/
def addGroup (d : Document) (g : GroupDef) : Document := { d with groups := d.groups ++ [g] }

/-- The document with one more attribute group. -/
def addAttributeGroup (d : Document) (g : AttributeGroupDef) : Document :=
  { d with attributeGroups := d.attributeGroups ++ [g] }

/-- The document with one more attribute. -/
def addAttribute (d : Document) (a : AttributeDecl) : Document :=
  { d with attributes := d.attributes ++ [a] }

end Document

namespace ComplexType

/-- The type with one more entry in its attribute list. -/
def addAttribute (t : ComplexType) (a : AttributeItem) : ComplexType :=
  { t with attributes := t.attributes ++ [a] }

/-- The type derived from `base`. -/
def derive (t : ComplexType) (base : QName) (method : DerivationMethod) : ComplexType :=
  { t with derivation := some ⟨base, method⟩ }

end ComplexType

namespace SimpleType

/-- A restriction of `base` to the given literals. -/
def enumeration (name : Option QName) (base : TypeRef) (literals : List String) : SimpleType :=
  { name, content := .restriction base (literals.map Facet.literal) }

/-- A list of items. -/
def listOf (name : Option QName) (item : TypeRef) : SimpleType := { name, content := .list item }

/-- A union of members. -/
def unionOf (name : Option QName) (members : List TypeRef) : SimpleType :=
  { name, content := .union members }

end SimpleType

/-- A group of particles that occurs once. -/
def Particle.ofGroup (compositor : Compositor) (particles : List Particle) : Particle :=
  .one (.group { compositor, particles })

end XmlTypes.Schema
