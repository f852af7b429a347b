import XmlTypes.Schema.Definition
/-!
# Documents

A schema set is the list of documents of a schema whose includes and imports are resolved, each
with its global declarations.
-/

namespace XmlTypes.Schema

/-- A named model group. -/
structure GroupDef where
  name : QName
  group : ModelGroup := {}
  documentation : List String := []

/-- A named attribute group. -/
structure AttributeGroupDef where
  name : QName
  attributes : List AttributeItem := []
  anyAttribute : Option Wildcard := none
  documentation : List String := []

/-- One document of a schema. -/
structure Document where
  /-- Where the document comes from, a URI or a path. -/
  location : String
  targetNamespace : Option String := none
  includes : List String := []
  imports : List String := []
  types : List TypeDefinition := []
  elements : List ElementDecl := []
  groups : List GroupDef := []
  attributeGroups : List AttributeGroupDef := []
  attributes : List AttributeDecl := []

/-- The documents of a schema, in the order they were read. -/
structure SchemaSet where
  documents : List Document := []

instance : Inhabited GroupDef := ⟨{ name := default }⟩

instance : Inhabited AttributeGroupDef := ⟨{ name := default }⟩

instance : Inhabited Document := ⟨{ location := "" }⟩

/-- The locations that a document depends on, includes before imports. -/
def Document.dependencies (d : Document) : List String := d.includes ++ d.imports

end XmlTypes.Schema
