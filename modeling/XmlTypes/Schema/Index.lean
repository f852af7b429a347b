import XmlTypes.Schema.Document
import XmlTypes.Table
/-!
# The index of a schema

Where the global declarations of a schema are found. When a name is declared several times, the
first declaration counts, by document and then by position; an element is a member of a
substitution group only through the declaration that counts.
-/

namespace XmlTypes.Schema

/-- The position of a declaration: its document, and its position in its list there. -/
structure Slot where
  document : Nat
  item : Nat
deriving DecidableEq, Repr, Inhabited

/-- A global declaration, the document that holds it, and its position. -/
structure Global (α : Type) where
  definition : α
  document : Document
  slot : Slot

/-- The documents of a schema with tables of their declarations. -/
structure Index where
  documents : List Document
  locations : Table String Nat
  types : Table QName Slot
  elements : Table QName Slot
  groups : Table QName Slot
  attributeGroups : Table QName Slot
  attributes : Table QName Slot
  /-- The members of the substitution group of each head. -/
  substitutions : Table QName (List Slot)

namespace Index

variable {α : Type}

/-- The named items of all documents with their positions. -/
def entriesOf (docs : List Document) (items : Document → List α) (name : α → Option QName) :
    List (QName × Slot) :=
  docs.zipIdx.flatMap fun (doc, d) =>
    (items doc).zipIdx.filterMap fun (x, i) => (name x).map fun q => (q, ⟨d, i⟩)

/-- The declaration at a position of the given lists. -/
def at? (docs : List Document) (items : Document → List α) (s : Slot) : Option (Global α) := do
  let document ← docs[s.document]?
  let definition ← (items document)[s.item]?
  return ⟨definition, document, s⟩

/-- Adds the element at each position to the substitution group that it names. -/
def substitutionsOf (docs : List Document) (elements : Table QName Slot) :
    Table QName (List Slot) :=
  elements.values.foldl (fun t s =>
    match (at? docs Document.elements s).bind (·.definition.substitutionGroup) with
    | some head => t.update head [] (· ++ [s])
    | none => t) {}

/-- The index of a schema. -/
def ofSet (set : SchemaSet) : Index :=
  let docs := set.documents
  let elements := Table.ofEntries (entriesOf docs Document.elements fun e => some e.name)
  { documents := docs
    locations := Table.ofEntries (docs.zipIdx.map fun (doc, d) => (doc.location, d))
    types := Table.ofEntries (entriesOf docs Document.types TypeDefinition.name)
    elements
    groups := Table.ofEntries (entriesOf docs Document.groups fun g => some g.name)
    attributeGroups :=
      Table.ofEntries (entriesOf docs Document.attributeGroups fun g => some g.name)
    attributes := Table.ofEntries (entriesOf docs Document.attributes fun a => some a.name)
    substitutions := substitutionsOf docs elements }

/-- The first document with the given location. -/
def document? (ix : Index) (location : String) : Option Document :=
  (ix.locations.get? location).bind fun d => ix.documents[d]?

/-- The global type of the given name. -/
def type? (ix : Index) (name : QName) : Option (Global TypeDefinition) :=
  (ix.types.get? name).bind (at? ix.documents Document.types)

/-- The global element of the given name. -/
def element? (ix : Index) (name : QName) : Option (Global ElementDecl) :=
  (ix.elements.get? name).bind (at? ix.documents Document.elements)

/-- The model group of the given name. -/
def group? (ix : Index) (name : QName) : Option (Global GroupDef) :=
  (ix.groups.get? name).bind (at? ix.documents Document.groups)

/-- The attribute group of the given name. -/
def attributeGroup? (ix : Index) (name : QName) : Option (Global AttributeGroupDef) :=
  (ix.attributeGroups.get? name).bind (at? ix.documents Document.attributeGroups)

/-- The global attribute of the given name. -/
def attribute? (ix : Index) (name : QName) : Option (Global AttributeDecl) :=
  (ix.attributes.get? name).bind (at? ix.documents Document.attributes)

/-- The elements that name `head` as the head of their substitution group. -/
def substitutionMembers (ix : Index) (head : QName) : List (Global ElementDecl) :=
  ((ix.substitutions.get? head).getD []).filterMap (at? ix.documents Document.elements)

end Index

end XmlTypes.Schema
