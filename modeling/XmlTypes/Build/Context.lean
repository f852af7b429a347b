import XmlTypes.Build.Substitutions
import XmlTypes.Schema.Index
/-!
# What a construction remembers

Every named construct is built once: its node is remembered before its parts are looked at, and a
reference back to it finds the node. A definition given in place has no name; it is remembered by
its place in the schema, so that two equal definitions stay apart. Groups that are being expanded
are remembered until they are done.
-/

namespace XmlTypes.Build

open Schema

/-! ## Places -/

/-- The lists of global declarations of a document. -/
inductive Section
  | types | elements | groups | attributeGroups | attributes
deriving DecidableEq, Repr, Inhabited

/-- A step from a declaration to a part of it. -/
inductive Step
  /-- The content of a complex type. -/
  | content
  /-- The value type of a complex type with simple content. -/
  | simpleContent
  /-- An entry of an attribute list. -/
  | attribute (i : Nat)
  /-- A particle of a model group. -/
  | particle (i : Nat)
  /-- The type given in place for an element or attribute. -/
  | type
deriving DecidableEq, Repr, Inhabited

/-- The place of a declaration or definition in the schema: a global declaration, and the steps
that lead from it to the place, last step first. -/
structure Place where
  list : Section
  slot : Slot
  steps : List Step := []
deriving DecidableEq, Repr, Inhabited

/-- A part of the thing at a place. -/
def Place.part (p : Place) (s : Step) : Place := { p with steps := s :: p.steps }

/-- A declaration or definition, the document that holds it, and its place. -/
structure Declared (α : Type) where
  definition : α
  document : Document
  place : Place

namespace Declared

variable {α β : Type}

/-- A global declaration. -/
def ofGlobal (list : Section) (g : Global α) : Declared α :=
  ⟨g.definition, g.document, ⟨list, g.slot, []⟩⟩

/-- A part of a declaration. -/
def part (d : Declared α) (s : Step) (b : β) : Declared β := ⟨b, d.document, d.place.part s⟩

/-- Something that stands at the same place. -/
def inPlace (d : Declared α) (b : β) : Declared β := ⟨b, d.document, d.place⟩

/-- The location of the document. -/
def location (d : Declared α) : String := d.document.location

end Declared

/-! ## Named constructs -/

/-- The kinds of constructs that are built once. -/
inductive ConstructKind
  | complexType | simpleType | group | attributeGroup
  /-- The type given in place for a global element. -/
  | elementType
  /-- The type given in place for a global attribute. -/
  | attributeType
  /-- A class made for a root element. -/
  | rootElement
deriving DecidableEq, Repr, Inhabited

namespace ConstructKind

/-- All kinds. -/
def all : List ConstructKind :=
  [complexType, simpleType, group, attributeGroup, elementType, attributeType, rootElement]

/-- The kind in a word. -/
def toText : ConstructKind → String
  | complexType => "complexType"
  | simpleType => "simpleType"
  | group => "group"
  | attributeGroup => "attributeGroup"
  | elementType => "elementType"
  | attributeType => "attributeType"
  | rootElement => "rootElement"

end ConstructKind

/-- A named construct of a document. -/
structure CacheKey where
  kind : ConstructKind
  location : String
  name : QName
deriving DecidableEq, Repr, Inhabited

/-- The key in words. -/
def CacheKey.toText (k : CacheKey) : String :=
  k.kind.toText ++ " " ++ k.name.toText ++ " (" ++ k.location ++ ")"

/-- The nodes of the named constructs built so far. -/
structure Cache where
  nodes : Table CacheKey NodeId := {}
deriving DecidableEq, Repr, Inhabited

namespace Cache

/-- The node of a construct. -/
def get? (c : Cache) (k : CacheKey) : Option NodeId := c.nodes.get? k

/-- Remembers the node of a construct; the first one stays, and a construct without a name is not
remembered. -/
def insert (c : Cache) (k : CacheKey) (id : NodeId) : Cache :=
  if k.name.isEmpty then c else ⟨c.nodes.insertNew k id⟩

/-- The number of constructs. -/
def size (c : Cache) : Nat := c.nodes.size

end Cache

/-! ## The context -/

/-- The element that was the first to have a type as its root. -/
structure RootClaim where
  element : QName
  location : String
deriving DecidableEq, Repr, Inhabited

/-- What a construction remembers. -/
structure Context where
  cache : Cache := {}
  /-- The first root element of each type. -/
  roots : Table NodeId RootClaim := {}
  substitutions : Substitutions := {}
  /-- The groups that are being expanded, innermost last. -/
  active : List QName := []
  /-- The nodes of definitions given in place. -/
  inlineTypes : Table Place NodeId := {}
deriving DecidableEq, Repr, Inhabited

namespace Context

/-- Whether a group is being expanded. -/
def isExpanding (c : Context) (group : QName) : Bool := c.active.contains group

/-- Begins to expand a group. -/
def enter (c : Context) (group : QName) : Context := { c with active := c.active ++ [group] }

/-- Ends the expansion of the innermost group. -/
def leave (c : Context) : Context := { c with active := c.active.dropLast }

/-- The node of the definition at a place. -/
def inlineType? (c : Context) (p : Place) : Option NodeId := c.inlineTypes.get? p

/-- Remembers the node of the definition at a place; the first one stays. -/
def recordInline (c : Context) (p : Place) (id : NodeId) : Context :=
  { c with inlineTypes := c.inlineTypes.insertNew p id }

/-- Remembers the node of a named construct. -/
def recordNamed (c : Context) (k : CacheKey) (id : NodeId) : Context :=
  { c with cache := c.cache.insert k id }

end Context

end XmlTypes.Build
