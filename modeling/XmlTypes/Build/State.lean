import XmlTypes.Build.Classification
import XmlTypes.Build.Reserved
import XmlTypes.Graph.Walk
import XmlTypes.Schema.Depth
/-!
# The state of a construction

What stays fixed, what changes, and the two ways in which the graph grows: a new node gets a free
name in its output namespace, and a property is added to a node unless its name is in use there or
in a base class.
-/

namespace XmlTypes

open Schema

namespace Graph

/-- Adds a property to its owner, unless the owner or a base class has one of that name. Tells
whether it was added. -/
def addProperty (g : Graph) (p : Property) : Graph × Bool :=
  if (g.flattenedProperties p.owner).any (·.name = p.name) then (g, false)
  else
    (g.modify p.owner (Node.mapProperties (· ++ [p])),
      (g.node? p.owner).any Node.hasMembers)

/-- A name that is free in an output namespace. For a node without a name in the schema, reserved
names of the XML namespace are not free either. -/
def uniqueTypeName (g : Graph) (reserved : Build.Reserved) (space candidate : String)
    (uri : Option String) (anonymous : Bool) : String :=
  let types := ((g.namespaces.get? space).map (·.types)).getD {}
  fresh (fun name => types.contains name || (anonymous && reserved.contains uri name))
    (types.size + reserved.names.length) candidate

end Graph

namespace Build

/-- What stays fixed during a construction. -/
structure Environment where
  index : Index
  options : Options
  naming : Naming
  reserved : Reserved
  /-- How many references and parts may be followed one after the other. -/
  limit : Nat

/-- How deep a construction can go. On the way down each declaration and each type given in place is
entered once, and a group once for its interface and once for what refers to it. A type or a group
whose name is empty is not remembered, so it may be entered again after every other. -/
def depthLimit (set : SchemaSet) : Nat :=
  let types := (set.documents.flatMap (·.types)).length + set.typesInside
  let groups := (set.documents.flatMap (·.groups)).length
    + (set.documents.flatMap (·.attributeGroups)).length
  let others := (set.documents.flatMap (·.elements)).length
    + (set.documents.flatMap (·.attributes)).length
  ((types + groups + 1) * (types + others + 2 * groups + 1) + 1) * (set.depth + 2)

/-- The environment for a schema. -/
def Environment.ofSet (set : SchemaSet) (options : Options) (naming : Naming) : Environment where
  index := .ofSet set
  options := options
  naming := naming
  reserved := .ofSet set naming options.generateInterfaces
  limit := depthLimit set

/-- The class or interface whose members are being collected. -/
structure Scope where
  owner : NodeId
  ownerName : String
  /-- The target namespace of the document that declares the owner. -/
  targetNamespace : Option String
  /-- The names of members that a restriction restates, and whether they are attributes. -/
  restated : List (QName × Bool) := []
  nextOrder : Nat := 0
  /-- An attribute group with a wildcard was expanded. -/
  anyAttribute : Bool := false
deriving DecidableEq, Repr, Inhabited

/-- The namespace of a name where it is not the target namespace. -/
def Scope.explicitNamespace (s : Scope) (name : QName) : Option String :=
  name.uri.filter fun uri => some uri ≠ s.targetNamespace

/-- A definition whose members become the properties of a class or an interface. -/
inductive Source
  | type (d : Declared ComplexType)
  | group (d : Declared GroupDef)
  | attributeGroup (d : Declared AttributeGroupDef)

/-- How things stand when the members of a class or an interface begin to be collected. -/
structure Opening where
  scope : Scope
  source : Source
  /-- The groups that are being expanded. -/
  active : List QName
  /-- What the base classes of the owner declare by then. -/
  inherited : List Property

/-- What changes during a construction. -/
structure State where
  graph : Graph := {}
  resolver : Resolver
  context : Context := {}
  /-- The classes and interfaces whose members were collected, latest first. -/
  journal : List Opening := []

end Build

/-- A step of a construction. -/
abbrev Build := StateT Build.State (Except Failure)

namespace Build

/-- The graph so far. -/
def getGraph : Build Graph := return (← get).graph

/-- The context so far. -/
def getContext : Build Context := return (← get).context

/-- Changes the graph. -/
def modifyGraph (f : Graph → Graph) : Build Unit := modify fun s => { s with graph := f s.graph }

/-- Changes the context. -/
def modifyContext (f : Context → Context) : Build Unit :=
  modify fun s => { s with context := f s.context }

/-- Fails because of a construct that is not handled. -/
def failUnsupported {α : Type} (construct : Unsupported) : Build α :=
  throw (.unsupported construct)

/-- Fails because of a reference to something that is not declared. -/
def failUnresolved {α : Type} (reference : Reference) (name : QName) (document : Document) :
    Build α :=
  failUnsupported (.unresolved reference name document.location)

/-- Fails because the construction goes deeper than the schema may lead. -/
def failBottomless {α : Type} (document : Document) : Build α :=
  throw (.build .bottomless none (some document.location))

/-- Finds the output namespace for an XML namespace in a document. -/
def resolveNamespace (location uri : String) : Build String := do
  let s ← get
  let (answer, resolver) := s.resolver.resolve (some location) uri
  set { s with resolver }
  answer

/-- Creates a node and places it in its output namespace. Its XML namespace is that of its name
in the schema, or the target namespace of the document for a node without one. -/
def newNode (env : Environment) (document : Document) (identity : QName) (candidate : String)
    (kind : NodeKind) (documentation : List String) : Build NodeId := do
  let uri := if identity.isEmpty then document.targetNamespace else identity.uri
  let space ← resolveNamespace document.location (uri.getD "")
  modifyGraph (·.ensureNamespace space ⟨some document.location, uri⟩)
  let g ← getGraph
  let name := g.uniqueTypeName env.reserved space candidate uri identity.isEmpty
  let id := g.size
  modifyGraph fun g =>
    (g.allocate { Node.make name space identity kind with documentation }).register id
  return id

/-- Adds a property to its owner. Tells whether it was added. -/
def addProperty (p : Property) : Build Bool := do
  let (graph, added) := (← getGraph).addProperty p
  modifyGraph fun _ => graph
  return added

/-- Writes down that the members of a definition begin to be collected. -/
def note (scope : Scope) (source : Source) : Build Unit :=
  modify fun s =>
    { s with journal :=
        ⟨scope, source, s.context.active, s.graph.inheritedProperties scope.owner⟩ :: s.journal }

/-- Sets the type of the text of a class. -/
def setText (id : NodeId) (type : ValueType) : Build Unit :=
  modifyGraph (·.modify id (Node.mapClass fun c => { c with text := some type }))

/-- What a type reference comes to: values of a type, or lists of them. -/
structure Resolved where
  type : ValueType
  /-- The restrictions of a simple type given in place. -/
  restrictions : List Restriction := []
  isList : Bool := false
deriving DecidableEq, Repr, Inhabited

namespace Resolved

/-- A node. -/
def node (id : NodeId) : Resolved := { type := .node id }

/-- A primitive. -/
def primitive (p : Primitive) : Resolved := { type := .primitive p }

end Resolved

end Build

end XmlTypes
