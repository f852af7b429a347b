import XmlTypes.Configuration
import XmlTypes.Graph.Walk
import XmlTypes.Naming
/-!
# Finishing a graph

Four passes over a graph whose nodes are all there:

* `propagateRenames`: an interface takes over the name that a class gave one of its properties;
* `pruneDuplicates`: an interface drops what an interface that it extends declares already;
* `disambiguateRoots`: types whose name occurs in several namespaces get their schema name as root
  element;
* `enforceUniqueNames`: no name occurs in two namespaces.
-/

namespace XmlTypes.Graph

/-- The interfaces of the graph, in order of creation. -/
def interfaceIds (g : Graph) : List NodeId := g.ids.filter fun id => (g.interface? id).isSome

/-! ## Renames -/

/-- Whether a property of `owner`, other than the one at `position`, or of one of its base or
derived classes has the given name. -/
def isNameTaken (g : Graph) (owner : NodeId) (position : Nat) (name : String) : Bool :=
  ((g.properties owner).eraseIdx position).any (·.name = name)
    || (g.ancestors owner ++ g.descendants owner).any fun id =>
      (g.properties id).any (·.name = name)

/-- The first other name that a class among `implementers` gives the property. -/
def newName? (g : Graph) (implementers : List NodeId) (p : Property) : Option String :=
  (implementers.filter fun id => (g.class? id).isSome).findSome? fun id =>
    ((g.properties id).find? fun q => q.sameMember p && q.name ≠ p.name).map (·.name)

/-- Where the property of the interface is declared: by itself, and by its implementers. -/
def declarations (g : Graph) (interface : NodeId) (index : Nat) (implementers : List NodeId)
    (p : Property) : List (NodeId × Nat) :=
  (interface, index) :: implementers.filterMap fun id =>
    ((g.properties id).findIdx? fun q => q.sameMember p).map fun position => (id, position)

/-- Gives the property at a position of a node another name. -/
def renameProperty (g : Graph) (owner : NodeId) (position : Nat) (name : String) : Graph :=
  g.modify owner (Node.mapProperties fun ps => ps.modify position fun p => { p with name })

/-- Renames one property of an interface and of all its implementers, if a class has another name
for it and that name is free for all of them. -/
def propagateRename (interface : NodeId) (implementers : List NodeId) (g : Graph) (index : Nat) :
    Graph :=
  match (g.properties interface)[index]? with
  | none => g
  | some p =>
    match g.newName? implementers p with
    | none => g
    | some name =>
      let targets := g.declarations interface index implementers p
      if targets.any fun (owner, position) => g.isNameTaken owner position name then g
      else targets.foldl (fun g (owner, position) => g.renameProperty owner position name) g

/-- Renames the properties of one interface. -/
def propagateInterface (g : Graph) (interface : NodeId) : Graph :=
  let implementers := ((g.interface? interface).map (·.derived)).getD []
  (List.range (g.properties interface).length).foldl (propagateRename interface implementers) g

/-- Lets every interface take over the names that classes gave its properties. -/
def propagateRenames (g : Graph) : Graph := g.interfaceIds.foldl propagateInterface g

/-! ## Duplicates -/

/-- Drops what an interface declares with the name and type of a property of an interface that it
reaches. -/
def pruneInterface (g : Graph) (interface : NodeId) : Graph :=
  let inherited := ((g.reachableInterfaces interface).flatMap g.properties).map fun p =>
    (p.name, p.type)
  g.modify interface (Node.mapProperties fun ps =>
    ps.filter fun p => !inherited.contains (p.name, p.type))

/-- Drops from every interface what it inherits. -/
def pruneDuplicates (g : Graph) : Graph := g.interfaceIds.foldl pruneInterface g

/-! ## Root elements -/

/-- Whether a name occurs in several namespaces. -/
def isSharedName (g : Graph) (n : Node) : Bool :=
  g.nodes.any fun m => m.name = n.name && m.space ≠ n.space

/-- Whether a node may get its schema name as root element. -/
def mayBeRoot (n : Node) : Bool :=
  !n.isAnonymous && !n.identity.isEmpty && !n.isAbstractRoot && n.root.isNone && !n.isInterface

/-- Gives types with a shared name their schema name as root element. -/
def disambiguateRoots (g : Graph) : Graph :=
  { g with nodes := g.nodes.map fun n =>
      if mayBeRoot n && g.isSharedName n then { n with root := some n.identity } else n }

/-! ## Unique names -/

/-- The state of making names unique: names that are in use or were, and names that are kept. -/
structure NameUse where
  graph : Graph
  taken : List String
  kept : List String := []

/-- Keeps the name of a node if it is the first with it, and otherwise gives it a free one. -/
def NameUse.settle (u : NameUse) (id : NodeId) : NameUse :=
  let name := u.graph.nameOf id
  if !u.kept.contains name then { u with kept := name :: u.kept }
  else
    let unique := firstFree u.taken.contains name u.taken.length 1
    { graph := u.graph.rename id unique, taken := unique :: u.taken, kept := unique :: u.kept }

/-- Makes names unique across namespaces; the first holder of a name keeps it. -/
def enforceUniqueNames (g : Graph) : Graph :=
  let order := g.namespaces.values.flatMap fun ns => ns.types.values
  (order.foldl NameUse.settle { graph := g, taken := (g.nodes.map (·.name)).toList }).graph

/-! ## All passes -/

/-- All passes, in order. -/
def finish (options : Options) (g : Graph) : Graph :=
  let g := g.propagateRenames.pruneDuplicates.disambiguateRoots
  if options.uniqueNames then g.enforceUniqueNames else g

end XmlTypes.Graph
