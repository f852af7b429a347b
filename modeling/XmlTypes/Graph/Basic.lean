import XmlTypes.Graph.Node
import XmlTypes.Namespace.Ambiguity
import XmlTypes.Namespace.Key
import XmlTypes.Table
import XmlTypes.Text.Case
/-!
# Type graphs

A graph holds its nodes in order of creation, and its output namespaces, each with a table of the
nodes placed in it. A base class and the classes derived from it, and an interface and what
implements it, refer to one another; `setBase` and `addImplementer` write both directions.
-/

namespace XmlTypes

/-- An output namespace. -/
structure Namespace where
  /-- Where the first construct in the namespace came from. -/
  key : NamespaceKey
  /-- The nodes by name. -/
  types : Table String NodeId := {}
  /-- References into the namespace must be fully qualified. -/
  isAmbiguous : Bool := false
deriving DecidableEq, Repr, Inhabited

/-- Whether a type of this name, up to the case of ASCII letters, is in the namespace. -/
def Namespace.containsIgnoringCase (ns : Namespace) (name : String) : Bool :=
  ns.types.keys.any fun k => Text.eqIgnoringAsciiCase k name

/-- Nodes and output namespaces. -/
structure Graph where
  nodes : Array Node := #[]
  namespaces : Table String Namespace := {}
deriving DecidableEq, Repr, Inhabited

namespace Graph

/-- The number of nodes. -/
def size (g : Graph) : Nat := g.nodes.size

/-- The numbers of all nodes. -/
def ids (g : Graph) : List NodeId := List.range g.nodes.size

/-- The node of the given number. -/
def node? (g : Graph) (id : NodeId) : Option Node := g.nodes[id]?

/-- The class of the given number, if it is one. -/
def class? (g : Graph) (id : NodeId) : Option ClassShape := (g.node? id).bind Node.class?

/-- The interface of the given number, if it is one. -/
def interface? (g : Graph) (id : NodeId) : Option InterfaceShape :=
  (g.node? id).bind Node.interface?

/-- The properties that a node declares. -/
def properties (g : Graph) (id : NodeId) : List Property :=
  ((g.node? id).map Node.properties).getD []

/-- The name of a node. -/
def nameOf (g : Graph) (id : NodeId) : String := ((g.node? id).map Node.name).getD ""

/-- The full name of a node. -/
def fullName (g : Graph) (id : NodeId) : String := ((g.node? id).map Node.fullName).getD ""

/-- Changes a node. -/
def modify (g : Graph) (id : NodeId) (f : Node → Node) : Graph :=
  { g with nodes := g.nodes.modify id f }

/-- Adds a node, whose number is the size of the graph so far. -/
def allocate (g : Graph) (n : Node) : Graph := { g with nodes := g.nodes.push n }

/-- Creates the output namespace of the given name unless it exists. -/
def ensureNamespace (g : Graph) (name : String) (key : NamespaceKey) : Graph :=
  { g with namespaces := g.namespaces.insertNew name { key } }

/-- Changes the table of an output namespace. -/
def modifyTypes (g : Graph) (space : String) (f : Table String NodeId → Table String NodeId) :
    Graph :=
  { g with namespaces := g.namespaces.modify space fun ns => { ns with types := f ns.types } }

/-- Places a node in its namespace under its name. -/
def register (g : Graph) (id : NodeId) : Graph :=
  match g.node? id with
  | none => g
  | some n => g.modifyTypes n.space fun t => t.insert n.name id

/-- Gives a node another name, in its namespace too. -/
def rename (g : Graph) (id : NodeId) (name : String) : Graph :=
  match g.node? id with
  | none => g
  | some n =>
    (g.modify id fun n => { n with name }).modifyTypes n.space fun t => t.rename n.name name id

/-- The number of the node of the given name in a namespace. -/
def find? (g : Graph) (space name : String) : Option NodeId :=
  (g.namespaces.get? space).bind fun ns => ns.types.get? name

/-- The first node, none given in place, that was made for a construct of the given name. -/
def findByIdentity? (g : Graph) (identity : QName) : Option NodeId :=
  g.nodes.toList.findIdx? fun n => !n.isAnonymous && n.identity = identity

/-- Appends `id` unless it is there already. -/
def addOnce (ids : List NodeId) (id : NodeId) : List NodeId :=
  if ids.contains id then ids else ids ++ [id]

/-- Makes `base` the base class of `derived`. -/
def setBase (g : Graph) (derived base : NodeId) : Graph :=
  (g.modify derived (Node.mapClass fun c => { c with base := some base })).modify base
    (Node.mapClass fun c => { c with derived := addOnce c.derived derived })

/-- Lets `implementer` implement or extend `interface`. No interface extends itself. -/
def addImplementer (g : Graph) (interface implementer : NodeId) : Graph :=
  if interface = implementer then g
  else
    let extended := fun n => (Node.mapClass (fun c =>
      { c with interfaces := addOnce c.interfaces interface }) n).mapInterface fun i =>
      { i with interfaces := addOnce i.interfaces interface }
    (g.modify implementer extended).modify interface
      (Node.mapInterface fun i => { i with derived := addOnce i.derived implementer })

/-- Sets the flag of every ambiguous namespace. -/
def markAmbiguous (g : Graph) : Graph :=
  let names := g.namespaces.keys
  { g with namespaces := ⟨g.namespaces.entries.map fun (name, ns) =>
      (name, { ns with isAmbiguous := ns.isAmbiguous || isShadowed names name })⟩ }

end Graph

end XmlTypes
