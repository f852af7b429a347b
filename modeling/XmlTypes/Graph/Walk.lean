import XmlTypes.Graph.Basic
/-!
# Walks through a graph

What is reached from a node along base classes, derived classes or interfaces. Every walk ends on
cyclic graphs too: a node is listed once, and the node where the walk begins never.
-/

namespace XmlTypes.Graph

/-- Follows `next?` from `current`, after `chain`, until it ends, comes back to `start`, or meets a
node again; at most `fuel` steps. -/
def chainFrom (next? : NodeId → Option NodeId) (start : NodeId) :
    (fuel : Nat) → (chain : List NodeId) → (current : Option NodeId) → List NodeId
  | 0, chain, _ => chain
  | _ + 1, chain, none => chain
  | fuel + 1, chain, some id =>
    if id = start || chain.contains id then chain
    else chainFrom next? start fuel (chain ++ [id]) (next? id)

/-- The base class of a class. -/
def base? (g : Graph) (id : NodeId) : Option NodeId := (g.class? id).bind (·.base)

/-- The base classes of a node, nearest first. -/
def ancestors (g : Graph) (id : NodeId) : List NodeId :=
  chainFrom g.base? id (g.size + 1) [] (g.base? id)

/-- Takes nodes from a stack, whose top comes first, and puts what `next` gives for each new one
onto it, the last on top; at most `fuel` steps. The nodes are listed as they are taken. -/
def reachFrom (next : NodeId → List NodeId) (start : NodeId) :
    (fuel : Nat) → (stack seen : List NodeId) → List NodeId
  | 0, _, seen => seen
  | _ + 1, [], seen => seen
  | fuel + 1, id :: stack, seen =>
    if id = start || seen.contains id then reachFrom next start fuel stack seen
    else reachFrom next start fuel ((next id).reverse ++ stack) (seen ++ [id])

/-- Everything reached from `id` by one or more steps of `next`. As each node's steps are put on
the stack at most once, the number of all steps bounds the walk. -/
def reached (g : Graph) (next : NodeId → List NodeId) (id : NodeId) : List NodeId :=
  let steps := (g.ids.flatMap next).length
  reachFrom next id (steps + 1) (next id).reverse []

/-- The classes derived from a class. -/
def derivedClasses (g : Graph) (id : NodeId) : List NodeId :=
  ((g.class? id).map (·.derived)).getD []

/-- The interfaces of a node. -/
def interfaces (g : Graph) (id : NodeId) : List NodeId :=
  ((g.node? id).map Node.interfaces).getD []

/-- The classes that derive from a class, directly or through others. -/
def descendants (g : Graph) (id : NodeId) : List NodeId := g.reached g.derivedClasses id

/-- The interfaces reached from a node. -/
def reachableInterfaces (g : Graph) (id : NodeId) : List NodeId := g.reached g.interfaces id

/-- The properties that the base classes of a node declare, nearest first. -/
def inheritedProperties (g : Graph) (id : NodeId) : List Property :=
  (g.ancestors id).flatMap g.properties

/-- The properties of a node and its base classes, its own first. -/
def flattenedProperties (g : Graph) (id : NodeId) : List Property :=
  (id :: g.ancestors id).flatMap g.properties

end XmlTypes.Graph
