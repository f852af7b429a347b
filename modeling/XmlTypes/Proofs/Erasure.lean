import XmlTypes.Build.Classes
import XmlTypes.Proofs.Nodes
/-!
# Graphs of which something is left out

Restrictions, and the positions of elements in sequences, are carried along with properties and
simple nodes, and nothing that is done to a graph looks at them. An `Erasure` leaves some of them
out, of all properties and nodes alike. Every look-up in what is left, and every change of it, is
that of the whole.
-/

namespace XmlTypes

/-- Which restrictions are kept, and whether positions are. -/
structure Erasure where
  restrictions : List Restriction → List Restriction
  ordered : Bool

namespace Erasure

open Build

variable (ε : Erasure)

/-! ## What is left -/

/-- A property of which something is left out. -/
def property (p : Property) : Property :=
  { p with
    restrictions := ε.restrictions p.restrictions
    order := if ε.ordered then p.order else none }

def classShape (c : ClassShape) : ClassShape :=
  { c with properties := c.properties.map ε.property }

def interfaceShape (i : InterfaceShape) : InterfaceShape :=
  { i with properties := i.properties.map ε.property }

def simpleShape (s : SimpleShape) : SimpleShape :=
  { s with restrictions := ε.restrictions s.restrictions }

def kind : NodeKind → NodeKind
  | .classLike c => .classLike (ε.classShape c)
  | .interface i => .interface (ε.interfaceShape i)
  | .enumeration values => .enumeration values
  | .simple s => .simple (ε.simpleShape s)

def node (n : Node) : Node := { n with kind := ε.kind n.kind }

/-- A graph of which something is left out. -/
def graph (g : Graph) : Graph := { g with nodes := g.nodes.map ε.node }

/-- A scope of which something is left out: without positions nothing is counted. -/
def scope (s : Scope) : Scope := if ε.ordered then s else { s with nextOrder := 0 }

def opening (r : Opening) : Opening :=
  { r with scope := ε.scope r.scope, inherited := r.inherited.map ε.property }

/-- A state of which something is left out. -/
def state (s : State) : State :=
  { s with graph := ε.graph s.graph, journal := s.journal.map ε.opening }

def resolved (r : Resolved) : Resolved := { r with restrictions := ε.restrictions r.restrictions }

def classification : Classification → Classification
  | .enumeration facets => .enumeration facets
  | .value type restrictions isList => .value type (ε.restrictions restrictions) isList

/-! ## Scopes -/

section
variable (s : Scope)

@[simp] theorem scope_owner : (ε.scope s).owner = s.owner := by
  unfold scope; split <;> rfl

@[simp] theorem scope_ownerName : (ε.scope s).ownerName = s.ownerName := by
  unfold scope; split <;> rfl

@[simp] theorem scope_targetNamespace : (ε.scope s).targetNamespace = s.targetNamespace := by
  unfold scope; split <;> rfl

@[simp] theorem scope_restated : (ε.scope s).restated = s.restated := by
  unfold scope; split <;> rfl

@[simp] theorem scope_anyAttribute : (ε.scope s).anyAttribute = s.anyAttribute := by
  unfold scope; split <;> rfl

@[simp] theorem scope_explicitNamespace (name : QName) :
    (ε.scope s).explicitNamespace name = s.explicitNamespace name := by
  simp [Scope.explicitNamespace]

/-- Nothing is left out of a scope in which nothing is counted yet. -/
theorem scope_of_nextOrder {s : Scope} (h : s.nextOrder = 0) : ε.scope s = s := by
  unfold scope
  split
  · rfl
  · rw [← h]

end

/-! ## Nodes -/

section
variable (n : Node)

@[simp] theorem node_name : (ε.node n).name = n.name := rfl

@[simp] theorem node_space : (ε.node n).space = n.space := rfl

@[simp] theorem node_identity : (ε.node n).identity = n.identity := rfl

@[simp] theorem properties_node : (ε.node n).properties = n.properties.map ε.property := by
  rcases n with ⟨_, _, _, _, _, _, _, k⟩
  cases k <;> rfl

@[simp] theorem class?_node : (ε.node n).class? = n.class?.map ε.classShape := by
  rcases n with ⟨_, _, _, _, _, _, _, k⟩
  cases k <;> rfl

@[simp] theorem interface?_node : (ε.node n).interface? = n.interface?.map ε.interfaceShape := by
  rcases n with ⟨_, _, _, _, _, _, _, k⟩
  cases k <;> rfl

@[simp] theorem isInterface_node : (ε.node n).isInterface = n.isInterface := by
  simp [Node.isInterface]

@[simp] theorem interfaces_node : (ε.node n).interfaces = n.interfaces := by
  rcases n with ⟨_, _, _, _, _, _, _, k⟩
  cases k <;> rfl

@[simp] theorem hasMembers_node : (ε.node n).hasMembers = n.hasMembers := by
  rcases n with ⟨_, _, _, _, _, _, _, k⟩
  cases k <;> rfl

@[simp] theorem fullName_node : (ε.node n).fullName = n.fullName := rfl

theorem node_mapProperties {f f' : List Property → List Property}
    (h : ∀ ps : List Property, (f ps).map ε.property = f' (ps.map ε.property)) :
    ε.node (n.mapProperties f) = (ε.node n).mapProperties f' := by
  rcases n with ⟨_, _, _, _, _, _, _, k⟩
  cases k <;> simp [Node.mapProperties, node, kind, classShape, interfaceShape, h]

theorem node_mapClass {f : ClassShape → ClassShape}
    (h : ∀ c, ε.classShape (f c) = f (ε.classShape c)) :
    ε.node (n.mapClass f) = (ε.node n).mapClass f := by
  rcases n with ⟨_, _, _, _, _, _, _, k⟩
  cases k <;> simp [Node.mapClass, node, kind, h]

theorem node_mapInterface {f : InterfaceShape → InterfaceShape}
    (h : ∀ i, ε.interfaceShape (f i) = f (ε.interfaceShape i)) :
    ε.node (n.mapInterface f) = (ε.node n).mapInterface f := by
  rcases n with ⟨_, _, _, _, _, _, _, k⟩
  cases k <;> simp [Node.mapInterface, node, kind, h]

end

/-! ## Looking up -/

section
variable (g : Graph) (id : NodeId)

@[simp] theorem namespaces_graph : (ε.graph g).namespaces = g.namespaces := rfl

@[simp] theorem size_graph : (ε.graph g).size = g.size := by
  simp [graph, Graph.size]

@[simp] theorem ids_graph : (ε.graph g).ids = g.ids := by
  simp [graph, Graph.ids]

@[simp] theorem node?_graph : (ε.graph g).node? id = (g.node? id).map ε.node := by
  simp [graph, Graph.node?]

@[simp] theorem class?_graph : (ε.graph g).class? id = (g.class? id).map ε.classShape := by
  cases h : g.node? id <;> simp [Graph.class?, h]

@[simp] theorem interface?_graph :
    (ε.graph g).interface? id = (g.interface? id).map ε.interfaceShape := by
  cases h : g.node? id <;> simp [Graph.interface?, h]

@[simp] theorem properties_graph :
    (ε.graph g).properties id = (g.properties id).map ε.property := by
  cases h : g.node? id <;> simp [Graph.properties, h]

@[simp] theorem nameOf_graph : (ε.graph g).nameOf id = g.nameOf id := by
  cases h : g.node? id <;> simp [Graph.nameOf, h]

@[simp] theorem base?_graph : (ε.graph g).base? id = g.base? id := by
  cases h : g.class? id <;> simp [Graph.base?, h, classShape]

@[simp] theorem derivedClasses_graph : (ε.graph g).derivedClasses id = g.derivedClasses id := by
  cases h : g.class? id <;> simp [Graph.derivedClasses, h, classShape]

@[simp] theorem interfaces_graph : (ε.graph g).interfaces id = g.interfaces id := by
  cases h : g.node? id <;> simp [Graph.interfaces, h]

@[simp] theorem ancestors_graph : (ε.graph g).ancestors id = g.ancestors id := by
  simp only [Graph.ancestors, base?_graph, size_graph, funext (ε.base?_graph g)]

@[simp] theorem descendants_graph : (ε.graph g).descendants id = g.descendants id := by
  simp only [Graph.descendants, Graph.reached, ids_graph, funext (ε.derivedClasses_graph g)]

@[simp] theorem reachableInterfaces_graph :
    (ε.graph g).reachableInterfaces id = g.reachableInterfaces id := by
  simp only [Graph.reachableInterfaces, Graph.reached, ids_graph, funext (ε.interfaces_graph g)]

@[simp] theorem inheritedProperties_graph :
    (ε.graph g).inheritedProperties id = (g.inheritedProperties id).map ε.property := by
  simp only [Graph.inheritedProperties, ancestors_graph, List.map_flatMap,
    funext (ε.properties_graph g)]

@[simp] theorem flattenedProperties_graph :
    (ε.graph g).flattenedProperties id = (g.flattenedProperties id).map ε.property := by
  simp only [Graph.flattenedProperties, ancestors_graph, List.map_flatMap,
    funext (ε.properties_graph g)]

/-- What a restriction restates does not depend on what is left out. -/
@[simp] theorem restatable_graph : restatable (ε.graph g) id = restatable g id := by
  simp only [restatable, inheritedProperties_graph, List.filter_map, List.map_map]
  rfl

@[simp] theorem uniqueTypeName_graph (reserved : Reserved) (space candidate : String)
    (uri : Option String) (anonymous : Bool) :
    (ε.graph g).uniqueTypeName reserved space candidate uri anonymous =
      g.uniqueTypeName reserved space candidate uri anonymous := rfl

end

/-! ## Changing -/

section
variable (g : Graph) (id : NodeId)

theorem graph_modify {f f' : Node → Node} (h : ∀ n, ε.node (f n) = f' (ε.node n)) :
    ε.graph (g.modify id f) = (ε.graph g).modify id f' := by
  simp only [graph, Graph.modify, Graph.mk.injEq, and_true]
  apply Array.ext_getElem?
  intro i
  simp only [Array.getElem?_map, Array.getElem?_modify]
  split
  · cases g.nodes[i]? <;> simp [h]
  · rfl

theorem graph_modify_mapProperties {f f' : List Property → List Property}
    (h : ∀ ps : List Property, (f ps).map ε.property = f' (ps.map ε.property)) :
    ε.graph (g.modify id (Node.mapProperties f)) =
      (ε.graph g).modify id (Node.mapProperties f') :=
  ε.graph_modify g id fun n => ε.node_mapProperties n h

theorem graph_modify_mapClass {f : ClassShape → ClassShape}
    (h : ∀ c, ε.classShape (f c) = f (ε.classShape c)) :
    ε.graph (g.modify id (Node.mapClass f)) = (ε.graph g).modify id (Node.mapClass f) :=
  ε.graph_modify g id fun n => ε.node_mapClass n h

@[simp] theorem graph_allocate (n : Node) :
    ε.graph (g.allocate n) = (ε.graph g).allocate (ε.node n) := by
  simp [graph, Graph.allocate]

@[simp] theorem graph_ensureNamespace (name : String) (key : NamespaceKey) :
    ε.graph (g.ensureNamespace name key) = (ε.graph g).ensureNamespace name key := rfl

theorem graph_modifyTypes (space : String) (f : Table String NodeId → Table String NodeId) :
    ε.graph (g.modifyTypes space f) = (ε.graph g).modifyTypes space f := rfl

@[simp] theorem graph_register : ε.graph (g.register id) = (ε.graph g).register id := by
  simp only [Graph.register, node?_graph]
  cases g.node? id <;> rfl

theorem graph_setBase (derived base : NodeId) :
    ε.graph (g.setBase derived base) = (ε.graph g).setBase derived base := by
  unfold Graph.setBase
  refine (ε.graph_modify_mapClass _ base ?_).trans
    (congrArg (Graph.modify · _ _) (ε.graph_modify_mapClass g derived ?_))
  · exact fun _ => rfl
  · exact fun _ => rfl

theorem graph_addImplementer (interface implementer : NodeId) :
    ε.graph (g.addImplementer interface implementer) =
      (ε.graph g).addImplementer interface implementer := by
  unfold Graph.addImplementer
  split
  · rfl
  · refine (ε.graph_modify _ _ fun n => ?_).trans
      (congrArg (Graph.modify · _ _) (ε.graph_modify g _ fun n => ?_))
    · exact ε.node_mapInterface n fun _ => rfl
    · refine (ε.node_mapInterface _ ?_).trans (congrArg (Node.mapInterface _) ?_)
      · exact fun _ => rfl
      · exact ε.node_mapClass n fun _ => rfl

/-- A property is added to what is left exactly if it is added to the whole. -/
theorem addProperty_graph (p : Property) :
    (ε.graph g).addProperty (ε.property p) =
      (ε.graph (g.addProperty p).1, (g.addProperty p).2) := by
  have htaken : ((ε.graph g).flattenedProperties (ε.property p).owner).any
      (·.name = (ε.property p).name) = (g.flattenedProperties p.owner).any (·.name = p.name) := by
    refine (congrArg (List.any · _) (ε.flattenedProperties_graph g p.owner)).trans ?_
    rw [List.any_map]
    rfl
  have hmembers : ((ε.graph g).node? (ε.property p).owner).any Node.hasMembers =
      (g.node? p.owner).any Node.hasMembers := by
    cases h : g.node? p.owner <;> simp [property, h]
  unfold Graph.addProperty
  rw [htaken, hmembers]
  split
  · rfl
  · rw [graph_modify_mapProperties ε g p.owner]
    · rfl
    · intro ps
      rw [List.map_append]
      rfl

end

/-! ## Nothing left out -/

/-- Everything is kept. -/
def none : Erasure := ⟨id, true⟩

theorem restrictions_none : none.restrictions [] = [] := rfl

@[simp] theorem property_none (p : Property) : none.property p = p := rfl

@[simp] theorem node_none (n : Node) : none.node n = n := by
  have h : none.property = id := funext property_none
  rcases n with ⟨_, _, _, _, _, _, _, k⟩
  cases k <;> simp only [node, kind, classShape, interfaceShape, simpleShape, h, List.map_id]
  all_goals rfl

@[simp] theorem graph_none (g : Graph) : none.graph g = g := by
  have h : none.node = id := funext node_none
  simp [graph, h]

@[simp] theorem scope_none (s : Scope) : none.scope s = s := rfl

@[simp] theorem state_none (s : State) : none.state s = s := by
  have h : none.opening = id := by
    funext r
    have h : none.property = id := funext property_none
    simp [opening, h]
  simp [state, h]

@[simp] theorem resolved_none (r : Resolved) : none.resolved r = r := rfl

@[simp] theorem classification_none (c : Classification) : none.classification c = c := by
  cases c <;> rfl

end Erasure

end XmlTypes
