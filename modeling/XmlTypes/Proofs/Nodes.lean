import XmlTypes.Build.State
/-!
# What is read off the nodes of a graph

A change of a graph either adds a node or changes one in place. What a change leaves alone is said
once for each kind of change: `Node.Keeps` for changes that matter to no other part, `Node.Grows`
for all that happens while a graph is built.
-/

namespace XmlTypes

namespace Node

/-- The base class. -/
def base? (n : Node) : Option NodeId := n.class?.bind (·.base)

/-- The type of the text. -/
def text? (n : Node) : Option ValueType := n.class?.bind (·.text)

/-- The classes that derive from this one. -/
def derived (n : Node) : List NodeId := (n.class?.map (·.derived)).getD []

/-- The values of a simple type. -/
def simple? (n : Node) : Option SimpleShape :=
  match n.kind with
  | .simple shape => some shape
  | _ => none

/-- What refers to the interface. -/
def implementers (n : Node) : List NodeId := (n.interface?.map (·.derived)).getD []

/-- `n` differs from `m` in documentation, roots, flags, text or the values of an enumeration
only. -/
structure Keeps (m n : Node) : Prop where
  name : n.name = m.name
  space : n.space = m.space
  identity : n.identity = m.identity
  isAnonymous : n.isAnonymous = m.isAnonymous
  label : n.kind.label = m.kind.label
  simple : n.simple? = m.simple?
  properties : n.properties = m.properties
  base : n.base? = m.base?
  derived : n.derived = m.derived
  interfaces : n.interfaces = m.interfaces
  implementers : n.implementers = m.implementers

/-- `n` may come from `m` while a graph is built: properties are added at the end, and a base class
that is set stays. -/
structure Grows (m n : Node) : Prop where
  name : n.name = m.name
  space : n.space = m.space
  identity : n.identity = m.identity
  isAnonymous : n.isAnonymous = m.isAnonymous
  label : n.kind.label = m.kind.label
  simple : n.simple? = m.simple?
  properties : m.properties <+: n.properties
  base : ∀ b, m.base? = some b → n.base? = some b

theorem Keeps.rfl {n : Node} : n.Keeps n := by
  constructor <;> rfl

theorem Keeps.trans {l m n : Node} (h : l.Keeps m) (h' : m.Keeps n) : l.Keeps n where
  name := h'.name.trans h.name
  space := h'.space.trans h.space
  identity := h'.identity.trans h.identity
  isAnonymous := h'.isAnonymous.trans h.isAnonymous
  label := h'.label.trans h.label
  simple := h'.simple.trans h.simple
  properties := h'.properties.trans h.properties
  base := h'.base.trans h.base
  derived := h'.derived.trans h.derived
  interfaces := h'.interfaces.trans h.interfaces
  implementers := h'.implementers.trans h.implementers

theorem Keeps.grows {m n : Node} (h : m.Keeps n) : m.Grows n :=
  ⟨h.name, h.space, h.identity, h.isAnonymous, h.label, h.simple, h.properties ▸ List.prefix_rfl,
    fun _ hb => h.base ▸ hb⟩

theorem Grows.rfl {n : Node} : n.Grows n := Keeps.rfl.grows

theorem Grows.trans {l m n : Node} (h : l.Grows m) (h' : m.Grows n) : l.Grows n :=
  ⟨h'.name.trans h.name, h'.space.trans h.space, h'.identity.trans h.identity,
    h'.isAnonymous.trans h.isAnonymous, h'.label.trans h.label, h'.simple.trans h.simple,
    h.properties.trans h'.properties, fun _ hb => h'.base _ (h.base _ hb)⟩

/-! ## Kinds -/

section
variable {m n : Node}

theorem isClass_iff : n.isClass = true ↔ n.kind.label = "class" := by
  rcases n with ⟨_, _, _, _, _, _, _, k⟩
  cases k <;> simp [isClass, class?, NodeKind.label]

theorem isInterface_iff : n.isInterface = true ↔ n.kind.label = "interface" := by
  rcases n with ⟨_, _, _, _, _, _, _, k⟩
  cases k <;> simp [isInterface, interface?, NodeKind.label]

theorem hasMembers_eq : n.hasMembers = (n.isClass || n.isInterface) := by
  rcases n with ⟨_, _, _, _, _, _, _, k⟩
  cases k <;> rfl

theorem isClass_congr (h : n.kind.label = m.kind.label) : n.isClass = m.isClass := by
  rw [Bool.eq_iff_iff, isClass_iff, isClass_iff, h]

theorem isInterface_congr (h : n.kind.label = m.kind.label) : n.isInterface = m.isInterface := by
  rw [Bool.eq_iff_iff, isInterface_iff, isInterface_iff, h]

theorem hasMembers_congr (h : n.kind.label = m.kind.label) : n.hasMembers = m.hasMembers := by
  rw [hasMembers_eq, hasMembers_eq, isClass_congr h, isInterface_congr h]

theorem isInterface_false_of_isClass (h : n.isClass = true) : n.isInterface = false := by
  rw [isClass_iff] at h
  rw [Bool.eq_false_iff, ne_eq, isInterface_iff, h]
  decide

theorem simple?_eq_none (h : n.kind.label ≠ "simple") : n.simple? = none := by
  rcases n with ⟨_, _, _, _, _, _, _, k⟩
  cases k with
  | simple shape => exact absurd rfl h
  | _ => rfl

theorem simple?_of_isClass (h : n.isClass = true) : n.simple? = none := by
  refine simple?_eq_none ?_
  rw [isClass_iff.1 h]
  decide

theorem isClass_false_of_isInterface (h : n.isInterface = true) : n.isClass = false := by
  rw [isInterface_iff] at h
  rw [Bool.eq_false_iff, ne_eq, isClass_iff, h]
  decide

end

/-- The name that a naming has for the node of a type with a name in the schema. -/
def candidate? (naming : Naming) (n : Node) : Option String :=
  match n.kind with
  | .classLike _ => some (naming.complexType n.identity "")
  | .enumeration _ => some (naming.enumeration n.identity "")
  | .simple _ => some (naming.simpleType n.identity "")
  | .interface _ => none

theorem candidate?_congr {m n : Node} (naming : Naming) (hi : n.identity = m.identity)
    (hl : n.kind.label = m.kind.label) : n.candidate? naming = m.candidate? naming := by
  rcases m with ⟨_, _, _, _, _, _, _, k⟩
  rcases n with ⟨_, _, _, _, _, _, _, k'⟩
  cases k <;> cases k' <;> simp_all [candidate?, NodeKind.label]

/-! ## Changes of the kind -/

section
variable (n : Node) (f : ClassShape → ClassShape) (g : InterfaceShape → InterfaceShape)
  (ps : List Property → List Property)

theorem mapClass_keeps (hp : ∀ c, (f c).properties = c.properties) (hb : ∀ c, (f c).base = c.base)
    (hd : ∀ c, (f c).derived = c.derived) (hi : ∀ c, (f c).interfaces = c.interfaces) :
    n.Keeps (n.mapClass f) := by
  rcases n with ⟨_, _, _, _, _, _, _, k⟩
  cases k <;> constructor <;>
    simp [mapClass, properties, base?, Node.derived, Node.interfaces, Node.implementers, class?,
      interface?, simple?, NodeKind.label, hp, hb, hd, hi]

theorem setText_keeps (v : ValueType) : n.Keeps (n.mapClass fun c => { c with text := some v }) :=
  mapClass_keeps n _ (fun _ => rfl) (fun _ => rfl) (fun _ => rfl) fun _ => rfl

theorem mapClass_grows (hp : ∀ c, (f c).properties = c.properties)
    (hb : ∀ c, n.class? = some c → ∀ b, c.base = some b → (f c).base = some b) :
    n.Grows (n.mapClass f) := by
  rcases n with ⟨_, _, _, _, _, _, _, k⟩
  cases k <;> constructor <;>
    simp_all [mapClass, properties, base?, class?, simple?, NodeKind.label]

theorem mapInterface_grows (hp : ∀ i, (g i).properties = i.properties) :
    n.Grows (n.mapInterface g) := by
  rcases n with ⟨_, _, _, _, _, _, _, k⟩
  cases k <;> constructor <;>
    simp_all [mapInterface, properties, base?, class?, simple?, NodeKind.label]

@[simp] theorem class?_mapClass : (n.mapClass f).class? = n.class?.map f := by
  rcases n with ⟨_, _, _, _, _, _, _, k⟩
  cases k <;> rfl

theorem properties_mapClass (h : ∀ c, (f c).properties = c.properties) :
    (n.mapClass f).properties = n.properties := by
  rcases n with ⟨_, _, _, _, _, _, _, k⟩
  cases k <;> simp [mapClass, properties, h]

theorem interfaces_mapClass (h : ∀ c, (f c).interfaces = c.interfaces) :
    (n.mapClass f).interfaces = n.interfaces := by
  rcases n with ⟨_, _, _, _, _, _, _, k⟩
  cases k <;> simp [mapClass, Node.interfaces, h]

theorem interfaces_mapInterface (h : ∀ i, (g i).interfaces = i.interfaces) :
    (n.mapInterface g).interfaces = n.interfaces := by
  rcases n with ⟨_, _, _, _, _, _, _, k⟩
  cases k <;> simp [mapInterface, Node.interfaces, h]

theorem implementers_mapClass : (n.mapClass f).implementers = n.implementers := by
  rcases n with ⟨_, _, _, _, _, _, _, k⟩
  cases k <;> rfl

@[simp] theorem mapProperties_name : (n.mapProperties ps).name = n.name := by
  unfold mapProperties; split <;> rfl

@[simp] theorem mapProperties_space : (n.mapProperties ps).space = n.space := by
  unfold mapProperties; split <;> rfl

@[simp] theorem mapProperties_identity : (n.mapProperties ps).identity = n.identity := by
  unfold mapProperties; split <;> rfl

@[simp] theorem mapProperties_isAnonymous : (n.mapProperties ps).isAnonymous = n.isAnonymous := by
  unfold mapProperties; split <;> rfl

@[simp] theorem mapProperties_label : (n.mapProperties ps).kind.label = n.kind.label := by
  unfold mapProperties; split <;> simp_all [NodeKind.label]

@[simp] theorem simple?_mapProperties : (n.mapProperties ps).simple? = n.simple? := by
  rcases n with ⟨_, _, _, _, _, _, _, k⟩
  cases k <;> rfl

@[simp] theorem base?_mapProperties : (n.mapProperties ps).base? = n.base? := by
  rcases n with ⟨_, _, _, _, _, _, _, k⟩
  cases k <;> rfl

@[simp] theorem text?_mapProperties : (n.mapProperties ps).text? = n.text? := by
  rcases n with ⟨_, _, _, _, _, _, _, k⟩
  cases k <;> rfl

theorem interfaces_mapProperties : (n.mapProperties ps).interfaces = n.interfaces := by
  rcases n with ⟨_, _, _, _, _, _, _, k⟩
  cases k <;> rfl

theorem implementers_mapProperties : (n.mapProperties ps).implementers = n.implementers := by
  rcases n with ⟨_, _, _, _, _, _, _, k⟩
  cases k <;> rfl

theorem base?_mapClass (h : ∀ c, (f c).base = c.base) : (n.mapClass f).base? = n.base? := by
  rcases n with ⟨_, _, _, _, _, _, _, k⟩
  cases k <;> simp [mapClass, base?, class?, h]

theorem text?_mapClass (h : ∀ c, (f c).text = c.text) : (n.mapClass f).text? = n.text? := by
  rcases n with ⟨_, _, _, _, _, _, _, k⟩
  cases k <;> simp [mapClass, text?, class?, h]

@[simp] theorem derived_mapProperties : (n.mapProperties ps).derived = n.derived := by
  rcases n with ⟨_, _, _, _, _, _, _, k⟩
  cases k <;> rfl

theorem properties_mapProperties :
    (n.mapProperties ps).properties = if n.hasMembers then ps n.properties else n.properties := by
  rcases n with ⟨_, _, _, _, _, _, _, k⟩
  cases k <;> rfl

end

/-- The change is no concern of others. -/
def Decorates (f : Node → Node) : Prop := ∀ n, n.Keeps (f n) ∧ (f n).text? = n.text?

/-! ## New nodes -/

/-- The node is made for a root element: it has no name in the schema, and is not given in place
either. -/
def IsRootClass (n : Node) : Prop := n.identity = .anonymous ∧ n.isAnonymous = false

theorem Grows.isRootClass {m n : Node} (h : m.Grows n) : n.IsRootClass ↔ m.IsRootClass := by
  rw [IsRootClass, IsRootClass, h.identity, h.isAnonymous]

/-- The node has no properties and no text, and is linked to no other. -/
structure Blank (n : Node) : Prop where
  properties : n.properties = []
  text : n.text? = none
  base : n.base? = none
  derived : n.derived = []
  interfaces : n.interfaces = []
  implementers : n.implementers = []

theorem blank_of_kind {n : Node} (h : match n.kind with
      | .classLike c => c.properties = [] ∧ c.text = none ∧ c.base = none ∧ c.derived = [] ∧
        c.interfaces = []
      | .interface i => i.properties = [] ∧ i.derived = [] ∧ i.interfaces = []
      | _ => True) : n.Blank := by
  rcases n with ⟨_, _, _, _, _, _, _, k⟩
  cases k <;> constructor <;>
    simp_all [Node.properties, text?, base?, Node.derived, Node.interfaces, Node.implementers,
      class?, interface?]

end Node

namespace Graph

variable {g : Graph}

/-! ## Looking up -/

theorem node?_isSome {id : NodeId} : (g.node? id).isSome ↔ id < g.size := by
  simp [node?, size]

theorem lt_size_of_node? {id : NodeId} {n : Node} (h : g.node? id = some n) : id < g.size :=
  node?_isSome.1 (h ▸ rfl)

theorem class?_eq (id : NodeId) : g.class? id = (g.node? id).bind Node.class? := rfl

theorem base?_eq (id : NodeId) : g.base? id = (g.node? id).bind Node.base? := by
  simp only [base?, class?, Option.bind_assoc]
  rfl

theorem properties_of_node? {id : NodeId} {n : Node} (h : g.node? id = some n) :
    g.properties id = n.properties := by
  simp [properties, h]

/-- Only classes and interfaces declare properties. -/
theorem hasMembers_of_mem {id : NodeId} {p : Property} (h : p ∈ g.properties id) :
    ∃ n, g.node? id = some n ∧ n.hasMembers = true := by
  cases hn : g.node? id with
  | none => simp [properties, hn] at h
  | some n =>
    rw [properties_of_node? hn] at h
    rcases n with ⟨_, _, _, _, _, _, _, kind⟩
    cases kind with
    | classLike _ | interface _ => exact ⟨_, rfl, rfl⟩
    | enumeration _ | simple _ => cases h

theorem nameOf_of_node? {id : NodeId} {n : Node} (h : g.node? id = some n) :
    g.nameOf id = n.name := by
  simp [nameOf, h]

theorem class?_isSome {id : NodeId} :
    (g.class? id).isSome ↔ ∃ n, g.node? id = some n ∧ n.isClass = true := by
  cases hn : g.node? id with
  | none => simp [class?, hn]
  | some n => simp [class?, hn, Node.isClass]

theorem not_isSome_class? {id : NodeId} (h : ∃ n, g.node? id = some n ∧ n.isClass = false) :
    ¬ (g.class? id).isSome = true := by
  obtain ⟨n, hn, hno⟩ := h
  rw [class?_isSome]
  rintro ⟨m, hm, hclass⟩
  obtain rfl := Option.some.inj (hn.symm.trans hm)
  rw [hno] at hclass
  cases hclass

/-- The value is a primitive, or a node that can hold values: an interface cannot. -/
def IsValue (g : Graph) (v : ValueType) : Prop :=
  ∀ id, v = .node id → ∃ n, g.node? id = some n ∧ n.isInterface = false

theorem isValue_primitive (p : Schema.Primitive) : g.IsValue (.primitive p) := nofun

theorem IsValue.of_node {id : NodeId} {n : Node} (hn : g.node? id = some n)
    (hi : n.isInterface = false) : g.IsValue (.node id) := by
  rintro _ ⟨⟩
  exact ⟨n, hn, hi⟩

/-- A class can hold values. -/
theorem IsValue.of_class {id : NodeId} (h : (g.class? id).isSome) : g.IsValue (.node id) := by
  obtain ⟨n, hn, hclass⟩ := class?_isSome.1 h
  exact .of_node hn (Node.isInterface_false_of_isClass hclass)

theorem lt_size_of_base? {id b : NodeId} (h : g.base? id = some b) : id < g.size := by
  rw [base?_eq] at h
  obtain ⟨n, hn, -⟩ := Option.bind_eq_some_iff.1 h
  exact lt_size_of_node? hn

/-! ## Changing -/

@[simp] theorem size_modify (id : NodeId) (f : Node → Node) : (g.modify id f).size = g.size := by
  simp [modify, size]

@[simp] theorem node?_modify (id j : NodeId) (f : Node → Node) :
    (g.modify id f).node? j = if j = id then (g.node? j).map f else g.node? j := by
  simp only [node?, modify, Array.getElem?_modify, eq_comm]

@[simp] theorem node?_allocate (n : Node) (j : NodeId) :
    (g.allocate n).node? j = if j = g.size then some n else g.node? j := by
  simp only [node?, allocate, size, Array.getElem?_push]
  rfl

@[simp] theorem nodes_modifyTypes (space : String) (f : Table String NodeId → Table String NodeId) :
    (g.modifyTypes space f).nodes = g.nodes := rfl

@[simp] theorem nodes_register (id : NodeId) : (g.register id).nodes = g.nodes := by
  unfold register
  split <;> rfl

/-- A node that is added at the end is placed in its namespace. -/
theorem register_allocate (n : Node) : (g.allocate n).register g.size =
    (g.allocate n).modifyTypes n.space fun types => types.insert n.name g.size := by
  rw [register, node?_allocate, if_pos rfl]

theorem node?_congr {g' : Graph} (h : g'.nodes = g.nodes) (id : NodeId) :
    g'.node? id = g.node? id := by
  simp [node?, h]

theorem node?_of_push {g' : Graph} {n : Node} (h : g'.nodes = g.nodes.push n) (id : NodeId) :
    g'.node? id = if id = g.size then some n else g.node? id :=
  (node?_congr (g := g.allocate n) h id).trans (node?_allocate n id)

/-- The type of the text of a class. -/
def text? (g : Graph) (id : NodeId) : Option ValueType := (g.class? id).bind (·.text)

theorem text?_eq (id : NodeId) : g.text? id = (g.node? id).bind Node.text? := by
  simp only [text?, class?, Option.bind_assoc]
  rfl

/-! ## Bases and texts of classes -/

/-- The base and the text depend on the node alone. -/
theorem base?_congr {g' : Graph} {id : NodeId}
    (h : (g'.node? id).bind Node.base? = (g.node? id).bind Node.base?) :
    g'.base? id = g.base? id := by
  rw [base?_eq, base?_eq, h]

theorem text?_congr {g' : Graph} {id : NodeId}
    (h : (g'.node? id).bind Node.text? = (g.node? id).bind Node.text?) :
    g'.text? id = g.text? id := by
  rw [text?_eq, text?_eq, h]

theorem bind_node?_modify {α : Type} {id j : NodeId} {f : Node → Node} (v : Node → Option α)
    (hf : j = id → ∀ n, v (f n) = v n) :
    ((g.modify id f).node? j).bind v = (g.node? j).bind v := by
  rw [node?_modify]
  split
  · rename_i hj
    cases g.node? j <;> simp [hf hj]
  · rfl

theorem bind_node?_setBase {α : Type} {derived base j : NodeId} (v : Node → Option α)
    (hd : j ≠ derived) (hv : ∀ n (f : ClassShape → ClassShape), (∀ c, (f c).base = c.base) →
      (∀ c, (f c).text = c.text) → v (n.mapClass f) = v n) :
    ((g.setBase derived base).node? j).bind v = (g.node? j).bind v := by
  refine (bind_node?_modify v fun _ n => ?_).trans (bind_node?_modify v fun h => absurd h hd)
  exact hv n _ (fun _ => rfl) fun _ => rfl

/-- A base is no text. -/
theorem text?_setBase (derived base j : NodeId) :
    (g.setBase derived base).text? j = g.text? j := by
  refine text?_congr ((bind_node?_modify _ fun _ n => ?_).trans (bind_node?_modify _ fun _ n => ?_))
  · exact n.text?_mapClass _ fun _ => rfl
  · exact n.text?_mapClass _ fun _ => rfl

theorem bind_node?_addProperty {α : Type} {p : Property} {j : NodeId} (v : Node → Option α)
    (hv : ∀ n ps, v (Node.mapProperties ps n) = v n) :
    ((g.addProperty p).1.node? j).bind v = (g.node? j).bind v := by
  unfold addProperty
  split
  · rfl
  · exact bind_node?_modify v fun _ _ => hv _ _

/-- A link to a base class is all that `setBase` adds to a class. -/
theorem class?_setBase (derived base j : NodeId) :
    (g.setBase derived base).class? j = (g.class? j).map fun c =>
      { c with
        base := if j = derived then some base else c.base
        derived := if j = base then addOnce c.derived derived else c.derived } := by
  rw [class?_eq, class?_eq, setBase, node?_modify, node?_modify]
  cases hn : g.node? j with
  | none => simp
  | some n =>
    rcases Decidable.em (j = derived) with rfl | hd <;>
      rcases Decidable.em (j = base) with rfl | hb <;> simp [*, Function.comp_def]

/-! ## Properties and derived classes -/

theorem properties_eq (id : NodeId) :
    g.properties id = ((g.node? id).map Node.properties).getD [] := rfl

theorem derivedClasses_eq (id : NodeId) :
    g.derivedClasses id = ((g.node? id).map Node.derived).getD [] := by
  cases hn : g.node? id with
  | none => simp [derivedClasses, class?, hn]
  | some n => simp [derivedClasses, class?, Node.derived, hn]

/-- What refers to an interface. -/
def implementersOf (g : Graph) (id : NodeId) : List NodeId :=
  ((g.interface? id).map (·.derived)).getD []

theorem implementersOf_eq (id : NodeId) :
    g.implementersOf id = ((g.node? id).map Node.implementers).getD [] := by
  cases hn : g.node? id <;> simp [implementersOf, interface?, hn, Node.implementers]

theorem map_node?_modify {α : Type} {id j : NodeId} {f : Node → Node} (v : Node → α)
    (hf : j = id → ∀ n, v (f n) = v n) :
    ((g.modify id f).node? j).map v = (g.node? j).map v := by
  rw [node?_modify]
  split
  · rename_i hj
    cases g.node? j <;> simp [hf hj]
  · rfl

theorem properties_modify {id j : NodeId} {f : Node → Node}
    (hf : ∀ n, (f n).properties = n.properties) :
    (g.modify id f).properties j = g.properties j := by
  rw [properties_eq, properties_eq, map_node?_modify Node.properties fun _ => hf]

theorem properties_setBase (derived base j : NodeId) :
    (g.setBase derived base).properties j = g.properties j := by
  rw [setBase, properties_modify, properties_modify]
  · exact fun n => n.properties_mapClass _ fun _ => rfl
  · exact fun n => n.properties_mapClass _ fun _ => rfl

/-! ## Adding a property -/

/-- A property is not added if the owner or a base class has its name. -/
theorem addProperty_of_taken {p : Property}
    (h : ∃ q ∈ g.flattenedProperties p.owner, q.name = p.name) : (g.addProperty p).1 = g := by
  have : (g.flattenedProperties p.owner).any (·.name = p.name) = true := by simpa using h
  simp [addProperty, this]

theorem addProperty_of_free {p : Property}
    (h : ∀ q ∈ g.flattenedProperties p.owner, q.name ≠ p.name) :
    (g.addProperty p).1 = g.modify p.owner (Node.mapProperties (· ++ [p])) := by
  have : (g.flattenedProperties p.owner).any (·.name = p.name) = false := by simpa using h
  simp [addProperty, this]

theorem size_addProperty (p : Property) : (g.addProperty p).1.size = g.size := by
  unfold addProperty
  split
  · rfl
  · exact size_modify _ _

/-! ## Growing -/

/-- Every node of `g` is a node of `g'`, and has lost nothing. -/
structure Grows (g g' : Graph) : Prop where
  size : g.size ≤ g'.size
  nodes : ∀ id m, g.node? id = some m → ∃ n, g'.node? id = some n ∧ m.Grows n

namespace Grows

variable {g' g'' : Graph}

theorem refl (g : Graph) : g.Grows g := ⟨Nat.le_refl _, fun _ m h => ⟨m, h, .rfl⟩⟩

theorem trans (h : g.Grows g') (h' : g'.Grows g'') : g.Grows g'' where
  size := Nat.le_trans h.size h'.size
  nodes id m hm := by
    obtain ⟨n, hn, hg⟩ := h.nodes id m hm
    obtain ⟨o, ho, hg'⟩ := h'.nodes id n hn
    exact ⟨o, ho, hg.trans hg'⟩

theorem class? (h : g.Grows g') {id : NodeId} (hc : (g.class? id).isSome) :
    (g'.class? id).isSome := by
  rw [class?_isSome] at hc ⊢
  obtain ⟨m, hm, hc⟩ := hc
  obtain ⟨n, hn, hg⟩ := h.nodes id m hm
  exact ⟨n, hn, by rwa [Node.isClass_congr hg.label]⟩

theorem not_class (h : g.Grows g') {id : NodeId}
    (hc : ∃ n, g.node? id = some n ∧ n.isClass = false) :
    ∃ n, g'.node? id = some n ∧ n.isClass = false := by
  obtain ⟨m, hm, hc⟩ := hc
  obtain ⟨n, hn, hg⟩ := h.nodes id m hm
  exact ⟨n, hn, by rwa [Node.isClass_congr hg.label]⟩

theorem isValue (h : g.Grows g') {v : ValueType} (hv : g.IsValue v) : g'.IsValue v := by
  rintro id rfl
  obtain ⟨m, hm, hi⟩ := hv id rfl
  obtain ⟨n, hn, hg⟩ := h.nodes id m hm
  exact ⟨n, hn, by rwa [Node.isInterface_congr hg.label]⟩

theorem modify {id : NodeId} {f : Node → Node} (hf : ∀ m, g.node? id = some m → m.Grows (f m)) :
    g.Grows (g.modify id f) where
  size := by simp
  nodes j m hm := by
    by_cases hj : j = id
    · subst hj
      exact ⟨f m, by simp [hm], hf m hm⟩
    · exact ⟨m, by simp [hj, hm], .rfl⟩

theorem push {n : Node} (h : g'.nodes = g.nodes.push n) : g.Grows g' where
  size := by simp [Graph.size, h]
  nodes id m hm := by
    refine ⟨m, ?_, .rfl⟩
    rw [node?_of_push h, if_neg (Nat.ne_of_lt (lt_size_of_node? hm)), hm]

theorem addProperty (p : Property) : g.Grows (g.addProperty p).1 := by
  by_cases h : ∃ q ∈ g.flattenedProperties p.owner, q.name = p.name
  · rw [addProperty_of_taken h]
    exact refl g
  · rw [addProperty_of_free (by simpa using h)]
    refine modify fun m _ => ⟨by simp, by simp, by simp, by simp, by simp, by simp, ?_, by simp⟩
    rw [Node.properties_mapProperties]
    split
    · exact List.prefix_append _ _
    · exact List.prefix_rfl

theorem setBase {derived base : NodeId} (h : g.base? derived = none) :
    g.Grows (g.setBase derived base) := by
  refine (modify fun m hm => ?_).trans (modify fun m _ => ?_)
  · refine m.mapClass_grows _ (fun _ => rfl) fun c hc b hb => ?_
    rw [base?, class?_eq, hm, Option.bind_some, hc, Option.bind_some] at h
    exact absurd (h.symm.trans hb) (by simp)
  · exact m.mapClass_grows _ (fun _ => rfl) fun _ _ _ hb => hb

end Grows

end Graph

end XmlTypes
