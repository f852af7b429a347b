import XmlTypes.Graph.Finish
import XmlTypes.Proofs.Invariants
/-!
# Graphs that share their classes

After the last document a graph gets no node and no base class any more: what is done to it then
concerns names, roots and properties. `Graph.Shares` says so, and what follows for the walks along
base classes.
-/

namespace XmlTypes

/-- A property without what may stand in for it. -/
def Property.plain (p : Property) : Property := { p with substitutes := [] }

/-- A property without its name. -/
def Property.unnamed (p : Property) : Property := { p with name := "" }

/-- A property without either. -/
def Property.bare (p : Property) : Property := { p with name := "", substitutes := [] }

/-! ## Nodes -/

namespace Node

/-- `n` differs from `m` in its names and properties only, and in its root if it may get one. -/
structure Shares (m n : Node) : Prop where
  identity : n.identity = m.identity
  isAnonymous : n.isAnonymous = m.isAnonymous
  isAbstractRoot : n.isAbstractRoot = m.isAbstractRoot
  isAbstract : n.class?.map (·.isAbstract) = m.class?.map (·.isAbstract)
  root : Graph.mayBeRoot m = false → n.root = m.root
  label : n.kind.label = m.kind.label
  simple : n.simple? = m.simple?
  base : n.base? = m.base?
  text : n.text? = m.text?
  derived : n.derived = m.derived
  interfaces : n.interfaces = m.interfaces
  implementers : n.implementers = m.implementers

theorem Shares.rfl {n : Node} : n.Shares n where
  identity := .refl _
  isAnonymous := .refl _
  isAbstractRoot := .refl _
  isAbstract := .refl _
  root _ := .refl _
  label := .refl _
  simple := .refl _
  base := .refl _
  text := .refl _
  derived := .refl _
  interfaces := .refl _
  implementers := .refl _

theorem Shares.trans {l m n : Node} (h : l.Shares m) (h' : m.Shares n) : l.Shares n where
  identity := h'.identity.trans h.identity
  isAnonymous := h'.isAnonymous.trans h.isAnonymous
  isAbstractRoot := h'.isAbstractRoot.trans h.isAbstractRoot
  isAbstract := h'.isAbstract.trans h.isAbstract
  root hl := by
    have hroot := h.root hl
    refine (h'.root ?_).trans hroot
    rw [Graph.mayBeRoot, h.isAnonymous, h.identity, h.isAbstractRoot, hroot,
      isInterface_congr h.label]
    exact hl
  label := h'.label.trans h.label
  simple := h'.simple.trans h.simple
  base := h'.base.trans h.base
  text := h'.text.trans h.text
  derived := h'.derived.trans h.derived
  interfaces := h'.interfaces.trans h.interfaces
  implementers := h'.implementers.trans h.implementers

/-- A node with another name, and with a root if it may get one. -/
theorem shares_of_kind {m n : Node} (hi : n.identity = m.identity)
    (ha : n.isAnonymous = m.isAnonymous) (hr : n.isAbstractRoot = m.isAbstractRoot)
    (hroot : Graph.mayBeRoot m = false → n.root = m.root) (hk : n.kind = m.kind) :
    m.Shares n where
  identity := hi
  isAnonymous := ha
  isAbstractRoot := hr
  isAbstract := by rw [class?, class?, hk]
  root := hroot
  label := by rw [hk]
  simple := by rw [simple?, simple?, hk]
  base := by rw [base?, base?, class?, class?, hk]
  text := by rw [text?, text?, class?, class?, hk]
  derived := by rw [Node.derived, Node.derived, class?, class?, hk]
  interfaces := by rw [Node.interfaces, Node.interfaces, hk]
  implementers := by rw [Node.implementers, Node.implementers, interface?, interface?, hk]

theorem mapProperties_shares (n : Node) (f : List Property → List Property) :
    n.Shares (n.mapProperties f) where
  identity := n.mapProperties_identity f
  isAnonymous := n.mapProperties_isAnonymous f
  isAbstractRoot := by unfold mapProperties; split <;> rfl
  isAbstract := by
    rcases n with ⟨_, _, _, _, _, _, _, k⟩
    cases k <;> rfl
  root _ := by unfold mapProperties; split <;> rfl
  label := n.mapProperties_label f
  simple := n.simple?_mapProperties f
  base := n.base?_mapProperties f
  text := n.text?_mapProperties f
  derived := n.derived_mapProperties f
  interfaces := n.interfaces_mapProperties f
  implementers := n.implementers_mapProperties f

theorem Shares.isRootClass {m n : Node} (h : m.Shares n) : n.IsRootClass ↔ m.IsRootClass := by
  rw [IsRootClass, IsRootClass, h.identity, h.isAnonymous]

/-- A class for a root element never gets another root. -/
theorem Shares.root_of_isRootClass {m n : Node} (h : m.Shares n) (hm : m.IsRootClass) :
    n.root = m.root := by
  refine h.root ?_
  have hempty : m.identity.isEmpty = true := by
    rw [hm.1]
    decide
  simp [Graph.mayBeRoot, hempty]

/-- Nor does a node that has a root, or that root elements share. -/
theorem Shares.root_eq {m n : Node} (h : m.Shares n)
    (hm : m.root ≠ none ∨ m.isAbstractRoot = true) : n.root = m.root := by
  refine h.root ?_
  rcases hm with hm | hm
  · simp [Graph.mayBeRoot, Option.isNone_eq_false_iff.2 (Option.isSome_iff_ne_none.2 hm)]
  · simp [Graph.mayBeRoot, hm]

/-- A node that cannot declare properties has none to be changed. -/
theorem properties_mapProperties_of_nil {f : List Property → List Property} (h : f [] = [])
    (n : Node) : (n.mapProperties f).properties = f n.properties := by
  rcases n with ⟨_, _, _, _, _, _, _, k⟩
  cases k <;> simp [mapProperties, properties, h]

end Node

namespace Graph

variable {g g' g'' : Graph} {id j : NodeId}

/-- The nodes of `g'` are those of `g`, and differ in names, roots and properties only. -/
structure Shares (g g' : Graph) : Prop where
  size : g'.size = g.size
  nodes : ∀ id m, g.node? id = some m → ∃ n, g'.node? id = some n ∧ m.Shares n

namespace Shares

theorem refl (g : Graph) : g.Shares g := ⟨.refl _, fun _ m h => ⟨m, h, .rfl⟩⟩

theorem trans (h : g.Shares g') (h' : g'.Shares g'') : g.Shares g'' where
  size := h'.size.trans h.size
  nodes id m hm := by
    obtain ⟨n, hn, hs⟩ := h.nodes id m hm
    obtain ⟨o, ho, hs'⟩ := h'.nodes id n hn
    exact ⟨o, ho, hs.trans hs'⟩

theorem modify {f : Node → Node} (hf : ∀ n : Node, n.Shares (f n)) :
    g.Shares (g.modify id f) where
  size := size_modify _ _
  nodes j m hm := by
    rw [node?_modify, hm]
    split
    · exact ⟨f m, rfl, hf m⟩
    · exact ⟨m, rfl, .rfl⟩

theorem node?_cases (h : g.Shares g') (id : NodeId) :
    g.node? id = none ∧ g'.node? id = none ∨
      ∃ m n, g.node? id = some m ∧ g'.node? id = some n ∧ m.Shares n := by
  cases hm : g.node? id with
  | none =>
    refine .inl ⟨rfl, ?_⟩
    rw [← Option.not_isSome_iff_eq_none, node?_isSome, h.size, ← node?_isSome, hm]
    simp
  | some m =>
    obtain ⟨n, hn, hs⟩ := h.nodes id m hm
    exact .inr ⟨m, n, rfl, hn, hs⟩

/-- What is the same for nodes that differ in names, roots and properties. -/
theorem map_node? {α : Type} (h : g.Shares g') {v : Node → α} (hv : ∀ m n, m.Shares n → v n = v m)
    (id : NodeId) : (g'.node? id).map v = (g.node? id).map v := by
  rcases h.node?_cases id with ⟨hm, hn⟩ | ⟨m, n, hm, hn, hs⟩
  · rw [hm, hn]
  · rw [hm, hn, Option.map_some, Option.map_some, hv m n hs]

theorem bind_node? {α : Type} (h : g.Shares g') {v : Node → Option α}
    (hv : ∀ m n, m.Shares n → v n = v m) (id : NodeId) :
    (g'.node? id).bind v = (g.node? id).bind v := by
  rcases h.node?_cases id with ⟨hm, hn⟩ | ⟨m, n, hm, hn, hs⟩
  · rw [hm, hn]
  · rw [hm, hn, Option.bind_some, Option.bind_some, hv m n hs]

theorem base? (h : g.Shares g') (id : NodeId) : g'.base? id = g.base? id :=
  base?_congr (h.bind_node? (fun _ _ hs => hs.base) id)

theorem text? (h : g.Shares g') (id : NodeId) : g'.text? id = g.text? id :=
  text?_congr (h.bind_node? (fun _ _ hs => hs.text) id)

theorem isSome_class? (h : g.Shares g') (id : NodeId) :
    (g'.class? id).isSome = (g.class? id).isSome := by
  rcases h.node?_cases id with ⟨hm, hn⟩ | ⟨m, n, hm, hn, hs⟩
  · rw [class?_eq, class?_eq, hm, hn]
  · rw [class?_eq, class?_eq, hm, hn]
    exact Node.isClass_congr hs.label

theorem isSome_interface? (h : g.Shares g') (id : NodeId) :
    (g'.interface? id).isSome = (g.interface? id).isSome := by
  rcases h.node?_cases id with ⟨hm, hn⟩ | ⟨m, n, hm, hn, hs⟩
  · rw [interface?, interface?, hm, hn]
  · rw [interface?, interface?, hm, hn]
    exact Node.isInterface_congr hs.label

theorem ancestors (h : g.Shares g') (id : NodeId) : g'.ancestors id = g.ancestors id := by
  rw [Graph.ancestors, Graph.ancestors, funext h.base?, h.size]

theorem linked (h : g.Shares g') (hl : g.Linked) : g'.Linked :=
  linked_of_nodes hl (h.bind_node? fun _ _ hs => hs.base)
    (fun id => by rw [h.map_node? fun _ _ hs => hs.derived])
    (fun id => by rw [h.map_node? fun _ _ hs => hs.interfaces])
    fun id => by rw [h.map_node? fun _ _ hs => hs.implementers]

end Shares

theorem properties_modify_mapProperties {f : List Property → List Property} (h : f [] = []) :
    (g.modify id (Node.mapProperties f)).properties j =
      if j = id then f (g.properties j) else g.properties j := by
  rw [properties_eq, properties_eq, node?_modify]
  split
  · cases g.node? j with
    | none => exact h.symm
    | some n => exact n.properties_mapProperties_of_nil h
  · rfl

end Graph

end XmlTypes
