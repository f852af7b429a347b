import XmlTypes.Proofs.Walks
/-!
# Links between nodes

A class and its base know one another, and so do an interface and what refers to it. A new link is
written at both of its ends, and what is written there already is not written again
(`Graph.Linked`).
-/

namespace XmlTypes

namespace Node

/-- The node implements or extends an interface. -/
def implementing (interface : NodeId) (n : Node) : Node :=
  (n.mapClass fun c => { c with interfaces := Graph.addOnce c.interfaces interface }).mapInterface
    fun i => { i with interfaces := Graph.addOnce i.interfaces interface }

/-- The interface is implemented or extended. -/
def implementedBy (implementer : NodeId) (n : Node) : Node :=
  n.mapInterface fun i => { i with derived := Graph.addOnce i.derived implementer }

section
variable (n : Node) (id : NodeId)

theorem interfaces_implementing : (n.implementing id).interfaces =
    if n.hasMembers then Graph.addOnce n.interfaces id else n.interfaces := by
  rcases n with ⟨_, _, _, _, _, _, _, k⟩
  cases k <;> rfl

theorem implementers_implementing : (n.implementing id).implementers = n.implementers := by
  rcases n with ⟨_, _, _, _, _, _, _, k⟩
  cases k <;> rfl

theorem properties_implementing : (n.implementing id).properties = n.properties := by
  rcases n with ⟨_, _, _, _, _, _, _, k⟩
  cases k <;> rfl

theorem text?_implementing : (n.implementing id).text? = n.text? := by
  rcases n with ⟨_, _, _, _, _, _, _, k⟩
  cases k <;> rfl

theorem base?_implementing : (n.implementing id).base? = n.base? := by
  rcases n with ⟨_, _, _, _, _, _, _, k⟩
  cases k <;> rfl

theorem derived_implementing : (n.implementing id).derived = n.derived := by
  rcases n with ⟨_, _, _, _, _, _, _, k⟩
  cases k <;> rfl

theorem interfaces_implementedBy : (n.implementedBy id).interfaces = n.interfaces :=
  n.interfaces_mapInterface _ fun _ => rfl

theorem implementers_implementedBy : (n.implementedBy id).implementers =
    if n.isInterface then Graph.addOnce n.implementers id else n.implementers := by
  rcases n with ⟨_, _, _, _, _, _, _, k⟩
  cases k <;> rfl

theorem properties_implementedBy : (n.implementedBy id).properties = n.properties := by
  rcases n with ⟨_, _, _, _, _, _, _, k⟩
  cases k <;> rfl

theorem text?_implementedBy : (n.implementedBy id).text? = n.text? := by
  rcases n with ⟨_, _, _, _, _, _, _, k⟩
  cases k <;> rfl

theorem base?_implementedBy : (n.implementedBy id).base? = n.base? := by
  rcases n with ⟨_, _, _, _, _, _, _, k⟩
  cases k <;> rfl

theorem derived_implementedBy : (n.implementedBy id).derived = n.derived := by
  rcases n with ⟨_, _, _, _, _, _, _, k⟩
  cases k <;> rfl

theorem implementing_grows : n.Grows (n.implementing id) := by
  refine .trans (n.mapClass_grows _ (fun _ => ?_) ?_) (mapInterface_grows _ _ fun _ => ?_)
  · rfl
  · exact fun _ _ _ hb => hb
  · rfl

theorem implementedBy_grows : n.Grows (n.implementedBy id) := by
  refine mapInterface_grows n _ fun _ => ?_
  rfl

end

end Node

namespace Graph

/-- Every link is there at both ends, once at the end that lists what derives from it. -/
structure Linked (g : Graph) : Prop where
  bases : ∀ a b, g.base? a = some b ↔ a ∈ g.derivedClasses b
  derived : ∀ b, (g.derivedClasses b).Nodup
  interfaces : ∀ m i, i ∈ g.interfaces m ↔ m ∈ g.implementersOf i
  implementers : ∀ i, (g.implementersOf i).Nodup
  /-- No interface extends itself. -/
  apart : ∀ i, i ∉ g.interfaces i

/-- The graph is without links. -/
structure Unlinked (g : Graph) : Prop where
  base : ∀ c, g.base? c = none
  derived : ∀ b, g.derivedClasses b = []
  interfaces : ∀ m, g.interfaces m = []
  implementers : ∀ i, g.implementersOf i = []

section
variable {g g' : Graph} {id j : NodeId}

theorem mem_addOnce {ids : List NodeId} : j ∈ addOnce ids id ↔ j ∈ ids ∨ j = id := by
  unfold addOnce
  split
  · rename_i h
    have hid : id ∈ ids := by simpa using h
    exact ⟨.inl, fun hj => hj.elim (fun h => h) fun h => h ▸ hid⟩
  · simp

theorem nodup_addOnce {ids : List NodeId} (h : ids.Nodup) : (addOnce ids id).Nodup := by
  unfold addOnce
  split
  · exact h
  · rename_i hid
    rw [List.contains_iff_mem] at hid
    exact List.concat_eq_append ▸ h.concat hid

/-! ## What is linked -/

theorem Linked.isSome_class? (hl : g.Linked) {a b : NodeId} (h : g.base? a = some b) :
    (g.class? b).isSome := by
  have hmem := (hl.bases a b).1 h
  unfold derivedClasses at hmem
  cases hc : g.class? b with
  | none => rw [hc] at hmem; cases hmem
  | some c => rfl

theorem linked_congr (hl : g.Linked) (hb : ∀ id, g'.base? id = g.base? id)
    (hd : ∀ id, g'.derivedClasses id = g.derivedClasses id)
    (hi : ∀ id, g'.interfaces id = g.interfaces id)
    (hm : ∀ id, g'.implementersOf id = g.implementersOf id) : g'.Linked where
  bases a b := by rw [hb, hd]; exact hl.bases a b
  derived b := hd b ▸ hl.derived b
  interfaces m i := by rw [hi, hm]; exact hl.interfaces m i
  implementers i := hm i ▸ hl.implementers i
  apart i := hi i ▸ hl.apart i

/-- What is the same for two nodes if their links are. -/
theorem linked_of_nodes (hl : g.Linked)
    (hb : ∀ id, (g'.node? id).bind Node.base? = (g.node? id).bind Node.base?)
    (hd : ∀ id, ((g'.node? id).map Node.derived).getD [] =
      ((g.node? id).map Node.derived).getD [])
    (hi : ∀ id, ((g'.node? id).map Node.interfaces).getD [] =
      ((g.node? id).map Node.interfaces).getD [])
    (hm : ∀ id, ((g'.node? id).map Node.implementers).getD [] =
      ((g.node? id).map Node.implementers).getD []) : g'.Linked := by
  refine linked_congr hl (fun id => base?_congr (hb id)) (fun id => ?_) hi fun id => ?_
  · rw [derivedClasses_eq, derivedClasses_eq, hd]
  · rw [implementersOf_eq, implementersOf_eq, hm]

theorem linked_modify {f : Node → Node} (hl : g.Linked)
    (hf : ∀ n, (f n).base? = n.base? ∧ (f n).derived = n.derived ∧
      (f n).interfaces = n.interfaces ∧ (f n).implementers = n.implementers) :
    (g.modify id f).Linked :=
  linked_of_nodes hl (fun _ => bind_node?_modify _ fun _ n => (hf n).1)
    (fun _ => by rw [map_node?_modify _ fun _ n => (hf n).2.1])
    (fun _ => by rw [map_node?_modify _ fun _ n => (hf n).2.2.1])
    fun _ => by rw [map_node?_modify _ fun _ n => (hf n).2.2.2]

theorem Linked.keeps (hl : g.Linked) {f : Node → Node} (hf : ∀ n : Node, n.Keeps (f n)) :
    (g.modify id f).Linked :=
  linked_modify hl fun n => ⟨(hf n).base, (hf n).derived, (hf n).interfaces, (hf n).implementers⟩

/-! ## No links -/

theorem Unlinked.linked (h : g.Unlinked) : g.Linked where
  bases a b := by simp [h.base a, h.derived b]
  derived b := h.derived b ▸ List.nodup_nil
  interfaces m i := by simp [h.interfaces m, h.implementers i]
  implementers i := h.implementers i ▸ List.nodup_nil
  apart i := by simp [h.interfaces i]

theorem unlinked_of_nodes (h : ∀ n ∈ g.nodes.toList,
    n.base? = none ∧ n.derived = [] ∧ n.interfaces = [] ∧ n.implementers = []) : g.Unlinked := by
  have hnode {id : NodeId} {n : Node} (hn : g.node? id = some n) : n ∈ g.nodes.toList :=
    Array.mem_toList_iff.2 (Array.mem_of_getElem? hn)
  have hlist (v : Node → List NodeId) (hv : ∀ n ∈ g.nodes.toList, v n = []) (id : NodeId) :
      ((g.node? id).map v).getD [] = [] := by
    cases hn : g.node? id with
    | none => rfl
    | some n => exact hv n (hnode hn)
  refine ⟨fun id => ?_, fun id => ?_, fun id => ?_, fun id => ?_⟩
  · rw [base?_eq]
    cases hn : g.node? id with
    | none => rfl
    | some n => exact (h n (hnode hn)).1
  · rw [derivedClasses_eq]
    exact hlist _ (fun n hn => (h n hn).2.1) id
  · exact hlist _ (fun n hn => (h n hn).2.2.1) id
  · rw [implementersOf_eq]
    exact hlist _ (fun n hn => (h n hn).2.2.2) id

/-! ## New links -/

theorem base?_setBase {derived base : NodeId} (h : (g.class? derived).isSome) :
    (g.setBase derived base).base? j = if j = derived then some base else g.base? j := by
  rw [base?, class?_setBase, Option.bind_map]
  by_cases hj : j = derived
  · obtain ⟨c, hc⟩ := Option.isSome_iff_exists.1 h
    simp [hj, hc]
  · simp [hj, base?]

theorem derivedClasses_setBase {derived base : NodeId} (h : (g.class? base).isSome) :
    (g.setBase derived base).derivedClasses j =
      if j = base then addOnce (g.derivedClasses j) derived else g.derivedClasses j := by
  rw [derivedClasses, class?_setBase, Option.map_map]
  by_cases hj : j = base
  · obtain ⟨c, hc⟩ := Option.isSome_iff_exists.1 h
    simp [hj, hc, derivedClasses]
  · simp [hj, derivedClasses, Function.comp_def]

theorem map_node?_setBase {α : Type} (v : Node → α) (hv : ∀ n (f : ClassShape → ClassShape),
      (∀ c, (f c).interfaces = c.interfaces) → v (n.mapClass f) = v n) (derived base j : NodeId) :
    ((g.setBase derived base).node? j).map v = (g.node? j).map v := by
  refine (map_node?_modify v fun _ n => ?_).trans (map_node?_modify v fun _ n => ?_)
  · exact hv n _ fun _ => rfl
  · exact hv n _ fun _ => rfl

theorem interfaces_setBase (derived base j : NodeId) :
    (g.setBase derived base).interfaces j = g.interfaces j :=
  congrArg (Option.getD · []) (map_node?_setBase Node.interfaces Node.interfaces_mapClass _ _ _)

theorem implementersOf_setBase (derived base j : NodeId) :
    (g.setBase derived base).implementersOf j = g.implementersOf j := by
  rw [implementersOf_eq, implementersOf_eq,
    map_node?_setBase Node.implementers fun n f _ => n.implementers_mapClass f]

/-- A class that has no base yet is linked to its base. -/
theorem linked_setBase {derived base : NodeId} (hl : g.Linked) (hnone : g.base? derived = none)
    (hderived : (g.class? derived).isSome) (hbase : (g.class? base).isSome) :
    (g.setBase derived base).Linked where
  bases a b := by
    rw [base?_setBase hderived, derivedClasses_setBase hbase]
    by_cases hb : b = base
    · rw [if_pos hb, mem_addOnce, ← hl.bases]
      split
      · rename_i ha
        simp [ha, hb]
      · rename_i ha
        simp [ha]
    · rw [if_neg hb, ← hl.bases]
      split
      · -- An earlier base would still list the class.
        rename_i ha
        simp [ha, hnone, Ne.symm hb]
      · exact Iff.rfl
  derived b := by
    rw [derivedClasses_setBase hbase]
    split
    · exact nodup_addOnce (hl.derived b)
    · exact hl.derived b
  interfaces m i := by
    rw [interfaces_setBase, implementersOf_setBase]
    exact hl.interfaces m i
  implementers i := implementersOf_setBase (g := g) derived base i ▸ hl.implementers i
  apart i := interfaces_setBase (g := g) derived base i ▸ hl.apart i

/-! ## Links to interfaces -/

theorem addImplementer_eq {interface implementer : NodeId} (h : interface ≠ implementer) :
    g.addImplementer interface implementer =
      (g.modify implementer (Node.implementing interface)).modify interface
        (Node.implementedBy implementer) := by
  unfold addImplementer
  rw [if_neg h]
  rfl

section
variable {α : Type} (interface implementer j : NodeId)

theorem size_addImplementer : (g.addImplementer interface implementer).size = g.size := by
  by_cases h : interface = implementer
  · rw [addImplementer, if_pos h]
  · rw [addImplementer_eq h, size_modify, size_modify]

/-- What has nothing to do with interfaces is left alone. -/
theorem map_node?_addImplementer {v : Node → α} (hv : ∀ n id, v (Node.implementing id n) = v n)
    (hv' : ∀ n id, v (Node.implementedBy id n) = v n) :
    ((g.addImplementer interface implementer).node? j).map v = (g.node? j).map v := by
  by_cases h : interface = implementer
  · rw [addImplementer, if_pos h]
  · rw [addImplementer_eq h, map_node?_modify v fun _ n => hv' n _,
      map_node?_modify v fun _ n => hv n _]

theorem bind_node?_addImplementer {v : Node → Option α}
    (hv : ∀ n id, v (Node.implementing id n) = v n)
    (hv' : ∀ n id, v (Node.implementedBy id n) = v n) :
    ((g.addImplementer interface implementer).node? j).bind v = (g.node? j).bind v := by
  by_cases h : interface = implementer
  · rw [addImplementer, if_pos h]
  · rw [addImplementer_eq h, bind_node?_modify v fun _ n => hv' n _,
      bind_node?_modify v fun _ n => hv n _]

theorem properties_addImplementer :
    (g.addImplementer interface implementer).properties j = g.properties j := by
  rw [properties_eq, properties_eq,
    map_node?_addImplementer _ _ _ Node.properties_implementing Node.properties_implementedBy]

theorem base?_addImplementer :
    (g.addImplementer interface implementer).base? j = g.base? j :=
  base?_congr (bind_node?_addImplementer _ _ _ Node.base?_implementing Node.base?_implementedBy)

theorem text?_addImplementer :
    (g.addImplementer interface implementer).text? j = g.text? j :=
  text?_congr (bind_node?_addImplementer _ _ _ Node.text?_implementing Node.text?_implementedBy)

theorem derivedClasses_addImplementer :
    (g.addImplementer interface implementer).derivedClasses j = g.derivedClasses j := by
  rw [derivedClasses_eq, derivedClasses_eq,
    map_node?_addImplementer _ _ _ Node.derived_implementing Node.derived_implementedBy]

theorem Grows.addImplementer : g.Grows (g.addImplementer interface implementer) := by
  by_cases h : interface = implementer
  · rw [Graph.addImplementer, if_pos h]
    exact .refl g
  · rw [addImplementer_eq h]
    exact (Grows.modify fun m _ => m.implementing_grows interface).trans
      (.modify fun m _ => m.implementedBy_grows implementer)

end

theorem interfaces_addImplementer {interface implementer : NodeId} (hne : interface ≠ implementer)
    (h : ∃ n, g.node? implementer = some n ∧ n.hasMembers = true) :
    (g.addImplementer interface implementer).interfaces j =
      if j = implementer then addOnce (g.interfaces j) interface else g.interfaces j := by
  obtain ⟨n, hn, hmembers⟩ := h
  rw [interfaces, addImplementer_eq hne,
    map_node?_modify _ fun _ n => n.interfaces_implementedBy _, node?_modify]
  split
  · rename_i hj
    rw [hj, interfaces, hn]
    exact (n.interfaces_implementing interface).trans (if_pos hmembers)
  · rfl

theorem implementersOf_addImplementer {interface implementer : NodeId}
    (hne : interface ≠ implementer)
    (h : ∃ n, g.node? interface = some n ∧ n.isInterface = true) :
    (g.addImplementer interface implementer).implementersOf j =
      if j = interface then addOnce (g.implementersOf j) implementer else g.implementersOf j := by
  obtain ⟨n, hn, hinterface⟩ := h
  rw [implementersOf_eq, implementersOf_eq, addImplementer_eq hne, node?_modify, node?_modify]
  by_cases hj : j = interface
  · rw [if_pos hj, if_pos hj, if_neg (hj ▸ hne), hj, hn]
    exact (n.implementers_implementedBy implementer).trans (if_pos hinterface)
  · rw [if_neg hj, if_neg hj]
    split
    · cases g.node? j with
      | none => rfl
      | some m => exact m.implementers_implementing interface
    · rfl

/-- What refers to a group is linked to its interface. -/
theorem linked_addImplementer {interface implementer : NodeId} (hl : g.Linked)
    (hinterface : ∃ n, g.node? interface = some n ∧ n.isInterface = true)
    (hmembers : ∃ n, g.node? implementer = some n ∧ n.hasMembers = true) :
    (g.addImplementer interface implementer).Linked := by
  by_cases hne : interface = implementer
  · rw [addImplementer, if_pos hne]
    exact hl
  have hi (j : NodeId) := interfaces_addImplementer (j := j) hne hmembers
  have hm (j : NodeId) := implementersOf_addImplementer (j := j) hne hinterface
  refine ⟨fun a b => ?_, fun b => ?_, fun m i => ?_, fun i => ?_, fun i => ?_⟩
  · rw [base?_addImplementer, derivedClasses_addImplementer]
    exact hl.bases a b
  · rw [derivedClasses_addImplementer]
    exact hl.derived b
  · -- Both ends list what they did, and the new link.
    have hend : i ∈ (g.addImplementer interface implementer).interfaces m ↔
        i ∈ g.interfaces m ∨ m = implementer ∧ i = interface := by
      rw [hi]
      split
      · rename_i h
        simp [mem_addOnce, h]
      · rename_i h
        simp [h]
    rw [hend, hm, hl.interfaces]
    split
    · rename_i h
      simp [mem_addOnce, h]
    · rename_i h
      simp [h]
  · rw [hm]
    split
    · exact nodup_addOnce (hl.implementers i)
    · exact hl.implementers i
  · rw [hi]
    split
    · rename_i h
      rw [mem_addOnce, not_or]
      exact ⟨hl.apart i, fun he => hne (he ▸ h)⟩
    · exact hl.apart i

end

end Graph

theorem Build.isSome_class?_of_mem_ancestors {g : Graph} {a id : NodeId} (hl : g.Linked)
    (h : a ∈ g.ancestors id) : (g.class? a).isSome := by
  obtain ⟨-, hd⟩ := Graph.mem_ancestors.1 h
  cases hd with
  | single h => exact hl.isSome_class? h
  | tail _ h => exact hl.isSome_class? h

end XmlTypes
