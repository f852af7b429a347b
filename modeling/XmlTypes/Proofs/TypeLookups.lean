import XmlTypes.Proofs.Identity
import XmlTypes.Proofs.Listings
import XmlTypes.Proofs.Traversal
/-!
# Looking up the node of a type

A graph is asked for the node with a name in the schema, and answers with the first one. Types and
groups have names of their own, but the interface of a group carries the name of the group as a
class carries that of its type. So the answer is the node of the type exactly if no interface with
its name was made before, and otherwise it is such an interface (`findByIdentity?_type_iff`).
-/

namespace XmlTypes

/-- A group or an attribute group of the given name is declared. -/
def Schema.SchemaSet.DeclaresGroup (set : SchemaSet) (n : QName) : Prop :=
  ∃ doc ∈ set.documents, (∃ d ∈ doc.groups, d.name = n) ∨ ∃ d ∈ doc.attributeGroups, d.name = n

namespace Graph

variable {g : Graph} {n : QName} {id : NodeId}

/-- The node was made for the group of the given name. -/
def IsInterfaceFor (g : Graph) (n : QName) (id : NodeId) : Prop :=
  ∃ node, g.node? id = some node ∧ node.identity = n ∧ node.isInterface = true

/-- What a node with a name was made for is a type or a group. -/
theorem named_cases {node : Node} (h : g.node? id = some node) (hn : node.identity = n) :
    g.IsTypeNode n id ∨ g.IsInterfaceFor n id := by
  cases hi : node.isInterface with
  | false => exact .inl ⟨node, h, hn, hi⟩
  | true => exact .inr ⟨node, h, hn, hi⟩

theorem IsInterfaceFor.not_isTypeNode (h : g.IsInterfaceFor n id) : ¬ g.IsTypeNode n id := by
  obtain ⟨node, hnode, -, hi⟩ := h
  rintro ⟨node', hnode', -, hi'⟩
  obtain rfl := Option.some.inj (hnode.symm.trans hnode')
  exact Bool.false_ne_true (hi'.symm.trans hi)

/-- No node with the name counts as given in place. -/
def Named (g : Graph) (n : QName) : Prop :=
  ∀ id node, g.node? id = some node → node.identity = n → node.isAnonymous = false

/-- What is found is the first of the nodes with the name. -/
theorem findByIdentity?_eq_some (h : g.Named n) : g.findByIdentity? n = some id ↔
    (∃ node, g.node? id = some node ∧ node.identity = n) ∧
      ∀ j node, g.node? j = some node → node.identity = n → id ≤ j := by
  rw [findByIdentity?, List.findIdx?_eq_some_iff_getElem]
  constructor
  · rintro ⟨hid, hfound, hfirst⟩
    rw [Bool.and_eq_true, decide_eq_true_eq] at hfound
    refine ⟨⟨_, Array.getElem?_eq_getElem hid, hfound.2⟩, fun j node hj hn => ?_⟩
    by_contra hlt
    obtain ⟨hsize, rfl⟩ := Array.getElem?_eq_some_iff.1 hj
    refine hfirst j (Nat.lt_of_not_le hlt) ?_
    simp [← hn, h j _ hj hn]
  · rintro ⟨⟨node, hnode, hn⟩, hfirst⟩
    obtain ⟨hsize, rfl⟩ := Array.getElem?_eq_some_iff.1 hnode
    refine ⟨hsize, by simp [h id _ hnode hn, hn], fun j hj hmatch => ?_⟩
    rw [Bool.and_eq_true, decide_eq_true_eq] at hmatch
    exact absurd (hfirst j _ (Array.getElem?_eq_getElem (Nat.lt_trans hj hsize)) hmatch.2)
      (Nat.not_le_of_lt hj)

/-- Where a node has the name, one is found. -/
theorem exists_findByIdentity? (h : g.Named n) {node : Node} (hnode : g.node? id = some node)
    (hn : node.identity = n) : ∃ j, g.findByIdentity? n = some j := by
  rw [← Option.isSome_iff_exists, findByIdentity?, List.findIdx?_isSome, List.any_eq_true]
  refine ⟨node, Array.mem_toList_iff.2 (Array.mem_of_getElem? hnode), ?_⟩
  simp [h id node hnode hn, hn]

/-- With one node for the type, it is found exactly if it comes before the interfaces. -/
theorem findByIdentity?_iff (h : g.Named n) (hone : ∀ j, g.IsTypeNode n j ↔ j = id) :
    g.findByIdentity? n = some id ↔ ∀ j, g.IsInterfaceFor n j → id < j := by
  obtain ⟨node, hnode, hn, -⟩ := (hone id).2 rfl
  rw [findByIdentity?_eq_some h]
  constructor
  · rintro ⟨-, hfirst⟩ j hj
    refine Nat.lt_of_le_of_ne (hj.elim fun m hm => hfirst j m hm.1 hm.2.1) ?_
    rintro rfl
    exact hj.not_isTypeNode ((hone _).2 rfl)
  · -- Any other node with the name is an interface.
    refine fun hbefore => ⟨⟨node, hnode, hn⟩, fun j m hm hname => ?_⟩
    rcases named_cases hm hname with htype | hinterface
    · exact Nat.le_of_eq ((hone j).1 htype).symm
    · exact Nat.le_of_lt (hbefore j hinterface)

end Graph

namespace Build

open Schema

variable {env : Environment} {s t : State}

/-- Groups give interfaces, and there is one of the given name. -/
def Environment.OffersGroup (env : Environment) (n : QName) : Prop :=
  env.options.generateInterfaces = true ∧
    ((env.index.group? n).isSome = true ∨ (env.index.attributeGroup? n).isSome = true)

/-- An interface with a name is that of a group. -/
def Grouped (env : Environment) (s : State) : Prop :=
  ∀ id n, s.graph.node? id = some n → n.isInterface = true → n.identity.isEmpty = false →
    env.OffersGroup n.identity

/-! ## Steps -/

theorem Change.grouped {head : Option NodeId} (h : Change env head s t) (hs : Grouped env s) :
    Grouped env t := by
  intro id n hn hi hne
  obtain ⟨m, hm, hgrows⟩ := h.of_node? hn
  rw [hgrows.identity] at hne ⊢
  exact hs id m hm (Node.isInterface_congr hgrows.label ▸ hi) hne

/-- A new interface with a name is made for a group. -/
theorem Purpose.of_isInterface {n : Node} {key : Option CacheKey} (h : Purpose env n key)
    (hi : n.isInterface = true) (hne : n.identity.isEmpty = false) :
    env.OffersGroup n.identity := by
  cases h with
  | type _ _ hclass _ =>
    rw [Node.isInterface_false_of_isClass hclass] at hi
    cases hi
  | simpleType _ _ _ hlabel _ _ =>
    rw [Node.isInterface_iff, hlabel] at hi
    split at hi <;> exact absurd hi (by decide)
  | group _ hname hgroup =>
    rw [hname]
    exact hgroup.imp_right (Or.imp And.right And.right)
  | unnamed hname _ _ =>
    rw [hname] at hne
    cases hne

theorem Creation.grouped {n : Node} {key : Option CacheKey} {place : Option Place}
    (h : Creation env s t n key place) (hs : Grouped env s) : Grouped env t := by
  intro id m hm hi hne
  rw [h.node?] at hm
  split at hm
  · obtain rfl := Option.some.inj hm
    exact h.purpose.of_isInterface hi hne
  · exact hs id m hm hi hne

theorem Moves.grouped (h : Moves env s t) (hs : Grouped env s) : Grouped env t := by
  cases h with
  | change h => exact h.grouped hs
  | create h => exact h.grouped hs
  | opening h => exact hs

theorem run_grouped {resolver : Resolver} (hix : env.index.Lawful)
    (h : run env resolver = .ok s) : Grouped env s := by
  refine run_invariant hix ?_ (fun _ _ => Moves.grouped) h
  exact fun _ _ hn => absurd hn.symm (Option.some_ne_none _)

/-! ## Finished graphs -/

theorem finished_named {n : QName} (hs : Listed env s) (hne : n.isEmpty = false) :
    (s.finished env).Named n := by
  rintro id node hnode rfl
  obtain ⟨m, hm, hshares⟩ := node?_of_finished hnode
  rw [hshares.identity] at hne
  rw [hshares.isAnonymous, Bool.eq_false_iff]
  exact fun ha => Bool.false_ne_true (hne.symm.trans (hs.anonymous id m hm ha))

/-- What is found under a name is a declaration of that name. -/
theorem declaresGroup_of_isSome {set : SchemaSet} {n : QName}
    (h : ((Index.ofSet set).group? n).isSome = true ∨
      ((Index.ofSet set).attributeGroup? n).isSome = true) : set.DeclaresGroup n := by
  have hix := Index.lawful_ofSet set
  rcases h with h | h
  · obtain ⟨d, hd⟩ := Option.isSome_iff_exists.1 h
    obtain ⟨-, hdoc, hitem⟩ := Index.slot_of_found hd
    exact ⟨_, List.mem_of_getElem? hdoc, .inl ⟨_, List.mem_of_getElem? hitem, hix.groups n d hd⟩⟩
  · obtain ⟨d, hd⟩ := Option.isSome_iff_exists.1 h
    obtain ⟨-, hdoc, hitem⟩ := Index.slot_of_found hd
    exact ⟨_, List.mem_of_getElem? hdoc,
      .inr ⟨_, List.mem_of_getElem? hitem, hix.attributeGroups n d hd⟩⟩

theorem finished_declaresGroup {set : SchemaSet} {options : Options} {naming : Naming} {n : QName}
    {id : NodeId} (hs : Grouped (.ofSet set options naming) s) (hne : n.isEmpty = false)
    (h : (s.finished (.ofSet set options naming)).IsInterfaceFor n id) :
    options.generateInterfaces = true ∧ set.DeclaresGroup n := by
  obtain ⟨node, hnode, rfl, hi⟩ := h
  obtain ⟨m, hm, hshares⟩ := node?_of_finished hnode
  rw [hshares.identity] at hne ⊢
  exact (hs id m hm (Node.isInterface_congr hshares.label ▸ hi) hne).imp_right
    declaresGroup_of_isSome

/-- The name of a type, looked up in the graph, leads to the one node of the type exactly if no
interface with the name was made before it. Otherwise it leads to such an interface, and there are
these only for groups of that name, where groups give interfaces. -/
theorem findByIdentity?_type_iff {set : SchemaSet} {options : Options} {naming : Naming}
    {resolver : Resolver} {g : Graph} (hset : set.namesTypes = true)
    (h : buildGraph set options naming resolver = .ok g) {n : QName} {doc : Document}
    {t : TypeDefinition}
    (hfirst : (Index.declaredTypes set).find? (fun x => x.2.name = some n) = some (doc, t)) :
    ∃ id node, g.node? id = some node ∧ node.identity = n ∧
      HasKind (.ofSet set options naming) n doc node.kind.label t ∧
      (∀ j, g.IsTypeNode n j ↔ j = id) ∧
      (g.findByIdentity? n = some id ↔ ∀ j, g.IsInterfaceFor n j → id < j) ∧
      (∃ j, g.findByIdentity? n = some j ∧ (j = id ∨ g.IsInterfaceFor n j)) ∧
      ∀ j, g.IsInterfaceFor n j → options.generateInterfaces = true ∧ set.DeclaresGroup n := by
  obtain ⟨s, hrun, rfl⟩ := exists_run h
  have hix := Index.lawful_ofSet set
  rw [← Index.type?_ofSet, Option.map_eq_some_iff] at hfirst
  obtain ⟨type, htype, he⟩ := hfirst
  cases he
  have hne := isEmpty_of_type? hset htype
  obtain ⟨id, hk⟩ := (run_ok hix hrun).2 n type htype hne
  obtain ⟨node, hnode, hn, hkind, hone⟩ :=
    (run_identified hset rfl hrun).exists_node hset rfl htype hk
  have hnamed := finished_named (run_listed hix hrun) hne
  refine ⟨id, node, hnode, hn, hkind, hone, Graph.findByIdentity?_iff hnamed hone, ?_,
    fun j hj => finished_declaresGroup (run_grouped hix hrun) hne hj⟩
  obtain ⟨j, hj⟩ := Graph.exists_findByIdentity? hnamed hnode hn
  obtain ⟨m, hm, hname⟩ := ((Graph.findByIdentity?_eq_some hnamed).1 hj).1
  exact ⟨j, hj, (Graph.named_cases hm hname).imp_left (hone j).1⟩

/-- A type without members. -/
def itemType : TypeDefinition := .complex { name := some (sampleName "Item") }

/-- A group with the name of the type. -/
def itemGroup : GroupDef := { name := sampleName "Item" }

/-- A type that refers to the group. -/
def itemUser : TypeDefinition := .complex
  { name := some (sampleName "T")
    particle := some (sampleSequence [.one (.groupRef (sampleName "Item"))]) }

theorem findByIdentity?_type_first :
    let set := sampleSet [itemType, itemUser] [itemGroup]
    set.namesTypes = true ∧ ∃ g, buildGraph set {} .conventional oneNamespace = .ok g ∧
      ∃ doc t, (Index.declaredTypes set).find? (fun x => x.2.name = some (sampleName "Item")) =
          some (doc, t) ∧
        ∃ id node, g.node? id = some node ∧ node.identity = sampleName "Item" ∧
          HasKind (.ofSet set {} .conventional) (sampleName "Item") doc node.kind.label t ∧
          (∀ j, g.IsTypeNode (sampleName "Item") j ↔ j = id) ∧
          (g.findByIdentity? (sampleName "Item") = some id ↔
            ∀ j, g.IsInterfaceFor (sampleName "Item") j → id < j) ∧
          (∃ j, g.findByIdentity? (sampleName "Item") = some j ∧
            (j = id ∨ g.IsInterfaceFor (sampleName "Item") j)) ∧
          ∀ j, g.IsInterfaceFor (sampleName "Item") j →
            ({} : Options).generateInterfaces = true ∧ set.DeclaresGroup (sampleName "Item") := by
  intro set
  have hset : set.namesTypes = true := by decide
  obtain ⟨g, h, -⟩ := exists_of_any (x := buildGraph set {} .conventional oneNamespace)
    (p := fun _ => true) (by decide +kernel)
  obtain ⟨⟨doc, t⟩, hfirst⟩ := Option.isSome_iff_exists.1 (show ((Index.declaredTypes set).find?
    fun x => x.2.name = some (sampleName "Item")).isSome = true by decide +kernel)
  exact ⟨hset, g, h, doc, t, hfirst, findByIdentity?_type_iff hset h hfirst⟩

/-- Where the reference to the group comes before the type, the name of the type leads to the
interface of the group. -/
theorem interface_before_type :
    let set := sampleSet [itemUser, itemType] [itemGroup]
    set.namesTypes = true ∧ ((Index.declaredTypes set).find?
      fun x => x.2.name = some (sampleName "Item")).isSome = true ∧
    ∃ g, buildGraph set {} .conventional oneNamespace = .ok g ∧
      ∃ j, g.findByIdentity? (sampleName "Item") = some j ∧
        ¬ g.IsTypeNode (sampleName "Item") j := by
  intro set
  refine ⟨by decide, by decide +kernel, ?_⟩
  obtain ⟨g, h, hp⟩ := exists_of_any (x := buildGraph set {} .conventional oneNamespace)
    (p := fun g => (g.findByIdentity? (sampleName "Item")).any fun j =>
      (g.node? j).any fun node => node.identity = sampleName "Item" && node.isInterface)
    (by decide +kernel)
  obtain ⟨j, hj, hnode⟩ := (Option.any_eq_true _ _).1 hp
  obtain ⟨node, hnode, hfacts⟩ := (Option.any_eq_true _ _).1 hnode
  rw [Bool.and_eq_true, decide_eq_true_eq] at hfacts
  exact ⟨g, h, j, hj, Graph.IsInterfaceFor.not_isTypeNode ⟨node, hnode, hfacts⟩⟩

end Build

end XmlTypes
