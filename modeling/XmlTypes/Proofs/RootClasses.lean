import XmlTypes.Proofs.ElementTypes
/-!
# Classes made for root elements

A class of its own is made for an element that shares its type with others. Such a class derives
from the class of the type and is never opened for members. It is the only one for its element, as
it is remembered under the name of the element.
-/

namespace XmlTypes.Build

open Schema

/-- A global element that has claimed the class of its type. -/
structure Claim where
  element : Global ElementDecl
  node : NodeId

/-- The name of the element. -/
def Claim.name (c : Claim) : QName := c.element.definition.name

/-- The key of the class that is made for an element. -/
def rootKey (g : Global ElementDecl) : CacheKey :=
  ⟨.rootElement, g.document.location, g.definition.name⟩

/-- The node is not opened. -/
def Unopened (s : State) (r : NodeId) : Prop := ∀ o ∈ s.journal, o.scope.owner ≠ r

/-- The class is made for the element of a claim, and derives from the class that is claimed. -/
structure MadeFor (s : State) (c : Claim) (r : NodeId) : Prop where
  node : ∃ n, s.graph.node? r = some n ∧ MadeForRoot c.name n
  base : s.graph.base? r = some c.node
  key : c.name.isEmpty = false → s.context.cache.get? (rootKey c.element) = some r

/-- The classes that are made for root elements are those for certain claims. -/
structure RootClasses (s : State) (claims : Claim → Prop) : Prop where
  roots : ∀ r n, s.graph.node? r = some n → n.isClass = true → n.IsRootClass →
    Unopened s r ∧ ∃ c, claims c ∧ MadeFor s c r
  made : ∀ c, claims c → ∃ r, MadeFor s c r
  keys : ∀ k id, k.kind = .rootElement → s.context.cache.get? k = some id →
    ∃ c, claims c ∧ k = rootKey c.element

variable {env : Environment} {s t u : State} {g : Global ElementDecl} {id r : NodeId} {c : Claim}
  {P : Claim → Prop}

/-! ## Steps that make no class -/

theorem OpenedFor.not_unopened {kind : Declared ComplexType → Prop} (h : OpenedFor s id kind) :
    ¬ Unopened s id := by
  obtain ⟨o, ho, howner, -⟩ := h
  exact fun hu => hu o ho howner

theorem Node.isClass_of_standing {m n : Node} (h : n.standing = m.standing) :
    n.isClass = m.isClass := by
  have hclass : n.class?.map (·.isAbstract) = m.class?.map (·.isAbstract) :=
    congrArg (·.2.2.2.2) h
  simpa [Node.isClass] using congrArg Option.isSome hclass

/-- Where a node has a standing, there is a node with it. -/
theorem exists_of_standing {g g' : Graph} {n : Node}
    (h : (g'.node? id).map Node.standing = (g.node? id).map Node.standing)
    (hn : g.node? id = some n) : ∃ n', g'.node? id = some n' ∧ n'.standing = n.standing := by
  rwa [hn, Option.map_some, Option.map_eq_some_iff] at h

theorem MadeForRoot.congr {e : QName} {m n : Node} (h : MadeForRoot e m)
    (hst : n.standing = m.standing) : MadeForRoot e n := by
  have hclass := Node.isClass_of_standing hst
  simp only [Node.standing, Prod.mk.injEq] at hst
  obtain ⟨hi, ha, hr, hr', -⟩ := hst
  exact ⟨⟨hi.trans h.isRootClass.1, ha.trans h.isRootClass.2⟩, hclass.trans h.isClass,
    hr.trans h.root, hr'.trans h.isAbstractRoot⟩

theorem MadeFor.mono (h : MadeFor s c r) (he : Extends s t)
    (hst : (t.graph.node? r).map Node.standing = (s.graph.node? r).map Node.standing) :
    MadeFor t c r where
  node := by
    obtain ⟨m, hm, hmade⟩ := h.node
    obtain ⟨n, hn, hst⟩ := exists_of_standing hst hm
    exact ⟨n, hn, hmade.congr hst⟩
  base := he.graph.base? h.base
  key hne := he.cache _ _ (h.key hne)

theorem RootClasses.congr {Q : Claim → Prop} (h : RootClasses s P) (hPQ : ∀ c, P c ↔ Q c) :
    RootClasses s Q := by
  obtain rfl : P = Q := funext fun c => propext (hPQ c)
  exact h

/-- A step that changes the standing of opened nodes only, and makes no class for a root element. -/
theorem RootClasses.frame (h : RootClasses s P) (he : Extends s t)
    (hst : ∀ r, r < s.graph.size → Unopened s r →
      (t.graph.node? r).map Node.standing = (s.graph.node? r).map Node.standing)
    (hnew : ∀ r n, t.graph.node? r = some n → s.graph.size ≤ r → ¬ n.IsRootClass)
    (hj : ∀ o ∈ t.journal, o ∈ s.journal ∨ s.graph.size ≤ o.scope.owner)
    (hkeys : ∀ k, k.kind = .rootElement → t.context.cache.get? k = s.context.cache.get? k) :
    RootClasses t P := by
  -- A class that is made for an element keeps its standing, as it is never opened.
  have hmade (c : Claim) (r : NodeId) (hu : Unopened s r) (hc : MadeFor s c r) :
      MadeFor t c r := by
    obtain ⟨n, hn, -⟩ := hc.node
    exact hc.mono he (hst r (Graph.lt_size_of_node? hn) hu)
  refine ⟨fun r n hn hclass hroot => ?_, fun c hc => ?_, fun k id hkind hk => ?_⟩
  · have hlt : r < s.graph.size := by
      rcases Nat.lt_or_ge r s.graph.size with hlt | hge
      · exact hlt
      · exact absurd hroot (hnew r n hn hge)
    obtain ⟨m, hm⟩ := Option.isSome_iff_exists.1 (Graph.node?_isSome.2 hlt)
    obtain ⟨n', hn', hgrows⟩ := he.graph.nodes r m hm
    obtain rfl := Option.some.inj (hn.symm.trans hn')
    rw [Node.isClass_congr hgrows.label] at hclass
    obtain ⟨hu, c, hc, hmade'⟩ := h.roots r m hm hclass (hgrows.isRootClass.1 hroot)
    refine ⟨fun o ho => ?_, c, hc, hmade c r hu hmade'⟩
    rcases hj o ho with ho | ho
    · exact hu o ho
    · exact Nat.ne_of_gt (Nat.lt_of_lt_of_le hlt ho)
  · obtain ⟨r, hr⟩ := h.made c hc
    obtain ⟨n, hn, hroot⟩ := hr.node
    exact ⟨r, hmade c r (h.roots r n hn hroot.isClass hroot.isRootClass).1 hr⟩
  · rw [hkeys k hkind] at hk
    exact h.keys k id hkind hk

/-- What builds types makes no class for a root element. -/
theorem RootClasses.build (h : RootClasses s P) (he : Evolves env none s t) (hq : Quiet s t) :
    RootClasses t P := by
  refine h.frame he.extend (fun r hr _ => hq.standing r hr) (fun r n hn hr hroot => ?_)
    (fun o ho => ?_) hq.rootKeys
  · -- A new node without a name is anonymous.
    have hanonymous := (hq.fresh r n hn hr).isAnonymous
    rw [hroot.1, hroot.2] at hanonymous
    cases hanonymous
  · exact (he.faithful nofun o ho).imp_right And.left

/-- A change of an opened node that is no concern of others. -/
theorem RootClasses.modify {f : Node → Node} (h : RootClasses s P) (he : Extends s t)
    (hid : ¬ Unopened s id) (hgraph : t.graph = s.graph.modify id f)
    (hcache : t.context.cache = s.context.cache) (hj : t.journal = s.journal) :
    RootClasses t P := by
  refine h.frame he (fun r _ hr => ?_) (fun r n hn hr => ?_) (fun o ho => .inl (hj ▸ ho))
    fun k _ => by rw [hcache]
  · rw [hgraph, Graph.node?_modify, if_neg (fun e : r = id => hid (e ▸ hr))]
  · have hlt := Graph.lt_size_of_node? hn
    rw [hgraph, Graph.size_modify] at hlt
    exact absurd hr (Nat.not_le.2 hlt)

/-! ## A class for a root element -/

/-- A class is made for the element of a claim, and nothing else is done. -/
structure Makes (env : Environment) (s t : State) (c : Claim) : Prop where
  evolves : Evolves env none s t
  size : t.graph.size = s.graph.size + 1
  standing : ∀ id, id < s.graph.size →
    (t.graph.node? id).map Node.standing = (s.graph.node? id).map Node.standing
  made : MadeFor t c s.graph.size
  journal : t.journal = s.journal
  roots : t.context.roots = s.context.roots
  keys : ∀ k id, t.context.cache.get? k = some id →
    s.context.cache.get? k = some id ∨ k = rootKey c.element

theorem Context.roots_remember (c : Context) (key : Option CacheKey) (place : Option Place)
    (id : NodeId) : (c.remember key place id).roots = c.roots := by
  cases key <;> cases place <;> rfl

theorem rootClass_makes {document : Document} (hmem : document ∈ env.index.documents)
    (hclass : (s.graph.class? id).isSome)
    (hdoc : document.location = g.document.location)
    (hnew : s.context.cache.get? (rootKey g) = none)
    (h : rootClass env id g.definition.name document s = .ok ((), t)) :
    Makes env s t ⟨g, id⟩ := by
  have he := rootClass_ok hmem hclass h
  rcases rootClass_cases hmem h with ⟨hfound, -⟩ | ⟨n, s₁, hcreate, hmade, rfl⟩
  · rw [hdoc] at hfound
    rw [show s.context.cache.get? ⟨.rootElement, g.document.location, g.definition.name⟩ = none
      from hnew] at hfound
    cases hfound
  rw [hdoc] at hcreate
  have hn : s₁.graph.node? s.graph.size = some n := by rw [hcreate.node?, if_pos rfl]
  have hstill := Graph.Still.setBase (g := s₁.graph) s.graph.size id
  refine ⟨he, hstill.size.trans hcreate.size, fun j hj => ?_, ⟨?_, ?_, ?_⟩, hcreate.journal, ?_,
    fun k j hk => ?_⟩
  · rw [hstill.standing, hcreate.node?, if_neg (Nat.ne_of_lt hj)]
  · obtain ⟨n', hn', hst⟩ := exists_of_standing (hstill.standing s.graph.size) hn
    exact ⟨n', hn', hmade.congr hst⟩
  · exact (Graph.base?_setBase (Graph.class?_isSome.2 ⟨n, hn, hmade.isClass⟩)).trans (if_pos rfl)
  · exact fun hne => hcreate.get?_key hne
  · exact (congrArg Context.roots hcreate.context).trans (Context.roots_remember _ _ _ _)
  · exact (hcreate.of_get? hk).imp_right fun ⟨he, _⟩ => (Option.some.inj he).symm

theorem Makes.isAbstractRoot_of_new (h : Makes env s t c) {j : NodeId} {n : Node}
    (hn : t.graph.node? j = some n) (hj : s.graph.size ≤ j) : n.isAbstractRoot = false := by
  have hlt := Graph.lt_size_of_node? hn
  rw [h.size] at hlt
  obtain rfl : j = s.graph.size := Nat.le_antisymm (Nat.le_of_lt_succ hlt) hj
  obtain ⟨m, hm, hroot⟩ := h.made.node
  obtain rfl := Option.some.inj (hn.symm.trans hm)
  exact hroot.isAbstractRoot

theorem RootClasses.makes (h : RootClasses s P) (hs : Sound env s) (hm : Makes env s t c) :
    RootClasses t fun c' => P c' ∨ c' = c := by
  have hold (c' : Claim) (r : NodeId) (hc : MadeFor s c' r) : MadeFor t c' r := by
    obtain ⟨n, hn, -⟩ := hc.node
    exact hc.mono hm.evolves.extend (hm.standing r (Graph.lt_size_of_node? hn))
  have hunopened {r : NodeId} (hu : Unopened s r) : Unopened t r := fun o ho =>
    hu o (hm.journal ▸ ho)
  refine ⟨fun r n hn hclass hroot => ?_, fun c' hc' => ?_, fun k j hkind hk => ?_⟩
  · rcases Nat.lt_or_ge r s.graph.size with hlt | hge
    · obtain ⟨m, hm'⟩ := Option.isSome_iff_exists.1 (Graph.node?_isSome.2 hlt)
      obtain ⟨n', hn', hgrows⟩ := hm.evolves.extend.graph.nodes r m hm'
      obtain rfl := Option.some.inj (hn.symm.trans hn')
      rw [Node.isClass_congr hgrows.label] at hclass
      obtain ⟨hu, c', hc', hmade⟩ := h.roots r m hm' hclass (hgrows.isRootClass.1 hroot)
      exact ⟨hunopened hu, c', .inl hc', hold c' r hmade⟩
    · -- The new class.
      have hlt := Graph.lt_size_of_node? hn
      rw [hm.size] at hlt
      obtain rfl : r = s.graph.size := Nat.le_antisymm (Nat.le_of_lt_succ hlt) hge
      refine ⟨hunopened fun o ho => ?_, c, .inr rfl, hm.made⟩
      obtain ⟨k, hk, -⟩ := hs.owners o ho
      exact Nat.ne_of_lt (Graph.lt_size_of_node? hk)
  · rcases hc' with hc' | rfl
    · obtain ⟨r, hr⟩ := h.made c' hc'
      exact ⟨r, hold c' r hr⟩
    · exact ⟨_, hm.made⟩
  · rcases hm.keys k j hk with hk | hk
    · obtain ⟨c', hc', hk⟩ := h.keys k j hkind hk
      exact ⟨c', .inl hc', hk⟩
    · exact ⟨c, .inr rfl, hk⟩

end XmlTypes.Build
