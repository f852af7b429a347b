import XmlTypes.Proofs.Invariants
import XmlTypes.Proofs.Values
/-!
# How classes and interfaces are filled

The owner of an opening gets its properties from the stops of one walk, in order: the first stop
with a name gives the property, and later ones find the name taken (`Filled`). Whatever is built on
the way fills owners of its own and leaves the others alone (`Builds`).
-/

namespace XmlTypes.Build

open Schema

/-! ## Owners that are filled -/

/-- The stop is the first with its name, it is not restated, and `p` is its property. -/
structure Gives (env : Environment) (s : State) (r : Opening) (stops : List Stop) (m : Stop)
    (p : Property) : Prop where
  first : stops.find? (·.key = m.key) = some m
  free : m.key ∉ r.scope.restated
  property : ∃ type order, m.HasType env s type ∧ p = m.property env r.scope type order

/-- What the owner of an opening has got once the walk has made the given stops. -/
structure Filled (env : Environment) (s : State) (r : Opening) (stops : List Stop) : Prop where
  held : ∀ m ∈ stops, Held env s r.scope m.member
  arises : ∀ p ∈ s.graph.properties r.scope.owner,
    p.isWildcard = true ∧ p.substitutes = [] ∨ ∃ m, Gives env s r stops m p
  /-- The properties for references to the heads of substitution groups, and no others, wait for
  members. -/
  sites : ∀ head, ⟨r.scope.owner, head⟩ ∈ s.context.substitutions.sites ↔
    env.index.substitutionMembers head ≠ [] ∧ ∃ p ∈ s.graph.properties r.scope.owner,
      ∃ m, Gives env s r stops m p ∧ m.RefersTo head
  placed : ∀ p ∈ s.graph.properties r.scope.owner, ∀ m, Gives env s r stops m p →
    m.PlacedAs env s p.type
  /-- The type of a member is built even if the member gives nothing because of its name. -/
  typed : ∀ m ∈ stops, m.key ∉ r.scope.restated → ∃ v, m.PlacedAs env s v

/-- The target namespace of the document that holds a definition. -/
def Source.targetNamespace : Source → Option String
  | .type d => d.document.targetNamespace
  | .group d => d.document.targetNamespace
  | .attributeGroup d => d.document.targetNamespace

/-- The owner of an opening has got all that the walk along its definition gives. -/
structure Complete (env : Environment) (s : State) (r : Opening) : Prop where
  target : r.scope.targetNamespace = r.source.targetNamespace
  filled : ∃ stops, r.Along env.index stops ∧ Filled env s r stops

/-! ## What a part of a construction leaves alone -/

/-- A state from which a construction can go on. -/
structure Ready (env : Environment) (s : State) : Prop extends Valued env s where
  waiting : ∀ x ∈ s.context.substitutions.sites, s.graph.properties x.owner ≠ []
  owners : ∀ r ∈ s.journal, r.scope.owner < s.graph.size

theorem Ready.lt_size {env : Environment} {s : State} {x : Site} (hs : Ready env s)
    (hx : x ∈ s.context.substitutions.sites) : x.owner < s.graph.size := by
  obtain ⟨p, hp⟩ := List.exists_mem_of_ne_nil _ (hs.waiting x hx)
  obtain ⟨n, hn, -⟩ := Graph.hasMembers_of_mem hp
  exact Graph.lt_size_of_node? hn

/-- What a part of a construction does to the nodes that are there already: at most `head` gets a
base, and at most `owner` gets properties. What is opened is filled by the end. -/
structure Builds (env : Environment) (head owner : Option NodeId) (s t : State) : Prop where
  extend : Extends s t
  ready : Ready env t
  known : ∀ id, owner = some id → id < s.graph.size
  active : t.context.active = s.context.active
  members : t.context.substitutions.members = s.context.substitutions.members
  abstractMembers :
    t.context.substitutions.abstractMembers = s.context.substitutions.abstractMembers
  base : ∀ id < s.graph.size, head ≠ some id → t.graph.base? id = s.graph.base? id
  properties : ∀ id < s.graph.size, owner ≠ some id →
    t.graph.properties id = s.graph.properties id
  sites : ∀ x : Site, x.owner < s.graph.size → owner ≠ some x.owner →
    (x ∈ t.context.substitutions.sites ↔ x ∈ s.context.substitutions.sites)
  journal : ∀ r ∈ t.journal, r ∈ s.journal ∨
    s.graph.size ≤ r.scope.owner ∧ r.scope.owner < t.graph.size ∧ Complete env t r

variable {env : Environment} {s t u : State} {r : Opening} {scope scope' : Scope}
  {stops : List Stop} {head owner : Option NodeId} {m : Stop} {p : Property}

/-! ### Over several parts -/

theorem Yields.mono {d : Declared TypeRef} {type : Resolved} (h : Yields env s d type)
    (he : Extends s t) : Yields env t d type := by
  unfold Yields at h ⊢
  cases hv : valueIn env d.document d.definition with
  | some value => simpa only [hv] using h
  | none =>
    simp only [hv] at h ⊢
    obtain ⟨hnode, id, hid, hplace⟩ := h
    exact ⟨hnode, id, hid, fun t ht => he.inlineTypes _ _ (hplace t ht)⟩

theorem Stop.HasType.mono {type : Resolved} (h : m.HasType env s type) (he : Extends s t) :
    m.HasType env t type := by
  unfold Stop.HasType at h ⊢
  cases hd : m.typeRef? with
  | none => simpa only [hd] using h
  | some d =>
    simp only [hd] at h ⊢
    exact Yields.mono h he

theorem ComesTo.mono {d : Declared TypeRef} {type : Resolved} (h : ComesTo env s d type)
    (he : Extends s t) : ComesTo env t d type :=
  ⟨h.yields.mono he, h.placed.mono he⟩

theorem Stop.PlacedAs.mono {v : ValueType} (h : m.PlacedAs env s v) (he : Extends s t) :
    m.PlacedAs env t v :=
  fun d hd => (h d hd).mono he

namespace Gives

theorem mono (h : Gives env s r stops m p) (he : Extends s t) : Gives env t r stops m p := by
  obtain ⟨type, order, htype, hp⟩ := h.property
  exact ⟨h.first, h.free, type, order, htype.mono he, hp⟩

/-- What comes later does not matter. -/
theorem append (h : Gives env s r stops m p) (rest : List Stop) :
    Gives env s r (stops ++ rest) m p :=
  ⟨by rw [List.find?_append, h.first, Option.some_or], h.free, h.property⟩

theorem isWildcard (h : Gives env s r stops m p) : p.isWildcard = false := by
  obtain ⟨_, _, -, rfl⟩ := h.property
  exact Stop.isWildcard_property

/-- The property tells which stop gives it. -/
theorem unique {m' : Stop} (h : Gives env s r stops m p) (h' : Gives env t r stops m' p) :
    m = m' := by
  obtain ⟨_, _, -, hp⟩ := h.property
  obtain ⟨_, _, -, hp'⟩ := h'.property
  have hkey : m.key = m'.key := by
    refine Prod.ext ?_ ?_
    · rw [← Stop.schemaName_property, ← hp, hp', Stop.schemaName_property]
    · rw [← Stop.isAttribute_property, ← hp, hp', Stop.isAttribute_property]
  have hfirst := h.first
  rw [hkey, h'.first] at hfirst
  exact (Option.some.inj hfirst).symm

end Gives

/-- A property that was there before comes from the same stop as before. -/
theorem Filled.gives_iff {stops' : List Stop} (h : Filled env s r stops)
    (hmono : ∀ m, Gives env s r stops m p → Gives env t r stops' m p)
    (hp : p ∈ s.graph.properties r.scope.owner) :
    Gives env t r stops' m p ↔ Gives env s r stops m p := by
  refine ⟨fun hm => ?_, hmono m⟩
  rcases h.arises p hp with ⟨hw, -⟩ | ⟨m', hm'⟩
  · exact absurd (hm.isWildcard.symm.trans hw) Bool.false_ne_true
  · exact hm.unique (hmono m' hm') ▸ hm'

/-- What an owner has got stays the same while others are filled. -/
theorem Filled.keep (h : Filled env s r stops) (he : Extends s t)
    (hprops : t.graph.properties r.scope.owner = s.graph.properties r.scope.owner)
    (hsites : ∀ head, ⟨r.scope.owner, head⟩ ∈ t.context.substitutions.sites ↔
      ⟨r.scope.owner, head⟩ ∈ s.context.substitutions.sites) : Filled env t r stops where
  held m hm := (h.held m hm).mono he
  arises p hp := (h.arises p (hprops ▸ hp)).imp_right fun ⟨m, hm⟩ => ⟨m, hm.mono he⟩
  sites head := by
    rw [hsites, h.sites, hprops]
    refine and_congr_right fun _ => exists_congr fun p => and_congr_right fun hp =>
      exists_congr fun m => and_congr_left fun _ => ?_
    exact (h.gives_iff (fun _ hm => hm.mono he) hp).symm
  placed p hp m hm := by
    rw [hprops] at hp
    exact (h.placed p hp m ((h.gives_iff (fun _ hm => hm.mono he) hp).1 hm)).mono he
  typed m hm hfree := (h.typed m hm hfree).imp fun _ hv => hv.mono he

theorem Complete.keep (h : Complete env s r) (he : Extends s t)
    (hprops : t.graph.properties r.scope.owner = s.graph.properties r.scope.owner)
    (hsites : ∀ head, ⟨r.scope.owner, head⟩ ∈ t.context.substitutions.sites ↔
      ⟨r.scope.owner, head⟩ ∈ s.context.substitutions.sites) : Complete env t r := by
  obtain ⟨stops, halong, hfilled⟩ := h.filled
  exact ⟨h.target, stops, halong, hfilled.keep he hprops hsites⟩

namespace Builds

theorem refl (hs : Ready env s) (hknown : ∀ id, owner = some id → id < s.graph.size) :
    Builds env head owner s s where
  extend := .refl s
  ready := hs
  known := hknown
  active := rfl
  members := rfl
  abstractMembers := rfl
  base _ _ _ := rfl
  properties _ _ _ := rfl
  sites _ _ _ := .rfl
  journal _ hr := .inl hr

theorem size_le (h : Builds env head owner s t) : s.graph.size ≤ t.graph.size :=
  h.extend.graph.size

/-- What is complete stays so. -/
theorem complete (h : Builds env head owner s t) (hr : Complete env s r)
    (hlt : r.scope.owner < s.graph.size) (hne : owner ≠ some r.scope.owner) :
    Complete env t r :=
  hr.keep h.extend (h.properties _ hlt hne) fun _ => h.sites _ hlt hne

theorem filled (h : Builds env head owner s t) (hr : Filled env s r stops)
    (hlt : r.scope.owner < s.graph.size) (hne : owner ≠ some r.scope.owner) :
    Filled env t r stops :=
  hr.keep h.extend (h.properties _ hlt hne) fun _ => h.sites _ hlt hne

/-- It is no matter if more might have been changed. -/
theorem weaken (h : Builds env none none s t) (hknown : ∀ id, owner = some id → id < s.graph.size) :
    Builds env head owner s t :=
  { h with
    known := hknown
    base := fun id hid _ => h.base id hid nofun
    properties := fun id hid _ => h.properties id hid nofun
    sites := fun x hx _ => h.sites x hx nofun }

theorem trans (h : Builds env head owner s t) (h' : Builds env head owner t u) :
    Builds env head owner s u where
  extend := h.extend.trans h'.extend
  ready := h'.ready
  known := h.known
  active := h'.active.trans h.active
  members := h'.members.trans h.members
  abstractMembers := h'.abstractMembers.trans h.abstractMembers
  base id hid hne :=
    (h'.base id (Nat.lt_of_lt_of_le hid h.size_le) hne).trans (h.base id hid hne)
  properties id hid hne :=
    (h'.properties id (Nat.lt_of_lt_of_le hid h.size_le) hne).trans (h.properties id hid hne)
  sites x hx hne :=
    (h'.sites x (Nat.lt_of_lt_of_le hx h.size_le) hne).trans (h.sites x hx hne)
  journal r hr := by
    rcases h'.journal r hr with hr | ⟨hl, hu, hc⟩
    · refine (h.journal r hr).imp_right fun ⟨hl, ht, hc⟩ => ?_
      -- The owner is old, and what is opened is new.
      have hne : owner ≠ some r.scope.owner := fun e => absurd (h.known _ e) (Nat.not_lt.2 hl)
      exact ⟨hl, Nat.lt_of_lt_of_le ht h'.size_le, h'.complete hc ht hne⟩
    · exact .inr ⟨Nat.le_trans h.size_le hl, hu, hc⟩

/-- Nothing of what was there before has changed if the base that is set is that of a new node. -/
theorem ofNew {id : NodeId} (h : Builds env none none s t) (h' : Builds env (some id) none t u)
    (hid : s.graph.size ≤ id) : Builds env none none s u where
  extend := h.extend.trans h'.extend
  ready := h'.ready
  known := nofun
  active := h'.active.trans h.active
  members := h'.members.trans h.members
  abstractMembers := h'.abstractMembers.trans h.abstractMembers
  base j hj _ := by
    have hne : some id ≠ some j := fun e =>
      absurd hj (Nat.not_lt.2 (Option.some.inj e ▸ hid))
    exact (h'.base j (Nat.lt_of_lt_of_le hj h.size_le) hne).trans (h.base j hj nofun)
  properties j hj hne :=
    (h'.properties j (Nat.lt_of_lt_of_le hj h.size_le) hne).trans (h.properties j hj hne)
  sites x hx hne :=
    (h'.sites x (Nat.lt_of_lt_of_le hx h.size_le) hne).trans (h.sites x hx hne)
  journal r hr := by
    rcases h'.journal r hr with hr | ⟨hl, hu, hc⟩
    · exact (h.journal r hr).imp_right fun ⟨hl, ht, hc⟩ =>
        ⟨hl, Nat.lt_of_lt_of_le ht h'.size_le, h'.complete hc ht nofun⟩
    · exact .inr ⟨Nat.le_trans h.size_le hl, hu, hc⟩

/-- What is opened on the way belongs to new nodes. -/
theorem unopened (h : Builds env head owner s t) {id : NodeId} (hid : id < s.graph.size)
    (hno : ∀ r ∈ s.journal, r.scope.owner ≠ id) : ∀ r ∈ t.journal, r.scope.owner ≠ id := by
  intro r hr e
  rcases h.journal r hr with hr | ⟨hl, -, -⟩
  · exact hno r hr e
  · exact absurd hid (Nat.not_lt.2 (e ▸ hl))

/-! ### Parts that add no property -/

/-- A change of the graph that no property and no other base is touched by, and of what is
remembered. -/
theorem step (hs : Ready env s) (he : Extends s t) (hvalued : Valued env t)
    (hj : t.journal = s.journal)
    (hsubstitutions : t.context.substitutions = s.context.substitutions)
    (hactive : t.context.active = s.context.active)
    (hbase : ∀ id < s.graph.size, head ≠ some id → t.graph.base? id = s.graph.base? id)
    (hprops : ∀ id < s.graph.size, t.graph.properties id = s.graph.properties id) :
    Builds env head none s t where
  extend := he
  ready :=
    { toValued := hvalued
      waiting := fun x hx => he.graph.properties_ne_nil (hs.waiting x (hsubstitutions ▸ hx))
      owners := fun r hr => Nat.lt_of_lt_of_le (hs.owners r (hj ▸ hr)) he.graph.size }
  known := nofun
  active := hactive
  members := by rw [hsubstitutions]
  abstractMembers := by rw [hsubstitutions]
  base := hbase
  properties id hid _ := hprops id hid
  sites x _ _ := by rw [hsubstitutions]
  journal r hr := .inl (hj ▸ hr)

end Builds

/-- What is remembered stays right if nothing new is remembered. -/
theorem Valued.congr (h : Valued env s) (hc : t.context.cache = s.context.cache)
    (hi : t.context.inlineTypes = s.context.inlineTypes) : Valued env t := by
  have hcomes {d : Declared TypeRef} {type : Resolved} (hd : ComesTo env s d type) :
      ComesTo env t d type := by
    refine ⟨?_, hd.placed.node, fun type id hdef hname hv => ?_⟩
    · have hyields := hd.yields
      unfold Yields Context.inlineType? at hyields ⊢
      rwa [hi]
    · rw [Context.inlineType?, hi]
      exact hd.placed.place type id hdef hname hv
  refine ⟨fun p id hp => h.places p id ?_, fun k id hk hid g r hg hr => ?_,
    fun k id hk hid g r hg hr => ?_⟩
  · rwa [Context.inlineType?, ← hi]
  · exact hcomes (h.elements k id hk (hc ▸ hid) g r hg hr)
  · exact hcomes (h.attributes k id hk (hc ▸ hid) g r hg hr)

theorem Extends.noted (s : State) (scope : Scope) (source : Source) :
    Extends s (s.noted scope source) :=
  ⟨.refl _, fun _ _ h => h, fun _ _ h => h, List.subset_cons_self _ _⟩

theorem Extends.of_graph {g : Graph} (h : s.graph.Grows g) : Extends s { s with graph := g } :=
  ⟨h, fun _ _ hk => hk, fun _ _ hp => hp, List.Subset.refl _⟩

namespace Builds

/-- A change of nodes that is no concern of types and members. -/
theorem modify {f : Node → Node} {id : NodeId} (hs : Ready env s) (hf : ∀ n : Node, n.Keeps (f n)) :
    Builds env none none s { s with graph := s.graph.modify id f } :=
  step hs (.of_graph (.modify fun m _ => (hf m).grows)) (hs.toValued.congr rfl rfl) rfl rfl rfl
    (fun _ _ _ => Graph.base?_congr (Graph.bind_node?_modify _ fun _ n => (hf n).base))
    fun _ _ => Graph.properties_modify fun n => (hf n).properties

theorem text {id : NodeId} {v : ValueType} (hs : Ready env s) (h : setText id v s = .ok ((), t)) :
    Builds env none none s t := by
  rw [setText_ok.1 h]
  exact modify hs fun n => n.setText_keeps v

/-- A class gets its base. -/
theorem setBase {id b : NodeId} (hs : Ready env s) (hnone : s.graph.base? id = none) :
    Builds env (some id) none s { s with graph := s.graph.setBase id b } := by
  refine step hs (.of_graph (.setBase hnone)) (hs.toValued.congr rfl rfl) rfl rfl rfl
    (fun j _ hne => ?_) fun _ _ => Graph.properties_setBase _ _ _
  have hd : j ≠ id := fun e => hne (congrArg some e.symm)
  exact Graph.base?_congr (Graph.bind_node?_setBase _ hd fun n f hb _ => n.base?_mapClass f hb)

theorem addImplementer (hs : Ready env s) (interface implementer : NodeId) :
    Builds env none none s { s with graph := s.graph.addImplementer interface implementer } :=
  step hs (.of_graph (.addImplementer _ _)) (hs.toValued.congr rfl rfl) rfl rfl rfl
    (fun _ _ _ => Graph.base?_addImplementer _ _ _)
    fun _ _ => Graph.properties_addImplementer _ _ _

/-- A node is added. -/
theorem adds {n : Node} (hs : Ready env s) (h : Adds n s t) : Builds env none none s t := by
  have hnode {id : NodeId} (hid : id < s.graph.size) : t.graph.node? id = s.graph.node? id := by
    rw [Graph.node?_of_push h.nodes, if_neg (Nat.ne_of_lt hid)]
  refine step hs ⟨.push h.nodes, fun _ _ hk => ?_, fun _ _ hp => ?_, ?_⟩
    (hs.toValued.congr ?_ ?_) h.journal ?_ ?_ (fun id hid _ => ?_) fun id hid => ?_
  · rwa [h.context]
  · rwa [h.context]
  · exact h.journal ▸ List.Subset.refl _
  · rw [h.context]
  · rw [h.context]
  · rw [h.context]
  · rw [h.context]
  · exact Graph.base?_congr (by rw [hnode hid])
  · rw [Graph.properties_eq, hnode hid]
    rfl

/-- A node is remembered under a key. -/
theorem recordNamed {key : CacheKey} {id : NodeId} (hs : Ready env s)
    (helement : key.kind = .elementType → ∀ g r, env.index.element? key.name = some g →
      g.definition.typeRef = some r →
      ComesTo env s ((Declared.ofGlobal .elements g).part .type r) (.node id))
    (hattribute : key.kind = .attributeType → ∀ g r, env.index.attribute? key.name = some g →
      g.definition.typeRef = some r →
      ComesTo env s ((Declared.ofGlobal .attributes g).part .type r) (.node id)) :
    Builds env none none s { s with context := s.context.recordNamed key id } := by
  have he : Extends s { s with context := s.context.recordNamed key id } :=
    ⟨.refl _, fun _ _ hk => Cache.get?_insert_of_some hk, fun _ _ h => h, List.Subset.refl _⟩
  refine step hs he ⟨hs.places, fun k j hkind hk g r hg hr => ?_, fun k j hkind hk g r hg hr => ?_⟩
    rfl rfl rfl (fun _ _ _ => rfl) fun _ _ => rfl
  · rcases Cache.of_get?_insert hk with hk | ⟨rfl, rfl⟩
    · exact (hs.elements k j hkind hk g r hg hr).mono he
    · exact (helement hkind g r hg hr).mono he
  · rcases Cache.of_get?_insert hk with hk | ⟨rfl, rfl⟩
    · exact (hs.attributes k j hkind hk g r hg hr).mono he
    · exact (hattribute hkind g r hg hr).mono he

/-- A node is remembered for a definition that comes to a node. -/
theorem recordInline {p : Place} {id : NodeId} (hs : Ready env s)
    (hplace : ∀ d : Declared TypeRef, Belongs env.index (.reference d) → d.place = p →
      NodeIn env d.document d.definition) :
    Builds env none none s { s with context := s.context.recordInline p id } := by
  have he : Extends s { s with context := s.context.recordInline p id } :=
    ⟨.refl _, fun _ _ h => h, fun _ _ hp => Table.get?_insertNew_of_some hp, List.Subset.refl _⟩
  refine step hs he ⟨fun q j hq d hd hdq => ?_, fun k j hkind hk g r hg hr => ?_,
    fun k j hkind hk g r hg hr => ?_⟩ rfl rfl rfl (fun _ _ _ => rfl) fun _ _ => rfl
  · rcases Table.of_get?_insertNew hq with hq | ⟨rfl, -⟩
    · exact hs.places q j hq d hd hdq
    · exact hplace d hd hdq
  · exact (hs.elements k j hkind hk g r hg hr).mono he
  · exact (hs.attributes k j hkind hk g r hg hr).mono he

/-- A group is expanded. -/
theorem expanding {name : QName}
    (h : Builds env none owner { s with context := s.context.enter name } t) :
    Builds env none owner s { t with context := t.context.leave } where
  extend := ((Moves.enter name : Moves env s _).extend.trans h.extend).trans
    (Moves.leave env).extend
  ready :=
    { toValued := h.ready.toValued.congr rfl rfl
      waiting := h.ready.waiting
      owners := h.ready.owners }
  known := h.known
  active := by
    change t.context.active.dropLast = s.context.active
    rw [h.active]
    exact List.dropLast_concat
  members := h.members
  abstractMembers := h.abstractMembers
  base := h.base
  properties := h.properties
  sites := h.sites
  journal r hr := (h.journal r hr).imp_right fun ⟨hl, hu, hc⟩ =>
    ⟨hl, hu, hc.keep (Moves.leave env).extend rfl fun _ => .rfl⟩

/-- A new class or interface is opened and filled. -/
theorem opened {source : Source} (h : Builds env none none s t)
    (hnew : s.graph.size ≤ scope.owner)
    (hno : ∀ r ∈ t.journal, r.scope.owner ≠ scope.owner)
    (h' : Builds env none (some scope.owner) (t.noted scope source) u)
    (hc : Complete env u
      ⟨scope, source, t.context.active, t.graph.inheritedProperties scope.owner⟩) :
    Builds env none none s u := by
  have hlt : scope.owner < t.graph.size := h'.known _ rfl
  have hnoted := Extends.noted t scope source
  have hold {id : NodeId} (hid : id < s.graph.size) : some scope.owner ≠ some id := fun e =>
    absurd hid (Nat.not_lt.2 (Option.some.inj e ▸ hnew))
  refine ⟨(h.extend.trans hnoted).trans h'.extend, h'.ready, nofun, h'.active.trans h.active,
    h'.members.trans h.members, h'.abstractMembers.trans h.abstractMembers, fun id hid hne => ?_,
    fun id hid hne => ?_, fun x hx hne => ?_, fun r hr => ?_⟩
  · exact (h'.base id (Nat.lt_of_lt_of_le hid h.size_le) nofun).trans (h.base id hid hne)
  · exact (h'.properties id (Nat.lt_of_lt_of_le hid h.size_le) (hold hid)).trans
      (h.properties id hid hne)
  · exact (h'.sites x (Nat.lt_of_lt_of_le hx h.size_le) (hold hx)).trans (h.sites x hx hne)
  · have hsize : t.graph.size ≤ u.graph.size := h'.size_le
    rcases h'.journal r hr with hr | ⟨hl, hu, hc⟩
    · rcases List.mem_cons.1 hr with rfl | hr
      · exact .inr ⟨hnew, Nat.lt_of_lt_of_le hlt hsize, hc⟩
      · refine (h.journal r hr).imp_right fun ⟨hl, ht, hc⟩ =>
          ⟨hl, Nat.lt_of_lt_of_le ht hsize, ?_⟩
        have hne : some scope.owner ≠ some r.scope.owner := fun e =>
          hno r hr (Option.some.inj e).symm
        exact h'.complete (hc.keep hnoted rfl fun _ => .rfl) ht hne
    · exact .inr ⟨Nat.le_trans h.size_le hl, hu, hc⟩

end Builds

/-- The state after the opening is a state from which the construction can go on. -/
theorem Ready.noted {source : Source} (hs : Ready env s) (hlt : scope.owner < s.graph.size) :
    Ready env (s.noted scope source) where
  toValued := hs.toValued.congr rfl rfl
  waiting := hs.waiting
  owners r hr := by
    rcases List.mem_cons.1 hr with rfl | hr
    · exact hlt
    · exact hs.owners r hr

theorem Ready.enter (hs : Ready env s) (name : QName) :
    Ready env { s with context := s.context.enter name } where
  toValued := hs.toValued.congr rfl rfl
  waiting := hs.waiting
  owners := hs.owners

end XmlTypes.Build
