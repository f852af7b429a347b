import XmlTypes.Proofs.Evolution
import XmlTypes.Proofs.FreshNames
/-!
# What type references build

Every way from a reference to a type is a part of a construction that `Evolves` describes, and what
it comes to is the node of the type. The ways down are taken on trust here, as `Calls.Sound` says
what they do; `Calls.sound_callsUpTo` makes good for it.
-/

namespace XmlTypes.Build

open Schema

variable {env : Environment} {s t : State}

theorem Evolves.rfl {head : Option NodeId} : Evolves env head s s := .nested .refl

/-! ## Ways down -/

/-- Two scopes differ in what changes on the way only. -/
structure Scope.Alike (a b : Scope) : Prop where
  owner : a.owner = b.owner
  ownerName : a.ownerName = b.ownerName
  targetNamespace : a.targetNamespace = b.targetNamespace
  restated : a.restated = b.restated

/-- The identity and the key of the class for a definition: those of its name, or for a type given
in place at most the key of its element. -/
inductive Keyed (ix : Index) (d : Declared ComplexType) :
    (identity : QName) → Option CacheKey → Prop
  | named {name} : d.definition.name = some name →
      Keyed ix d name (some ⟨.complexType, d.location, name⟩)
  | inPlace {key} : d.place.steps ≠ [] →
      (∀ k, key = some k → k.kind = .elementType ∧ Keys ix d k) → Keyed ix d .anonymous key

/-- A class that is created on the way from `s` to `t`, with the identity, and opened for the
definition. -/
structure NewClass (s t : State) (d : Declared ComplexType) (identity : QName) (id : NodeId) :
    Prop where
  fresh : s.graph.size ≤ id
  opened : OpenedFor t id (· = d)
  identity : ∃ n, t.graph.node? id = some n ∧ n.identity = identity

/-- The class that a way down comes to is remembered, under the key or for the place of the
definition, or it is a new one. -/
def Reaches (s t : State) (d : Declared ComplexType) (identity : QName) (key : Option CacheKey)
    (id : NodeId) : Prop :=
  (∃ k, key = some k ∧ s.context.cache.get? k = some id) ∨
    s.context.inlineType? d.place = some id ∨ NewClass s t d identity id

/-- Members begin to be collected, or are being collected, for the opening `r`. -/
structure Collecting (env : Environment) (s : State) (r : Opening) (scope : Scope) : Prop where
  sound : Sound env s
  opened : r ∈ s.journal
  alike : scope.Alike r.scope

/-- What collecting some members and wildcards for the opening `r` does: in the end the owner holds
them, but an attribute wildcard of a group is only kept in mind. -/
structure Collects (env : Environment) (s t : State) (r : Opening) (scope scope' : Scope)
    (members : Member → Prop) (elements attributes : Prop) : Prop where
  evolves : Evolves env none s t
  alike : scope'.Alike r.scope
  held : ∀ m, members m → Held env t r.scope m
  anyElement : elements → HoldsAny t r.scope.owner false
  anyAttribute : scope'.anyAttribute = true ↔ scope.anyAttribute = true ∨ attributes

theorem Collects.imp {r : Opening} {scope scope' : Scope} {P Q : Member → Prop}
    {elements attributes elements' attributes' : Prop}
    (h : Collects env s t r scope scope' P elements attributes) (hPQ : ∀ m, Q m → P m)
    (he : elements' → elements) (ha : attributes' ↔ attributes) :
    Collects env s t r scope scope' Q elements' attributes' :=
  ⟨h.evolves, h.alike, fun m hm => h.held m (hPQ m hm), fun hany => h.anyElement (he hany),
    h.anyAttribute.trans (or_congr_right ha.symm)⟩

/-- The ways down do what they are for. -/
structure Calls.Sound (env : Environment) (c : Calls) : Prop where
  classNode : ∀ {d identity candidate key s id t}, Build.Sound env s → Belongs env.index (.type d) →
    Sought env.index s.journal d → Keyed env.index d identity key →
    (identity.isEmpty = false → candidate = env.naming.complexType identity "") →
    c.classNode d identity candidate key s = .ok (id, t) →
    Evolves env none s t ∧ t.graph.IsValue (.node id) ∧
      (d.place.steps = [] → (t.graph.class? id).isSome ∧
        ∀ k, key = some k → k.name.isEmpty = false → t.context.cache.get? k = some id) ∧
    Reaches s t d identity key id
  particle : ∀ {r scope d outer compositor s scope' t}, Collecting env s r scope →
    Belongs env.index (.particle d) →
    (∀ m, InParticle env.index s.context.active d outer m → r.Has env.index m) →
    (AnyInParticle env.index s.context.active d outer → r.HasAny env.index false) →
    c.particle scope d outer compositor s = .ok (scope', t) →
    Collects env s t r scope scope' (InParticle env.index s.context.active d outer)
      (AnyInParticle env.index s.context.active d outer) False
  attributes : ∀ {r scope d s scope' t}, Collecting env s r scope →
    Belongs env.index (.entries d) →
    (∀ m, InEntries env.index s.context.active d m → r.Has env.index m) →
    c.attributes scope d s = .ok (scope', t) →
    Collects env s t r scope scope' (InEntries env.index s.context.active d) False
      (AnyInEntries env.index s.context.active d)

/-- The class of a type given in place without a name is the one that is remembered for its
place. -/
theorem Reaches.placed {d : Declared ComplexType} {identity : QName} {id : NodeId}
    (ht : Sound env t) (he : Extends s t) (h : Reaches s t d identity none id)
    (hn : d.definition.name = none) : t.context.inlineType? d.place = some id := by
  rcases h with ⟨k, hk, -⟩ | hfound | ⟨-, ⟨r, hr, rfl, d', hd', rfl⟩, -⟩
  · cases hk
  · exact he.inlineTypes _ _ hfound
  · exact ht.opened r hr _ hd' hn

/-! ## New nodes -/

section
variable {document : Document} {identity : QName} {hint : String} {kind : NodeKind} {n : Node}
  (h : Made env document hint s identity kind n)
include h

theorem Made.not_taken : s.graph.isTaken env.reserved n.space
    (if identity.isEmpty then document.targetNamespace else identity.uri) identity.isEmpty n.name =
      false := by
  rw [h.name]
  exact Graph.uniqueTypeName_free _ _ _ _ _ _

/-- A new node has a name that no other node of its namespace has. -/
theorem Made.free : s.graph.find? n.space n.name = none := by
  have hfree := h.not_taken
  rw [Graph.isTaken, Bool.or_eq_false_iff, Table.contains_eq, Graph.get?_typesIn] at hfree
  simpa using hfree.1

/-- Without a name in the schema it gets no name that is reserved. -/
theorem Made.unreserved (hempty : identity.isEmpty = true) : Unreserved env document n.name := by
  have hfree := h.not_taken
  rw [Graph.isTaken, Bool.or_eq_false_iff, hempty, if_pos rfl, Bool.true_and] at hfree
  exact hfree.2

/-- With one it gets its candidate unless that is the name of a node. -/
theorem Made.candidate (hname : identity.isEmpty = false) :
    n.name = hint ∨ (s.graph.find? n.space hint).isSome = true := by
  rw [or_iff_not_imp_right, Bool.not_eq_true]
  intro hfree
  have hname' := h.name
  rwa [Graph.uniqueTypeName_of_free] at hname'
  rw [Graph.isTaken, Table.contains_eq, Graph.get?_typesIn, hfree, hname]
  rfl

/-- A new node for a declaration is named as it should be. -/
theorem Made.named {key : Option CacheKey} {place : Option Place}
    (hhint : identity.isEmpty = false → ∀ c, n.candidate? env.naming = some c → c = hint)
    (hplace : ∀ p, place = some p → identity = .anonymous ∧ ∃ r : Declared TypeRef,
      Belongs env.index (.reference r) ∧ r.place = p ∧ r.document = document)
    (hroot : ∀ l q, key ≠ some ⟨.rootElement, l, q⟩)
    (hmisnamed : identity.isEmpty = true → place.isSome = true ∨ Misnamed env.index) :
    FreshlyNamed env s n key place where
  free := h.free
  candidate hname c hc := by
    rw [h.identity] at hname
    exact hhint hname c hc ▸ h.candidate hname
  inPlace p hp := by
    obtain ⟨rfl, r, hr, hrp, rfl⟩ := hplace p hp
    exact ⟨h.isAnonymous.trans rfl, r, hr, hrp, h.unreserved rfl⟩
  root l q hk := absurd hk (hroot l q)
  anonymous ha := by
    rw [h.isAnonymous] at ha
    exact h.identity ▸ ha
  unnamed hempty := .inr (hmisnamed (h.identity ▸ hempty))

end

/-- The class for a definition is named as it should be, if it is remembered for its place exactly
if it has no name. -/
theorem Made.named_of_keyed {d : Declared ComplexType} {identity : QName} {candidate : String}
    {shape : ClassShape} {n : Node} {key : Option CacheKey} (hix : env.index.Lawful)
    (h : Made env d.document candidate s identity (.classLike shape) n)
    (hd : Belongs env.index (.type d)) (hkeyed : Keyed env.index d identity key)
    (hcandidate : identity.isEmpty = false → candidate = env.naming.complexType identity "") :
    FreshlyNamed env s n key (if d.definition.name.isNone then some d.place else none) := by
  refine h.named (fun hname c hc => ?_) (fun p hp => ?_) ?_ fun hempty => ?_
  · rw [Node.candidate?, h.kind, h.identity] at hc
    exact (Option.some.inj hc).symm.trans (hcandidate hname).symm
  · cases hkeyed with
    | named hname => simp [hname] at hp
    | inPlace hsteps _ =>
      cases hname : d.definition.name with
      | some name => simp [hname] at hp
      | none =>
        simp only [hname, Option.isNone_none, if_true, Option.some.injEq] at hp
        rcases hd.type_cases with ⟨_, g, -, -, -, hglobal⟩ | ⟨r, hr, -, hdoc, hrp⟩
        · exact absurd (hglobal ▸ rfl) hsteps
        · exact ⟨rfl, r, hr, hrp.trans hp, hdoc⟩
  · cases hkeyed with
    | named _ => rintro _ _ ⟨⟩
    | inPlace _ hkind =>
      intro l q hk
      cases (hkind _ hk).1
  · cases hname : d.definition.name with
    | none => exact .inl rfl
    | some name =>
      refine .inr ?_
      rcases hd.type_cases with ⟨m, g, hg, hgd, -, hglobal⟩ | ⟨r, hr, -, -, hrp⟩
      · cases hkeyed with
        | named hname' =>
          have hn := hix.types m g hg
          rw [hgd, TypeDefinition.name, hname'] at hn
          exact .type hg (Option.some.inj hn ▸ hempty)
        | inPlace hsteps _ => exact absurd (hglobal ▸ rfl) hsteps
      · exact .inPlace hd (hrp ▸ hr.reference_steps) (by rw [hname]; rfl)

/-- A node that is added and then changed is added as it becomes. -/
theorem Adds.modify {n : Node} (h : Adds n s t) {f : Node → Node} (hname : (f n).name = n.name)
    (hspace : (f n).space = n.space) :
    Adds (f n) s { t with graph := t.graph.modify s.graph.size f } := by
  refine ⟨?_, h.context, h.journal, by rw [Placing, hname, hspace]; exact h.placing⟩
  apply Array.ext_getElem?
  intro i
  simp only [Graph.modify, h.nodes, Array.getElem?_modify, Array.getElem?_push, Graph.size]
  by_cases hi : s.graph.nodes.size = i
  · simp [hi]
  · simp [hi, Ne.symm hi]

/-- A node that is added for a purpose, and remembered. -/
theorem Adds.creation {n : Node} (h : Adds n s t) (key : Option CacheKey) (place : Option Place)
    (hblank : n.Blank) (hpurpose : Purpose env n key) (hnamed : FreshlyNamed env s n key place)
    (hkey : ∀ k, key = some k → s.context.cache.get? k = none)
    (hplace : ∀ p, place = some p → s.context.inlineType? p = none ∧ Fills env.index p n) :
    Creation env s { t with context := t.context.remember key place s.graph.size } n key place :=
  ⟨h.nodes, h.context ▸ rfl, h.journal, h.placing, hblank, hpurpose, hnamed, hkey, hplace⟩

/-! ## Simple types -/

theorem enumNode_ok {d : Declared SimpleType} {identity : QName} {candidate : String}
    {facets : List Facet} {id : NodeId}
    (h : enumNode env d identity candidate facets s = .ok (id, t)) :
    id = s.graph.size ∧ ∃ n values,
      Made env d.document candidate s identity (.enumeration values) n ∧ Adds n s t := by
  unfold enumNode at h
  simp only [bind_ok, pure_ok, getGraph_ok, modifyGraph_ok] at h
  obtain ⟨_, s₁, hnew, _, _, ⟨rfl, rfl⟩, _, _, rfl, rfl, rfl⟩ := h
  obtain ⟨rfl, n, hm, ha⟩ := newNode_ok hnew
  let values := enumValues env.naming facets (s₁.graph.nameOf s.graph.size)
  exact ⟨rfl, { n with kind := .enumeration values }, values,
    ⟨hm.name, hm.isAnonymous, hm.isAbstractRoot, hm.identity, rfl⟩,
    ha.modify (f := fun n => { n with kind := .enumeration values }) rfl rfl⟩

/-- The node of a simple type with a name is the one that is remembered, or is created. -/
theorem simpleTypeNode_ok {name : QName} {g : Global TypeDefinition} {d : Declared SimpleType}
    {id : NodeId} (hs : Sound env s) (hg : env.index.type? name = some g)
    (hd : g.definition = .simple d.definition) (hdoc : g.document = d.document)
    (h : simpleTypeNode env name d s = .ok (id, t)) :
    Evolves env none s t ∧
      (name.isEmpty = false → t.context.cache.get? (typeKey name g) = some id) ∧
      (∃ m, t.graph.node? id = some m ∧ m.isClass = false) ∧ t.graph.IsValue (.node id) := by
  have hkey : typeKey name g = ⟨.simpleType, d.location, name⟩ := by
    simp [typeKey, hd, TypeDefinition.isComplex, Declared.location, hdoc]
  rw [hkey]
  unfold simpleTypeNode at h
  rw [getContext_bind] at h
  cases hk : s.context.cache.get? ⟨.simpleType, d.location, name⟩ with
  | some found =>
    rw [hk] at h
    obtain ⟨rfl, rfl⟩ := pure_ok.1 h
    exact ⟨.refl, fun _ => hk, hs.simples _ _ _ hk, hs.values _ _ (by simp) (by simp) hk⟩
  | none =>
    -- Both kinds of node are added blank and then remembered under the name.
    have created : ∀ (n : Node) (s₁ : State) (c : Classification) (hint : String) (k : NodeKind),
        Made env d.document hint s name k n → n.candidate? env.naming = some hint →
        Adds n s s₁ → n.Blank →
        classify env d.document [name] d.definition = .ok c →
        n.kind.label = (if c.isEnumeration then "enum" else "simple") → n.simple? = c.shape? →
        t = { s₁ with
          context := s₁.context.recordNamed ⟨.simpleType, d.location, name⟩ s.graph.size } →
        Evolves env none s t ∧ (name.isEmpty = false →
          t.context.cache.get? ⟨.simpleType, d.location, name⟩ = some s.graph.size) ∧
        (∃ m, t.graph.node? s.graph.size = some m ∧ m.isClass = false) ∧
        t.graph.IsValue (.node s.graph.size) := by
      rintro n s₁ c hint k hm hhint ha hb hc hl hshape rfl
      have hp : Purpose env n (some ⟨.simpleType, d.location, name⟩) := by
        rw [Declared.location, ← hdoc]
        exact .simpleType hg hd (hdoc ▸ hc) hl hshape hm.identity
      have hnamed : FreshlyNamed env s n (some ⟨.simpleType, d.location, name⟩) none :=
        hm.named (fun _ c hc => Option.some.inj (hc.symm.trans hhint)) nofun nofun
          fun hempty => .inr (.type hg hempty)
      have hcreate := ha.creation _ none hb hp hnamed (by rintro _ ⟨⟩; exact hk) nofun
      have hno : n.isClass = false := by
        rw [Bool.eq_false_iff, ne_eq, Node.isClass_iff, hl]
        split <;> decide
      have hinterface : n.isInterface = false := by
        rw [Bool.eq_false_iff, ne_eq, Node.isInterface_iff, hl]
        split <;> decide
      have hnode : s₁.graph.node? s.graph.size = some n :=
        (hcreate.node? s.graph.size).trans (if_pos rfl)
      refine ⟨.create hcreate (by rintro _ ⟨⟩; simp [CacheKey.IsOfType])
        (fun hclass => absurd (hno.symm.trans hclass) (by simp)) .rfl, fun hne => ?_,
        ⟨n, hnode, hno⟩, .of_node hnode hinterface⟩
      exact Cache.get?_insert_self (ha.context ▸ hk) hne
    simp only [hk, bind_ok, lift_ok] at h
    obtain ⟨c, s₁, ⟨hc, rfl⟩, h⟩ := h
    cases c with
    | enumeration facets =>
      simp only [bind_ok, modifyContext_ok, pure_ok] at h
      obtain ⟨_, s₁, hnew, _, _, ht, rfl, rfl⟩ := h
      obtain ⟨rfl, n, values, hm, ha⟩ := enumNode_ok hnew
      exact created n s₁ _ _ _ hm (by simp [Node.candidate?, hm.kind, hm.identity]) ha
        (Node.blank_of_kind (by simp [hm.kind])) hc
        (by simp [hm.kind, NodeKind.label, Classification.isEnumeration])
        (by simp [Node.simple?, hm.kind, Classification.shape?]) ht
    | value =>
      simp only [bind_ok, modifyContext_ok, pure_ok] at h
      obtain ⟨_, s₁, hnew, _, _, ht, rfl, rfl⟩ := h
      obtain ⟨rfl, n, hm, ha⟩ := newNode_ok hnew
      exact created n s₁ _ _ _ hm (by simp [Node.candidate?, hm.kind, hm.identity]) ha
        (Node.blank_of_kind (by simp [hm.kind])) hc
        (by simp [hm.kind, NodeKind.label, Classification.isEnumeration])
        (by simp [Node.simple?, hm.kind, Classification.shape?]) ht

/-- A simple type given in place is no more than an enumeration that is created, or that was
created before. -/
theorem inlineSimpleType_ok {r : Declared TypeRef} {type : SimpleType} {candidate : String}
    {resolved : Resolved} (hs : Sound env s) (hr : Belongs env.index (.reference r))
    (hdef : r.definition = .inline (.simple type))
    (h : inlineSimpleType env (r.inPlace type) candidate s = .ok (resolved, t)) :
    Evolves env none s t ∧ t.graph.IsValue resolved.type ∧ Placed env t r resolved.type := by
  unfold inlineSimpleType at h
  rw [getContext_bind] at h
  cases hk : s.context.inlineType? (r.inPlace type).place with
  | some found =>
    rw [hk] at h
    obtain ⟨rfl, rfl⟩ := pure_ok.1 h
    obtain ⟨n, hn, hfills⟩ := hs.inPlace _ _ hk
    refine ⟨.refl, .of_node hn hfills.isInterface, fun _ => ⟨found, rfl⟩, ?_⟩
    rintro _ _ - - ⟨⟩
    exact hk
  | none =>
    simp only [hk, bind_ok, lift_ok] at h
    obtain ⟨c, s₁, ⟨hc, rfl⟩, h⟩ := h
    cases c with
    | enumeration facets =>
      simp only [bind_ok, modifyContext_ok, pure_ok] at h
      obtain ⟨_, s₁, hnew, _, _, rfl, rfl, rfl⟩ := h
      obtain ⟨rfl, n, values, hm, ha⟩ := enumNode_ok hnew
      have hno : n.isClass = false := by simp [Node.isClass, Node.class?, hm.kind]
      have hinterface : n.isInterface = false := by
        simp [Node.isInterface, Node.interface?, hm.kind]
      have hnamed : FreshlyNamed env s n none (some r.place) :=
        hm.named (by rintro ⟨⟩) (by rintro _ ⟨⟩; exact ⟨rfl, r, hr, rfl, rfl⟩) (by rintro _ _ ⟨⟩)
          fun _ => .inl rfl
      have hcreate : Creation env s _ n none (some r.place) := ha.creation none (some r.place)
        (Node.blank_of_kind (by simp [hm.kind]))
        (.unnamed hm.identity (by simp [Node.simple?, hm.kind]) (by simp)) hnamed (by simp)
        (by
          rintro _ ⟨⟩
          exact ⟨hk, r, _, hr, rfl, hdef, by simp [hm.kind, NodeKind.label,
            TypeDefinition.isComplex]⟩)
      refine ⟨.create hcreate (by simp) (by simp [hno]) .rfl,
        .of_node ((hcreate.node? s.graph.size).trans (if_pos rfl)) hinterface,
        fun _ => ⟨_, rfl⟩, ?_⟩
      rintro _ _ - - ⟨⟩
      exact Table.get?_insertNew_self (ha.context ▸ hk)
    | value =>
      obtain ⟨rfl, rfl⟩ := pure_ok.1 h
      refine ⟨.refl, by rintro _ ⟨⟩, fun hnode => ?_, by rintro _ _ - - ⟨⟩⟩
      rw [hdef] at hnode
      obtain ⟨_, henum⟩ := hnode
      cases hc.symm.trans henum

/-! ## References -/

section
variable {c : Calls} (hcalls : c.Sound env) (hix : env.index.Lawful)
include hcalls hix

theorem complexType_ok {d : Declared ComplexType} {candidate : Option String} {id : NodeId}
    (hs : Sound env s) (hd : Belongs env.index (.type d)) (hsought : Sought env.index s.journal d)
    (h : complexType c env d candidate s = .ok (id, t)) :
    Evolves env none s t ∧ t.graph.IsValue (.node id) ∧
      (d.definition.name = none → t.context.inlineType? d.place = some id) ∧
      (d.place.steps = [] → (t.graph.class? id).isSome ∧
        ∀ name, d.definition.name = some name →
          (name.isEmpty = false →
            t.context.cache.get? ⟨.complexType, d.location, name⟩ = some id) ∧
          (name.isEmpty = true → NewClass s t d name id)) := by
  unfold complexType at h
  cases hn : d.definition.name with
  | some name =>
    simp only [hn] at h
    obtain ⟨he, hv, hf, hreaches⟩ := hcalls.classNode hs hd hsought (.named hn) (fun _ => rfl) h
    refine ⟨he, hv, nofun, fun hsteps => ⟨(hf hsteps).1, ?_⟩⟩
    rintro _ ⟨⟩
    refine ⟨(hf hsteps).2 _ rfl, fun hempty => ?_⟩
    -- Nothing is remembered under an empty name, and no global type for its place.
    rcases hreaches with ⟨k, hk, hfound⟩ | hfound | hnew
    · cases hk
      rw [hs.named _ _ hfound] at hempty
      cases hempty
    · obtain ⟨n, -, hfills⟩ := hs.inPlace _ _ hfound
      exact absurd hsteps hfills.steps
    · exact hnew
  | none =>
    have hsteps : d.place.steps ≠ [] := by
      rcases hd.type_cases with ⟨n, g, hg, hgd, -, -⟩ | ⟨r, hr, -, -, hp⟩
      · have := hix.types n g hg
        rw [hgd, TypeDefinition.name, hn] at this
        cases this
      · exact hp ▸ hr.reference_steps
    cases candidate with
    | none =>
      simp only [hn] at h
      exact absurd h failUnsupported_ok
    | some candidate =>
      simp only [hn] at h
      obtain ⟨he, hv, -, hreaches⟩ :=
        hcalls.classNode hs hd hsought (.inPlace hsteps (by simp)) (fun hname => by cases hname) h
      exact ⟨he, hv, fun _ => hreaches.placed (he.sound hs) he.extend hn,
        fun h => absurd h hsteps⟩

/-- The node of a global type is the one that is remembered for it. -/
theorem globalType_ok {name : QName} {g : Global TypeDefinition} {id : NodeId} (hs : Sound env s)
    (hg : env.index.type? name = some g) (h : globalType c env g s = .ok (id, t)) :
    Evolves env none s t ∧ Denotes env t name (.node id) ∧
      (g.definition.isComplex = true → (t.graph.class? id).isSome) ∧
      t.graph.IsValue (.node id) := by
  cases hd : g.definition with
  | complex type =>
    simp only [globalType, hd] at h
    obtain ⟨he, hv, -, hf⟩ := complexType_ok hcalls hix hs (.globalType hg hd) (.isGlobal rfl) h
    obtain ⟨hclass, hk⟩ := hf rfl
    have hn : type.name = some name := by
      simpa [hd, TypeDefinition.name] using hix.types name g hg
    have hkey : typeKey name g = ⟨.complexType, g.document.location, name⟩ := by
      simp [typeKey, hd, TypeDefinition.isComplex]
    refine ⟨he, ⟨g, id, hg, rfl, hkey ▸ (hk name hn).1, fun hempty => .inr ?_⟩, fun _ => hclass,
      hv⟩
    refine ((hk name hn).2 hempty).opened.imp fun d hd' => ⟨g, hg, ?_, ?_⟩
    · rw [hd']
      rfl
    · rw [hd']
      exact hn
  | simple type =>
    rw [globalType_simple hix hg hd] at h
    obtain ⟨he, hk, hno, hv⟩ := simpleTypeNode_ok hs hg hd rfl h
    exact ⟨he, ⟨g, id, hg, rfl, hk, fun _ => .inl hno⟩,
      fun hcomplex => absurd hcomplex Bool.false_ne_true, hv⟩

/-- The node of a global type with an empty name is no class, or a new one. -/
theorem globalType_unremembered {name : QName} {g : Global TypeDefinition} {id : NodeId}
    (hs : Sound env s) (hg : env.index.type? name = some g) (hempty : name.isEmpty = true)
    (h : globalType c env g s = .ok (id, t)) :
    (∃ m, t.graph.node? id = some m ∧ m.isClass = false) ∨
      ∃ d, d.place.steps = [] ∧ NewClass s t d name id := by
  cases hd : g.definition with
  | complex type =>
    simp only [globalType, hd] at h
    obtain ⟨-, -, -, hf⟩ := complexType_ok hcalls hix hs (.globalType hg hd) (.isGlobal rfl) h
    have hn : type.name = some name := by
      simpa [hd, TypeDefinition.name] using hix.types name g hg
    exact .inr ⟨_, rfl, ((hf rfl).2 name hn).2 hempty⟩
  | simple type =>
    rw [globalType_simple hix hg hd] at h
    exact .inl (simpleTypeNode_ok hs hg hd rfl h).2.2.1

theorem namedType_ok {name : QName} {document : Document} {resolved : Resolved}
    (hs : Sound env s) (h : namedType c env name document s = .ok (resolved, t)) :
    Evolves env none s t ∧ (isBuiltin name = false → Denotes env t name resolved.type) ∧
      t.graph.IsValue resolved.type := by
  unfold namedType at h
  cases hp : (if name.isXsd then Primitive.ofBuiltin? name.name else none) with
  | some p =>
    simp only [hp] at h
    obtain ⟨rfl, rfl⟩ := pure_ok.1 h
    refine ⟨.refl, fun hb => ?_, nofun⟩
    split at hp
    · rename_i hx
      simp [isBuiltin, hx, hp] at hb
    · cases hp
  | none =>
    simp only [hp] at h
    cases hg : env.index.type? name with
    | none =>
      simp only [hg] at h
      exact absurd h failUnresolved_ok
    | some g =>
      simp only [hg, bind_ok, pure_ok] at h
      obtain ⟨id, s₁, h, rfl, rfl⟩ := h
      obtain ⟨he, hd, -, hv⟩ := globalType_ok hcalls hix hs hg h
      exact ⟨he, fun _ => hd, hv⟩

theorem inlineType_ok {r : Declared TypeRef} {type : TypeDefinition} {candidate : String}
    {resolved : Resolved} (hs : Sound env s) (hr : Belongs env.index (.reference r))
    (hasked : Asked env.index s.journal r) (hdef : r.definition = .inline type)
    (h : inlineType c env (r.inPlace type) candidate s = .ok (resolved, t)) :
    Evolves env none s t ∧ t.graph.IsValue resolved.type ∧ Placed env t r resolved.type := by
  unfold inlineType at h
  cases type with
  | complex type =>
    simp only [Declared.inPlace, bind_ok, pure_ok] at h
    obtain ⟨id, s₁, h, rfl, rfl⟩ := h
    obtain ⟨he, hv, hplaced, -⟩ :=
      complexType_ok hcalls hix hs (.typeInPlace hr hdef) (.inPlace hasked hdef) h
    refine ⟨he, hv, fun _ => ⟨id, rfl⟩, ?_⟩
    rintro _ _ hdef' hn ⟨⟩
    obtain rfl := TypeRef.inline.inj (hdef.symm.trans hdef')
    exact hplaced (hn rfl)
  | simple type => exact inlineSimpleType_ok hs hr hdef h

/-- What a type reference comes to is right. -/
theorem typeRef_ok {d : Declared TypeRef} {candidate : String} {resolved : Resolved}
    (hs : Sound env s) (hd : Belongs env.index (.reference d))
    (hasked : Asked env.index s.journal d)
    (h : typeRef c env d candidate s = .ok (resolved, t)) :
    Evolves env none s t ∧ Written env t (some d.definition) resolved.type ∧
      t.graph.IsValue resolved.type ∧ Placed env t d resolved.type := by
  unfold typeRef at h
  cases hk : d.definition with
  | named name =>
    simp only [hk] at h
    obtain ⟨he, hn, hv⟩ := namedType_ok hcalls hix hs h
    refine ⟨he, ?_, hv, fun hnode => ?_, fun _ _ hdef => by rw [hk] at hdef; cases hdef⟩
    · rintro _ ⟨⟩ hb
      exact hn hb
    · rw [hk] at hnode
      obtain ⟨_, id, -, hid, -⟩ := hn hnode
      exact ⟨id, hid⟩
  | inline type =>
    simp only [hk] at h
    obtain ⟨he, hv, hplaced⟩ := inlineType_ok hcalls hix hs hd hasked hk h
    exact ⟨he, nofun, hv, hplaced⟩

/-- What the type of a global element comes to is right. -/
theorem globalElementType_ok {d : Declared ElementDecl} {g : Global ElementDecl}
    {resolved : Resolved} (hs : Sound env s) (hd : d = .ofGlobal .elements g)
    (hg : env.index.element? d.definition.name = some g)
    (h : globalElementType c env d s = .ok (resolved, t)) :
    Evolves env none s t ∧ Written env t d.definition.typeRef resolved.type ∧
      t.graph.IsValue resolved.type := by
  have hdef : g.definition = d.definition := hd ▸ rfl
  have hbelongs : Belongs env.index (.element d) := hd ▸ .globalElement (hd ▸ hg)
  cases globalElementType_cases h with
  | untyped hr hv ht =>
    subst ht hv
    exact ⟨.refl, fun n hn => absurd (hr.symm.trans hn) nofun, nofun⟩
  | named hr hn =>
    obtain ⟨he, hw, hv⟩ := namedType_ok hcalls hix hs hn
    refine ⟨he, fun n hn hb => ?_, hv⟩
    obtain rfl : _ = n := by simpa [hr] using hn
    exact hw hb
  | known hr hk hv ht =>
    subst ht hv
    exact ⟨.refl, fun n hn => absurd (hr.symm.trans hn) nofun,
      hs.values _ _ (by simp) (by simp) hk⟩
  | complex hr hclass hv =>
    subst hv
    have hpart := Belongs.elementType hbelongs hr
    have hasked : Asked env.index s.journal _ := .element hg (hdef ▸ hr)
    obtain ⟨he, hv, -⟩ := hcalls.classNode hs (.typeInPlace hpart rfl)
      (.inPlace (hd ▸ hasked) rfl) (.inPlace hpart.reference_steps (by
        rintro _ ⟨⟩
        exact ⟨rfl, hd ▸ .element (hd ▸ hg) rfl⟩)) (fun hname => by cases hname) hclass
    exact ⟨he, fun n hn => absurd (hr.symm.trans hn) nofun, hv⟩
  | simple hr hinline ht =>
    have hpart := Belongs.elementType hbelongs hr
    obtain ⟨he, hvalue, hplaced⟩ := inlineSimpleType_ok hs hpart rfl hinline
    rcases ht with ⟨-, rfl⟩ | ⟨id, hv, rfl⟩
    · exact ⟨he, fun n hn => absurd (hr.symm.trans hn) nofun, hvalue⟩
    · refine ⟨.trans he
          (.change (.remember (.inl ⟨rfl, ?_, g, _, hg, hdef ▸ hr⟩) (hv ▸ hvalue)) rfl),
        fun n hn => absurd (hr.symm.trans hn) nofun, hvalue⟩
      -- What is found for the place is there for this type, as nothing else is there.
      obtain ⟨n, hn, r, type', hr', hplace, hdef', hlabel⟩ :=
        (he.sound hs).inPlace _ _ (hplaced.place _ id rfl nofun hv)
      have href := hr'.typeRef_of_place hg (hplace.trans (hd ▸ rfl))
      rw [hdef, hr, hdef', Option.some.injEq, TypeRef.inline.injEq] at href
      exact ⟨n, hn, (isClass_of_label hlabel).trans (href ▸ rfl)⟩

/-- What the type of a global attribute comes to is right: only a type given in place is
remembered. -/
theorem globalAttributeType_ok {d : Declared AttributeDecl} {g : Global AttributeDecl} {r : TypeRef}
    {resolved : Resolved} (hs : Sound env s) (hd : d = .ofGlobal .attributes g)
    (hg : env.index.attribute? d.definition.name = some g) (hr : d.definition.typeRef = some r)
    (hasked : Asked env.index s.journal (d.part .type r))
    (h : globalAttributeType c env d r s = .ok (resolved, t)) :
    Evolves env none s t ∧ Written env t (some r) resolved.type ∧
      t.graph.IsValue resolved.type := by
  have hdef : g.definition = d.definition := hd ▸ rfl
  unfold globalAttributeType at h
  rw [getContext_bind] at h
  cases hk : s.context.cache.get? ⟨.attributeType, d.location, d.definition.name⟩ with
  | some found =>
    rw [hk] at h
    obtain ⟨rfl, rfl⟩ := pure_ok.1 h
    obtain ⟨g', type, hg', ht⟩ := hs.attributes _ _ _ hk
    rw [hg, Option.some.injEq] at hg'
    rw [← hg', hdef, hr, Option.some.injEq] at ht
    exact ⟨.refl, fun n hn => (nomatch ht.symm.trans (Option.some.inj hn)),
      hs.values _ _ (by simp) (by simp) hk⟩
  | none =>
    simp only [hk] at h
    rw [bind_ok] at h
    obtain ⟨resolved', s₁, href, h⟩ := h
    have hbelongs : Belongs env.index (.attribute d) := hd ▸ .globalAttribute (hd ▸ hg)
    obtain ⟨he, hw, hvalue, -⟩ := typeRef_ok hcalls hix hs (.attributeType hbelongs hr) hasked href
    cases r with
    | named name =>
      simp only [pure_ok] at h
      obtain ⟨rfl, rfl⟩ := h
      exact ⟨he, hw, hvalue⟩
    | inline type =>
      cases hv : resolved'.type with
      | node id =>
        simp only [hv, bind_ok, modifyContext_ok, pure_ok] at h
        obtain ⟨-, s₂, rfl, rfl, rfl⟩ := h
        exact ⟨.trans he
          (.change (.remember (.inr ⟨rfl, g, type, hg, hdef ▸ hr⟩) (hv ▸ hvalue)) rfl), nofun,
          hvalue⟩
      | primitive p =>
        simp only [hv, pure_ok] at h
        obtain ⟨rfl, rfl⟩ := h
        exact ⟨he, nofun, hvalue⟩

end

end XmlTypes.Build
