import XmlTypes.Proofs.ClassRuns
import XmlTypes.Proofs.Traversal
/-!
# What the types of global elements come to

The type of a global element is written as a name or given in place. If it comes to a class, the
class is opened for the type that is declared under the name, or for the type at its place. On the
way nothing is done about root elements.
-/

namespace XmlTypes.Build

open Schema

variable {env : Environment} {resolver : Resolver} {s t : State} {g : Global ElementDecl}
  {id : NodeId}

/-! ## What the type of an element comes to -/

/-- The node has no name in the schema. -/
def Nameless (s : State) (id : NodeId) : Prop :=
  ∃ n, s.graph.node? id = some n ∧ n.identity.isEmpty = true

/-- The class is opened for a global type without a name in the schema. -/
structure UnnamedFor (s : State) (id : NodeId) : Prop where
  opened : OpenedFor s id (·.place.steps = [])
  nameless : Nameless s id

/-- The node is the one for the type that the element names. A class of an empty name, under which
nothing is remembered, is opened for a global type nevertheless. -/
def NamedFor (env : Environment) (s : State) (g : Global ElementDecl) (id : NodeId) : Prop :=
  ∃ n, g.definition.typeRef = some (.named n) ∧ isBuiltin n = false ∧
    Denotes env s n (.node id) ∧ (n.isEmpty = true →
      (∃ m, s.graph.node? id = some m ∧ m.isClass = false) ∨ UnnamedFor s id)

/-- The type of the element is not written as an empty name. -/
def Names (g : Global ElementDecl) : Prop :=
  ∀ n, g.definition.typeRef = some (.named n) → n.isEmpty = false

/-- The class is opened for the type that is given in place for the element, without a name in the
schema. -/
structure InPlaceFor (s : State) (g : Global ElementDecl) (id : NodeId) : Prop where
  opened : OpenedFor s id (·.place = elementTypePlace g)
  nameless : Nameless s id

/-- The node is the one for the type that is given in place for the element: a class that is opened
for it, or no class if the type is simple. -/
def GivenFor (s : State) (g : Global ElementDecl) (type : TypeDefinition) (id : NodeId) : Prop :=
  InPlaceFor s g id ∨ type.isComplex = false ∧ ∃ n, s.graph.node? id = some n ∧ n.isClass = false

/-- What the type of a global element comes to. -/
structure TypeFor (env : Environment) (s : State) (g : Global ElementDecl) (v : ValueType) :
    Prop where
  written : Written env s g.definition.typeRef v
  node : ∀ id, v = .node id → NamedFor env s g id ∨
    ∃ type, g.definition.typeRef = some (.inline type) ∧ GivenFor s g type id
  /-- It is a class if a complex type is named. -/
  isClass : ∀ n type, g.definition.typeRef = some (.named n) → isBuiltin n = false →
    env.index.type? n = some type → type.definition.isComplex = true →
    ∃ id, v = .node id ∧ (s.graph.class? id).isSome
  /-- It is a node if a complex type is given in place. -/
  isNode : ∀ type, g.definition.typeRef = some (.inline (.complex type)) → ∃ id, v = .node id

theorem Nameless.mono (h : Nameless s id) (he : Extends s t) : Nameless t id := by
  obtain ⟨n, hn, hempty⟩ := h
  obtain ⟨m, hm, hgrows⟩ := he.graph.nodes id n hn
  exact ⟨m, hm, hgrows.identity ▸ hempty⟩

theorem UnnamedFor.mono (h : UnnamedFor s id) (he : Extends s t) : UnnamedFor t id :=
  ⟨h.opened.mono he, h.nameless.mono he⟩

theorem NamedFor.mono (h : NamedFor env s g id) (he : Extends s t) : NamedFor env t g id := by
  obtain ⟨n, hn, hb, hd, ho⟩ := h
  exact ⟨n, hn, hb, hd.mono he, fun hempty => (ho hempty).imp he.graph.not_class (·.mono he)⟩

theorem InPlaceFor.mono (h : InPlaceFor s g id) (he : Extends s t) : InPlaceFor t g id :=
  ⟨h.opened.mono he, h.nameless.mono he⟩

theorem GivenFor.mono {type : TypeDefinition} (h : GivenFor s g type id) (he : Extends s t) :
    GivenFor t g type id :=
  h.imp (·.mono he) (.imp_right he.graph.not_class)

theorem TypeFor.mono {v : ValueType} (h : TypeFor env s g v) (he : Extends s t) :
    TypeFor env t g v where
  written := h.written.mono he
  node id hv := (h.node id hv).imp (·.mono he) fun ⟨type, htype, hg⟩ => ⟨type, htype, hg.mono he⟩
  isClass n type htype hb hg hk :=
    (h.isClass n type htype hb hg hk).imp fun _ => And.imp_right he.graph.class?
  isNode := h.isNode

theorem Evolves.sound_of_start (he : Evolves env none { resolver } s) : Sound env s :=
  he.sound (sound_start env resolver)

theorem Evolves.recorded_of_start (he : Evolves env none { resolver } s) : Recorded env s :=
  (recorded_start env resolver).of_moves he.moves

/-- What is opened for a complex type is a class. -/
theorem OpenedFor.isSome_class? {kind : Declared ComplexType → Prop} (h : OpenedFor s id kind)
    (hr : Recorded env s) : (s.graph.class? id).isSome := by
  obtain ⟨r, hmem, rfl, d, hd, -⟩ := h
  exact ((hr.openings r hmem).type d hd).1

/-- A class that stands for a name is opened for a type that is declared under it. -/
theorem Denotes.opened (he : Evolves env none { resolver } s) {n : QName}
    (h : Denotes env s n (.node id)) (hclass : (s.graph.class? id).isSome) :
    OpenedFor s id (DeclaredAs env.index n) := by
  obtain ⟨type, _, htype, ⟨⟩, hk, ho⟩ := h
  have hno : ¬ ∃ m, s.graph.node? id = some m ∧ m.isClass = false :=
    fun h => Graph.not_isSome_class? h hclass
  cases hn : n.isEmpty with
  | true => exact (ho hn).resolve_left hno
  | false =>
    have hk := hk hn
    unfold typeKey at hk
    split at hk
    · rcases he.opened_of_key (.inl rfl) hk with hk | ⟨hk, -⟩ | ho
      · cases hk
      · cases hk
      · exact ho.imp fun d hd => ⟨type, htype, hd.of_name rfl⟩
    · exact absurd (he.sound_of_start.simples _ _ _ hk) hno

/-- What is remembered for a type given in place has no name in the schema, or is no class. -/
structure RemembersNameless (s : State) : Prop where
  keys : ∀ k id, k.kind = .elementType → s.context.cache.get? k = some id →
    Nameless s id ∨ ∃ n, s.graph.node? id = some n ∧ n.isClass = false
  places : ∀ p id, s.context.inlineType? p = some id → Nameless s id

theorem Moves.remembersNameless (h : Moves env s t) (hs : RemembersNameless s) :
    RemembersNameless t := by
  have he := h.extend
  have hold {k : CacheKey} {id : NodeId} (hkind : k.kind = .elementType)
      (hk : s.context.cache.get? k = some id) :
      Nameless t id ∨ ∃ n, t.graph.node? id = some n ∧ n.isClass = false :=
    (hs.keys k id hkind hk).imp (·.mono he) he.graph.not_class
  cases h with
  | change h =>
    refine ⟨fun k id hkind hk => ?_, fun p id hp => (hs.places p id (h.inlineType? p ▸ hp)).mono he⟩
    rcases h.of_get? hk with hk | ⟨-, hno, -⟩ | ⟨hkind', -⟩
    · exact hold hkind hk
    · exact .inr hno
    · cases hkind.symm.trans hkind'
  | @create _ _ n _ _ h =>
    have hnode : t.graph.node? s.graph.size = some n := (h.node? _).trans (if_pos rfl)
    refine ⟨fun k id hkind hk => ?_, fun p id hp => ?_⟩
    · rcases h.of_get? hk with hk | ⟨rfl, rfl⟩
      · exact hold hkind hk
      · refine .inl ⟨n, hnode, ?_⟩
        cases h.purpose with
        | type => cases hkind
        | simpleType => cases hkind
        | group _ _ hk => rcases hk.kind with hk | hk <;> cases hkind.symm.trans hk
        | unnamed hi => rw [hi]; rfl
    · rcases h.of_inlineType? hp with hp | ⟨hplace, rfl⟩
      · exact (hs.places p id hp).mono he
      · exact ⟨n, hnode, h.named.anonymous (h.named.inPlace p hplace).1⟩
  | opening => exact ⟨hs.keys, hs.places⟩

theorem Evolves.remembersNameless_of_start (he : Evolves env none { resolver } s) :
    RemembersNameless s := by
  refine he.invariant ⟨fun _ _ _ hk => ?_, fun _ _ hp => ?_⟩ fun _ _ => Moves.remembersNameless
  · cases hk
  · cases hp

section
variable (he : Evolves env none { resolver } s)
  (hg : env.index.element? g.definition.name = some g) {type : TypeDefinition}
  (htype : g.definition.typeRef = some (.inline type))
include he hg htype

/-- What is remembered under the name of an element is the node for the type given in place. -/
theorem givenFor_of_key (hk : s.context.cache.get?
    ⟨.elementType, g.document.location, g.definition.name⟩ = some id) : GivenFor s g type id := by
  rcases he.opened_of_key (.inr rfl) hk with hk' | ⟨-, hno⟩ | ho
  · cases hk'
  · refine .inr ⟨?_, hno⟩
    rcases he.sound_of_start.elements _ _ rfl hk with hclass | ⟨g', t', hg', ht'⟩
    · exact absurd hclass (Graph.not_isSome_class? hno)
    · obtain rfl := Option.some.inj (hg.symm.trans hg')
      rw [htype, Option.some.injEq, TypeRef.inline.injEq] at ht'
      rw [ht']
      rfl
  · have hclass := ho.isSome_class? he.recorded_of_start
    refine .inl ⟨ho.imp fun d hd => ?_, (he.remembersNameless_of_start.keys _ _ rfl hk).resolve_right
      fun hno => Graph.not_isSome_class? hno hclass⟩
    obtain ⟨g', hg', hplace⟩ := hd.of_element rfl
    obtain rfl := Option.some.inj (hg.symm.trans hg')
    exact hplace

/-- So is what is remembered for the place of the type. -/
theorem givenFor_of_place (hp : s.context.inlineType? (elementTypePlace g) = some id) :
    GivenFor s g type id := by
  rcases he.opened_of_place hp with hp' | hno | ho
  · cases hp'
  · refine .inr ⟨?_, hno⟩
    obtain ⟨m, hm, hclass⟩ := hno
    obtain ⟨n, hn, r, type', hr, hplace, hdef, hlabel⟩ := he.sound_of_start.inPlace _ _ hp
    obtain rfl := Option.some.inj (hm.symm.trans hn)
    have href := hr.typeRef_of_place hg hplace
    rw [htype, hdef, Option.some.injEq, TypeRef.inline.injEq] at href
    rw [href, ← isClass_of_label hlabel, hclass]
  · exact .inl ⟨ho, he.remembersNameless_of_start.places _ _ hp⟩

end

section
variable {resolved : Resolved}

/-- The name of a built-in type comes to no node. -/
theorem namedType_not_builtin {n : QName} {document : Document} {c : Calls}
    (h : namedType c env n document s = .ok (resolved, t)) (hv : resolved.type = .node id) :
    isBuiltin n = false := by
  unfold namedType at h
  cases hp : (if n.isXsd then Primitive.ofBuiltin? n.name else none) with
  | some p =>
    simp only [hp] at h
    obtain ⟨rfl, -⟩ := pure_ok.1 h
    cases hv
  | none =>
    cases hx : n.isXsd with
    | true => simpa [isBuiltin, hx] using hp
    | false => simp [isBuiltin, hx]

/-- The name of any other type comes to the node of the type. -/
theorem namedType_node {n : QName} {document : Document} (hix : env.index.Lawful)
    (hs : Sound env s) (hb : isBuiltin n = false)
    (h : namedType env.calls env n document s = .ok (resolved, t)) :
    ∃ g id, env.index.type? n = some g ∧ resolved.type = .node id ∧
      (g.definition.isComplex = true → (t.graph.class? id).isSome) ∧ (n.isEmpty = true →
        (∃ m, t.graph.node? id = some m ∧ m.isClass = false) ∨
          s.graph.size ≤ id ∧ UnnamedFor t id) := by
  unfold namedType at h
  have hcalls := Calls.sound_callsUpTo hix env.limit
  have hp : (if n.isXsd then Primitive.ofBuiltin? n.name else none) = none := by
    simpa [isBuiltin] using hb
  simp only [hp] at h
  cases hg : env.index.type? n with
  | none =>
    simp only [hg] at h
    exact absurd h failUnresolved_ok
  | some g =>
    simp only [hg, bind_ok, pure_ok] at h
    obtain ⟨id, s₁, h, rfl, rfl⟩ := h
    refine ⟨g, id, rfl, rfl, (globalType_ok hcalls hix hs hg h).2.2.1, fun hempty =>
      (globalType_unremembered hcalls hix hs hg hempty h).imp_right ?_⟩
    rintro ⟨d, hsteps, hfresh, hopened, m, hm, hi⟩
    exact ⟨hfresh, hopened.imp fun _ hd => hd ▸ hsteps, m, hm, hi ▸ hempty⟩

variable (hix : env.index.Lawful) (he : Evolves env none { resolver } s)
  (hg : env.index.element? g.definition.name = some g)
  (h : globalElementType env.calls env (.ofGlobal .elements g) s = .ok (resolved, t))
include hix he hg h

/-- A type that is given in place comes to the node for it. -/
theorem globalElementType_given {type : TypeDefinition}
    (htype : g.definition.typeRef = some (.inline type)) (hv : resolved.type = .node id) :
    GivenFor t g type id := by
  have hst := (globalElementType_ok (Calls.sound_callsUpTo hix env.limit) hix he.sound_of_start
    rfl hg h).1
  have het := he.trans hst
  cases globalElementType_cases h with
  | untyped hr => cases htype.symm.trans hr
  | named hr => cases htype.symm.trans hr
  | known _ hk hresolved =>
    subst hresolved
    cases hv
    exact givenFor_of_key het hg htype (hst.extend.cache _ _ hk)
  | complex hr hclass hresolved =>
    cases htype.symm.trans hr
    subst hresolved
    cases hv
    have hpart := Belongs.elementType (.globalElement hg) hr
    -- The class is one that was there, under the name or for the place, or it is opened now.
    obtain ⟨-, -, -, hreaches⟩ := (Calls.sound_callsUpTo hix env.limit).classNode
      he.sound_of_start (.typeInPlace hpart rfl) (.inPlace (.element hg hr) rfl)
      (.inPlace hpart.reference_steps (by
        rintro _ ⟨⟩
        exact ⟨rfl, .element hg rfl⟩)) (fun hname => by cases hname) hclass
    rcases hreaches with ⟨_, ⟨⟩, hk'⟩ | hp | ⟨-, ho, n, hn, hi⟩
    · exact givenFor_of_key het hg htype (hst.extend.cache _ _ hk')
    · exact givenFor_of_place het hg htype (hst.extend.inlineTypes _ _ hp)
    · exact .inl ⟨ho.imp fun d hd => hd ▸ rfl, n, hn, hi ▸ rfl⟩
  | @simple _ s₁ hr hinline ht =>
    cases htype.symm.trans hr
    obtain ⟨-, -, hplaced⟩ :=
      inlineSimpleType_ok he.sound_of_start (.elementType (.globalElement hg) hr) rfl hinline
    have hplace := hplaced.place _ id rfl nofun hv
    refine givenFor_of_place het hg htype ?_
    rcases ht with ⟨-, rfl⟩ | ⟨_, -, rfl⟩ <;> exact hplace

omit hix he hg in
/-- It is a node if the type is complex. -/
theorem globalElementType_isNode {type : ComplexType}
    (htype : g.definition.typeRef = some (.inline (.complex type))) :
    ∃ id, resolved.type = .node id := by
  cases globalElementType_cases h with
  | untyped hr => cases htype.symm.trans hr
  | named hr => cases htype.symm.trans hr
  | known _ _ hresolved => exact ⟨_, congrArg Resolved.type hresolved⟩
  | complex _ _ hresolved => exact ⟨_, congrArg Resolved.type hresolved⟩
  | simple hr => cases htype.symm.trans hr

omit hg in
/-- The class that an empty name comes to is a new one. -/
theorem globalElementType_fresh (hclass : (t.graph.class? id).isSome)
    (hv : resolved.type = .node id) : Names g ∨ s.graph.size ≤ id := by
  by_cases hnames : Names g
  · exact .inl hnames
  · simp only [Names, not_forall, Bool.not_eq_false] at hnames
    obtain ⟨n, htype, hempty⟩ := hnames
    cases globalElementType_cases h with
    | named hr hn =>
      cases hr.symm.trans htype
      obtain ⟨_, _, -, hid, -, hfresh⟩ :=
        namedType_node hix he.sound_of_start (namedType_not_builtin hn hv) hn
      obtain rfl := ValueType.node.inj (hid.symm.trans hv)
      exact .inr ((hfresh hempty).resolve_left fun hno =>
        Graph.not_isSome_class? hno hclass).1
    | untyped hr => cases hr.symm.trans htype
    | known hr => cases hr.symm.trans htype
    | complex hr => cases hr.symm.trans htype
    | simple hr => cases hr.symm.trans htype

/-- The type of an element comes to what it should. -/
theorem globalElementType_runs :
    Evolves env none s t ∧ TypeFor env t g resolved.type ∧ t.graph.IsValue resolved.type := by
  obtain ⟨hst, hw, hvalue⟩ := globalElementType_ok (Calls.sound_callsUpTo hix env.limit) hix
    he.sound_of_start rfl hg h
  refine ⟨hst, ⟨hw, fun id hv => ?_, fun n type hr hb htype hk => ?_,
    fun type => globalElementType_isNode h⟩, hvalue⟩
  · cases globalElementType_cases h with
    | untyped _ hresolved => cases hresolved ▸ hv
    | named hr hn =>
      have hb := namedType_not_builtin hn hv
      obtain ⟨_, id', -, hid, -, hempty⟩ := namedType_node hix he.sound_of_start hb hn
      obtain rfl := ValueType.node.inj (hid.symm.trans hv)
      exact .inl ⟨_, hr, hb, hv ▸ hw _ hr hb, fun h => (hempty h).imp_right And.right⟩
    | known hr => exact .inr ⟨_, hr, globalElementType_given hix he hg h hr hv⟩
    | complex hr => exact .inr ⟨_, hr, globalElementType_given hix he hg h hr hv⟩
    | simple hr => exact .inr ⟨_, hr, globalElementType_given hix he hg h hr hv⟩
  · cases globalElementType_cases h with
    | named hr' hn =>
      cases hr'.symm.trans hr
      obtain ⟨g', id, hg', hid, hclass, -⟩ := namedType_node hix he.sound_of_start hb hn
      obtain rfl := Option.some.inj (htype.symm.trans hg')
      exact ⟨id, hid, hclass hk⟩
    | untyped hr' => cases hr'.symm.trans hr
    | known hr' => cases hr'.symm.trans hr
    | complex hr' => cases hr'.symm.trans hr
    | simple hr' => cases hr'.symm.trans hr

end

/-! ## What is done about root elements -/

/-- An environment beside itself, with nothing left out. -/
def Mirror.plain (env : Environment) : Mirror where
  erasure := .none
  env := env
  env' := env
  bounds := none
  index := rfl
  naming := rfl
  reserved := rfl
  interfaces := rfl
  ordered := (Bool.and_true _).symm
  unrestricted := Erasure.restrictions_none
  classify document visiting t _ := by
    rw [funext Erasure.classification_none]
    exact (congrFun Except.map_id _).symm
  settles := nofun
  limit_le := Nat.le_refl _
  limit_eq _ := rfl
  covers := nofun
  deep := nofun

theorem globalType_quiet {name : QName} {type : Global TypeDefinition}
    (hg : env.index.type? name = some type)
    (h : globalType env.calls env type s = .ok (id, t)) : Quiet s t :=
  (Mirror.globalType_follows (M := .plain env) Mirror.descends_calls hg nofun).keeps _ _ h

theorem globalElementType_quiet {resolved : Resolved}
    (hg : env.index.element? g.definition.name = some g)
    (h : globalElementType env.calls env (.ofGlobal .elements g) s = .ok (resolved, t)) :
    Quiet s t :=
  (Mirror.globalElementType_follows (M := .plain env) Mirror.descends_calls hg nofun).keeps _ _ h

end XmlTypes.Build
