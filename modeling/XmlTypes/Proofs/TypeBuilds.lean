import XmlTypes.Proofs.Gathering
/-!
# Building the types of members

What a reference to a type comes to follows from how it is written, whatever was built before. The
ways down are taken on trust here, as `Calls.Completes` says what they do.
-/

namespace XmlTypes.Build

open Schema

variable {env : Environment} {s t : State}

/-- The ways down fill what they open. -/
structure Calls.Completes (env : Environment) (c : Calls) : Prop where
  classNode : ∀ {d identity candidate key s id t}, Ready env s → Belongs env.index (.type d) →
    Keyed env.index d identity key → c.classNode d identity candidate key s = .ok (id, t) →
    Builds env none none s t ∧
      (d.definition.name = none → t.context.inlineType? d.place = some id)
  particle : ∀ {r scope d outer compositor before s scope' t}, Gathering env s r scope before →
    Belongs env.index (.particle d) → c.particle scope d outer compositor s = .ok (scope', t) →
    ∃ stops, AlongParticle env.index s.context.active d outer compositor stops ∧
      Gathers env s t r scope' (before ++ stops)
  attributes : ∀ {r scope d before s scope' t}, Gathering env s r scope before →
    Belongs env.index (.entries d) → c.attributes scope d s = .ok (scope', t) →
    ∃ stops, AlongEntries env.index s.context.active d d.definition.zipIdx stops ∧
      Gathers env s t r scope' (before ++ stops)

/-! ## Values and nodes -/

/-- A value that is no node is a primitive. -/
theorem type_of_valueIn {document : Document} {r : TypeRef} {value : Resolved}
    (h : valueIn env document r = some value) : ∃ p, value.type = .primitive p := by
  cases r with
  | named name =>
    obtain ⟨p, -, rfl⟩ := Option.map_eq_some_iff.1 h
    exact ⟨p, rfl⟩
  | inline type =>
    cases type with
    | complex type => cases h
    | simple type =>
      unfold valueIn at h
      dsimp only at h
      split at h
      · obtain rfl := Option.some.inj h
        exact ⟨_, rfl⟩
      · cases h

theorem Yields.of_node {d : Declared TypeRef} {type : Resolved} {id : NodeId}
    (h : Yields env s d type) (hid : type.type = .node id) : type = .node id := by
  unfold Yields at h
  cases hv : valueIn env d.document d.definition with
  | some value =>
    simp only [hv] at h
    obtain ⟨p, hp⟩ := type_of_valueIn hv
    rw [h, hp] at hid
    cases hid
  | none =>
    simp only [hv] at h
    obtain ⟨-, j, rfl, -⟩ := h
    obtain rfl := ValueType.node.inj hid
    rfl

/-- A complex type given in place comes to a node, which is the one for its place if it has no
name. -/
theorem ComesTo.complex {d : Declared TypeRef} {type : ComplexType} {id : NodeId}
    (hd : d.definition = .inline (.complex type))
    (hplace : type.name = none → s.context.inlineType? d.place = some id) :
    ComesTo env s d (.node id) := by
  refine ⟨?_, fun _ => ⟨id, rfl⟩, ?_⟩
  · unfold Yields
    simp only [hd, valueIn]
    exact ⟨trivial, id, rfl, by rintro _ ⟨⟩⟩
  · rintro type' _ hdef hname ⟨⟩
    obtain rfl := TypeRef.inline.inj (hd.symm.trans hdef)
    exact hplace (hname rfl)

/-- Any other reference comes to the node for its place if it comes to what is written. -/
theorem Yields.comesTo {d : Declared TypeRef} {type : Resolved} (h : Yields env s d type)
    (hd : ∀ t, d.definition ≠ .inline (.complex t)) : ComesTo env s d type := by
  refine ⟨h, fun hnode => ?_, fun type' id hdef _ hid => ?_⟩
  · unfold Yields at h
    simp only [hnode.valueIn_eq] at h
    obtain ⟨-, id, rfl, -⟩ := h
    exact ⟨id, rfl⟩
  · have hresolved := h.of_node hid
    unfold Yields at h
    cases hv : valueIn env d.document d.definition with
    | some value =>
      simp only [hv] at h
      obtain ⟨p, hp⟩ := type_of_valueIn hv
      rw [h, hp] at hid
      cases hid
    | none =>
      simp only [hv] at h
      obtain ⟨-, j, hj, hplace⟩ := h
      obtain rfl := ValueType.node.inj (hid.symm.trans (congrArg Resolved.type hj))
      cases type' with
      | complex t => exact absurd hdef (hd t)
      | simple t => exact hplace t hdef

/-! ## Simple types -/

theorem simpleTypeNode_builds {name : QName} {d : Declared SimpleType} {id : NodeId}
    (hs : Ready env s) (h : simpleTypeNode env name d s = .ok (id, t)) :
    Builds env none none s t := by
  unfold simpleTypeNode at h
  rw [getContext_bind] at h
  cases hk : s.context.cache.get? ⟨.simpleType, d.location, name⟩ with
  | some found =>
    rw [hk] at h
    obtain ⟨-, rfl⟩ := pure_ok.1 h
    exact .refl hs nofun
  | none =>
    simp only [hk, bind_ok, lift_ok] at h
    obtain ⟨c, s₁, ⟨-, rfl⟩, h⟩ := h
    have created {n : Node} {s₁ : State} (ha : Adds n s s₁) :
        Builds env none none s { s₁ with
          context := s₁.context.recordNamed ⟨.simpleType, d.location, name⟩ id } :=
      (Builds.adds hs ha).trans (.recordNamed (Builds.adds hs ha).ready nofun nofun)
    cases c <;> simp only [bind_ok, modifyContext_ok, pure_ok] at h <;>
      obtain ⟨_, s₁, hnew, _, _, rfl, rfl, rfl⟩ := h
    · obtain ⟨-, n, -, -, ha⟩ := enumNode_ok hnew
      exact created ha
    · obtain ⟨-, n, -, ha⟩ := newNode_ok hnew
      exact created ha

/-- A simple type given in place comes to the enumeration for its place, or to a value. -/
theorem inlineSimpleType_builds {d : Declared SimpleType} {candidate : String}
    {resolved : Resolved} (hs : Ready env s)
    (hd : Belongs env.index (.reference (d.inPlace (.inline (.simple d.definition)))))
    (h : inlineSimpleType env d candidate s = .ok (resolved, t)) :
    Builds env none none s t ∧
      ComesTo env t (d.inPlace (.inline (.simple d.definition))) resolved := by
  refine And.imp_right (fun hy => Yields.comesTo hy nofun) ?_
  unfold inlineSimpleType at h
  rw [getContext_bind] at h
  unfold Yields
  cases hk : s.context.inlineType? d.place with
  | some found =>
    simp only [hk] at h
    obtain ⟨rfl, rfl⟩ := pure_ok.1 h
    have hnode := hs.places _ _ hk _ hd rfl
    rw [hnode.valueIn_eq]
    exact ⟨.refl hs nofun, hnode, found, rfl, fun _ _ => hk⟩
  | none =>
    simp only [hk, bind_ok, lift_ok] at h
    obtain ⟨c, s₁, ⟨hc, rfl⟩, h⟩ := h
    cases c with
    | value type restrictions isList =>
      obtain ⟨rfl, rfl⟩ := pure_ok.1 h
      refine ⟨.refl hs nofun, ?_⟩
      simp only [Declared.inPlace, valueIn, hc]
    | enumeration facets =>
      simp only [bind_ok, modifyContext_ok, pure_ok] at h
      obtain ⟨_, s₁, hnew, _, _, rfl, rfl, rfl⟩ := h
      obtain ⟨rfl, n, -, -, ha⟩ := enumNode_ok hnew
      have hnode : NodeIn env d.document (.inline (.simple d.definition)) := ⟨facets, hc⟩
      refine ⟨(Builds.adds hs ha).trans (.recordInline (Builds.adds hs ha).ready ?_), ?_⟩
      · -- Nothing else is there.
        intro d' hd' hplace
        cases hd.unique hd' hplace.symm
        exact hnode
      · simp only [Declared.inPlace, hnode.valueIn_eq]
        exact ⟨hnode, _, rfl, fun _ _ => Table.get?_insertNew_self (ha.context ▸ hk)⟩

/-! ## References -/

section
variable {c : Calls} (hcalls : c.Completes env) (hix : env.index.Lawful)
include hcalls hix

theorem complexType_builds {d : Declared ComplexType} {candidate : Option String} {id : NodeId}
    (hs : Ready env s) (hd : Belongs env.index (.type d))
    (h : complexType c env d candidate s = .ok (id, t)) : Builds env none none s t ∧
      (d.definition.name = none → t.context.inlineType? d.place = some id) := by
  unfold complexType at h
  cases hn : d.definition.name with
  | some name =>
    simp only [hn] at h
    exact ⟨(hcalls.classNode hs hd (.named hn) h).1, nofun⟩
  | none =>
    cases candidate with
    | none =>
      simp only [hn] at h
      exact absurd h failUnsupported_ok
    | some candidate =>
      simp only [hn] at h
      refine (hcalls.classNode hs hd (.inPlace ?_ (by simp)) h).imp_right fun hplace _ => hplace hn
      rcases hd.type_cases with ⟨n, g, hg, hgd, -, -⟩ | ⟨r, hr, -, -, hp⟩
      · have := hix.types n g hg
        rw [hgd, TypeDefinition.name, hn] at this
        cases this
      · exact hp ▸ hr.reference_steps

theorem globalType_builds {name : QName} {g : Global TypeDefinition} {id : NodeId}
    (hs : Ready env s) (hg : env.index.type? name = some g)
    (h : globalType c env g s = .ok (id, t)) : Builds env none none s t := by
  cases hd : g.definition with
  | complex type =>
    simp only [globalType, hd] at h
    exact (complexType_builds hcalls hix hs (.globalType hg hd) h).1
  | simple type =>
    rw [globalType_simple hix hg hd] at h
    exact simpleTypeNode_builds hs h

/-- The name of a type comes to a built-in value, or to the node of the type. -/
theorem namedType_builds {d : Declared TypeRef} {name : QName} {resolved : Resolved}
    (hs : Ready env s) (hd : d.definition = .named name)
    (h : namedType c env name d.document s = .ok (resolved, t)) :
    Builds env none none s t ∧ ComesTo env t d resolved := by
  refine And.imp_right (fun hy => Yields.comesTo hy (by simp [hd])) ?_
  unfold namedType at h
  unfold Yields
  simp only [hd, valueIn]
  cases hp : (if name.isXsd then Primitive.ofBuiltin? name.name else none) with
  | some p =>
    simp only [hp] at h
    obtain ⟨rfl, rfl⟩ := pure_ok.1 h
    exact ⟨.refl hs (by rintro _ ⟨⟩), rfl⟩
  | none =>
    simp only [hp] at h
    cases hg : env.index.type? name with
    | none =>
      simp only [hg] at h
      exact absurd h failUnresolved_ok
    | some g =>
      simp only [hg, bind_ok, pure_ok] at h
      obtain ⟨id, s₁, h, rfl, rfl⟩ := h
      refine ⟨globalType_builds hcalls hix hs hg h, ?_, id, rfl, by rintro _ ⟨⟩⟩
      simpa [NodeIn, isBuiltin] using hp

/-- A type reference comes to what is written. -/
theorem typeRef_builds {d : Declared TypeRef} {candidate : String} {resolved : Resolved}
    (hs : Ready env s) (hd : Belongs env.index (.reference d))
    (h : typeRef c env d candidate s = .ok (resolved, t)) :
    Builds env none none s t ∧ ComesTo env t d resolved := by
  unfold typeRef at h
  cases hk : d.definition with
  | named name =>
    simp only [hk] at h
    exact namedType_builds hcalls hix hs hk h
  | inline type =>
    simp only [hk, inlineType] at h
    cases type with
    | complex type =>
      simp only [Declared.inPlace, bind_ok, pure_ok] at h
      obtain ⟨id, s₁, h, rfl, rfl⟩ := h
      exact (complexType_builds hcalls hix hs (.typeInPlace hd hk) h).imp_right (.complex hk)
    | simple type =>
      have hself : d = (d.inPlace type).inPlace (.inline (.simple type)) := by
        rw [← hk]
        rfl
      rw [hself] at hd ⊢
      exact inlineSimpleType_builds hs hd h

/-! ## Types of global elements and attributes -/

/-- The type of a global element comes to what is written. -/
theorem globalElementType_builds {g : Global ElementDecl} {resolved : Resolved}
    (hs : Ready env s) (hg : env.index.element? g.definition.name = some g)
    (h : globalElementType c env (.ofGlobal .elements g) s = .ok (resolved, t))
    (isReference : Bool) (occurs : Occurs) (compositor : Compositor) :
    let m := Stop.element (.ofGlobal .elements g) isReference occurs compositor
    Builds env none none s t ∧ m.HasType env t resolved ∧ m.PlacedAs env t resolved.type := by
  intro m
  -- A type that is given is that of the part, whatever the bounds and the compositor.
  have htyped {r : TypeRef} (hr : g.definition.typeRef = some r)
      (hy : ComesTo env t ((Declared.ofGlobal .elements g).part .type r) resolved) :
      m.HasType env t resolved ∧ m.PlacedAs env t resolved.type :=
    Stop.hasType_of_typeRef? (by simp [m, Stop.typeRef?, Declared.ofGlobal, hr]) hy
  have hpart {r : TypeRef} (hr : g.definition.typeRef = some r) :
      Belongs env.index (.reference ((Declared.ofGlobal .elements g).part .type r)) :=
    .elementType (.globalElement hg) hr
  cases globalElementType_cases h with
  | untyped hr hresolved ht =>
    subst ht
    subst hresolved
    change g.definition.typeRef = none at hr
    exact ⟨.refl hs nofun,
      Stop.hasType_untyped env t (by simp [m, Stop.typeRef?, Declared.ofGlobal, hr])⟩
  | named hr hn =>
    obtain ⟨hb, hy⟩ := namedType_builds
      (d := (Declared.ofGlobal .elements g).part .type (.named _)) hcalls hix hs rfl hn
    exact ⟨hb, htyped hr hy⟩
  | known hr hk hresolved ht =>
    subst ht hresolved
    exact ⟨.refl hs nofun, htyped hr (hs.elements _ _ rfl hk g _ hg hr)⟩
  | complex hr hclass hresolved =>
    subst hresolved
    refine (hcalls.classNode hs (.typeInPlace (hpart hr) rfl)
      (.inPlace (hpart hr).reference_steps ?_) hclass).imp_right fun hplace =>
        htyped hr (.complex rfl hplace)
    rintro _ ⟨⟩
    exact ⟨rfl, .element hg rfl⟩
  | @simple type s₁ hr hinline ht =>
    obtain ⟨hb, hy⟩ := inlineSimpleType_builds
      (d := (Declared.ofGlobal .elements g).part .type type) hs (hpart hr) hinline
    rcases ht with ⟨-, rfl⟩ | ⟨id, hv, rfl⟩
    · exact ⟨hb, htyped hr hy⟩
    · have hrecord := @Builds.recordNamed env s₁
        ⟨.elementType, g.document.location, g.definition.name⟩ id hb.ready
        (fun _ g' r' hg' hr' => by
          obtain rfl := Option.some.inj (hg.symm.trans hg')
          obtain rfl := Option.some.inj (hr.symm.trans hr')
          exact hy.yields.of_node hv ▸ hy) nofun
      exact ⟨hb.trans hrecord, htyped hr (hy.mono hrecord.extend)⟩

/-- The type of a global attribute comes to what is written. -/
theorem globalAttributeType_builds {g : Global AttributeDecl} {r : TypeRef} {resolved : Resolved}
    (hs : Ready env s) (hg : env.index.attribute? g.definition.name = some g)
    (hr : g.definition.typeRef = some r)
    (h : globalAttributeType c env (.ofGlobal .attributes g) r s = .ok (resolved, t)) :
    Builds env none none s t ∧
      ComesTo env t ((Declared.ofGlobal .attributes g).part .type r) resolved := by
  unfold globalAttributeType at h
  rw [getContext_bind] at h
  simp only [Declared.location, Declared.ofGlobal] at h
  cases hk : s.context.cache.get? ⟨.attributeType, g.document.location, g.definition.name⟩ with
  | some found =>
    simp only [hk] at h
    obtain ⟨rfl, rfl⟩ := pure_ok.1 h
    exact ⟨.refl hs (by rintro _ ⟨⟩), hs.attributes _ _ rfl hk g _ hg hr⟩
  | none =>
    simp only [hk] at h
    rw [bind_ok] at h
    obtain ⟨resolved', s₁, href, h⟩ := h
    obtain ⟨hb, hy⟩ :=
      typeRef_builds hcalls hix hs (.attributeType (.globalAttribute hg) hr) href
    cases r with
    | named name =>
      simp only [pure_ok] at h
      obtain ⟨rfl, rfl⟩ := h
      exact ⟨hb, hy⟩
    | inline type =>
      cases hv : resolved'.type with
      | primitive p =>
        simp only [hv, pure_ok] at h
        obtain ⟨rfl, rfl⟩ := h
        exact ⟨hb, hy⟩
      | node id =>
        simp only [hv, bind_ok, modifyContext_ok, pure_ok] at h
        obtain ⟨-, s₂, rfl, rfl, rfl⟩ := h
        have hrecord := @Builds.recordNamed env s₁
          ⟨.attributeType, g.document.location, g.definition.name⟩ id hb.ready
          (by rintro ⟨⟩) (fun _ g' r' hg' hr' => by
            obtain rfl := Option.some.inj (hg.symm.trans hg')
            obtain rfl := Option.some.inj (hr.symm.trans hr')
            exact hy.yields.of_node hv ▸ hy)
        exact ⟨hb.trans hrecord, hy.mono hrecord.extend⟩

end

end XmlTypes.Build
