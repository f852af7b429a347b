import XmlTypes.Proofs.Depths
import XmlTypes.Proofs.Globals
import XmlTypes.Proofs.Mirroring
/-!
# Every part of a construction is mirrored

One lemma for each function of the construction: from what is left of a state, in the other
environment, it does what is left of what it does. The ways down are taken on trust
(`Mirror.Descends`) until `Mirror.descends_callsUpTo` ties the recursion, and each lemma asks for
the room that its function needs: what is given in place needs a level for each of its own, and a
global declaration needs none, as it is behind a door.
-/

namespace XmlTypes.Build

open Schema

namespace Mirror

variable {M : Mirror} {s t : State}

/-- The ways down are mirrored as far as there is fuel. -/
structure Descends (M : Mirror) (k : Nat) (c c' : Calls) : Prop where
  classNode : ∀ d identity candidate key s, M.Enters k d key s →
    (∀ j, key = some j → j.kind ≠ .rootElement) →
    M.Follows Quiet id (c.classNode d identity candidate key)
      (c'.classNode d identity candidate key) s
  particle : ∀ scope d outer compositor s, M.Room k d.definition.depth s →
    M.Follows Quiet M.erasure.scope (c.particle scope d outer compositor)
      (c'.particle (M.erasure.scope scope) d outer compositor) s
  attributes : ∀ scope d s, M.Room k (AttributeItem.depths d.definition) s →
    M.Follows Quiet M.erasure.scope (c.attributes scope d)
      (c'.attributes (M.erasure.scope scope) d) s

/-! ## Simple types -/

theorem enumNode_follows (d : Declared SimpleType) (identity : QName) (candidate : String)
    (facets : List Facet) :
    M.Follows Quiet id (enumNode M.env d identity candidate facets)
      (enumNode M.env' d identity candidate facets) s := by
  unfold enumNode
  refine Follows.bind (newNode_follows rfl) fun node t hnew hst => ?_
  refine Follows.getGraph ?_
  rw [M.erasure.nameOf_graph, M.naming]
  refine Follows.bind (.modifyGraph (M.erasure.graph_modify _ _ fun _ => rfl) ?_)
    fun _ _ _ _ => .pure rfl
  -- The node is an enumeration before and after.
  obtain ⟨rfl, n, hm, ha⟩ := newNode_ok hnew
  refine .of_still ⟨Graph.size_modify _ _, fun id => ?_⟩
  rw [Graph.node?_modify]
  split
  · rename_i hid
    rw [Graph.node?_of_push ha.nodes, if_pos hid]
    simp [Node.standing, Node.class?, hm.kind]
  · rfl

/-- A simple type that is no deeper than declarations nest is classified. -/
theorem classify_follows {document : Document} {visiting : List QName} {t : SimpleType}
    (ht : ∀ b, M.bounds = some b → t.depth ≤ b.depth) :
    M.Follows Quiet M.erasure.classification
      (liftM (Build.classify M.env document visiting t) : Build Classification)
      (liftM (Build.classify M.env' document visiting t) : Build Classification) s := by
  refine .lift (M.classify _ _ _ ht) fun hb e he => ?_
  obtain ⟨b, hb⟩ := Option.isSome_iff_exists.1 hb
  exact M.settles b hb _ _ _ e (ht b hb) he

theorem simpleTypeNode_follows (name : QName) {d : Declared SimpleType}
    (hd : ∀ b, M.bounds = some b → d.definition.depth ≤ b.depth) :
    M.Follows Quiet id (simpleTypeNode M.env name d) (simpleTypeNode M.env' name d) s := by
  unfold simpleTypeNode
  refine Follows.getContext ?_
  cases s.context.cache.get? ⟨.simpleType, d.location, name⟩ with
  | some node => exact .pure rfl
  | none =>
    refine Follows.bind (classify_follows hd) fun c t _ _ => ?_
    rw [M.naming]
    cases c with
    | enumeration facets =>
      exact Follows.bind (enumNode_follows _ _ _ _) fun node _ _ _ =>
        recordNamed_follows (by simp) node rfl
    | value type restrictions isList =>
      exact Follows.bind (newNode_follows rfl) fun node _ _ _ =>
        recordNamed_follows (by simp) node rfl

theorem namedSimpleType_follows {d : Declared SimpleType}
    (hd : ∀ b, M.bounds = some b → d.definition.depth ≤ b.depth) :
    M.Follows Quiet id (namedSimpleType M.env d) (namedSimpleType M.env' d) s := by
  unfold namedSimpleType
  cases d.definition.name with
  | some name => exact simpleTypeNode_follows name hd
  | none => exact .failUnsupported _

theorem inlineSimpleType_follows {d : Declared SimpleType} (candidate : String)
    (hd : ∀ b, M.bounds = some b → d.definition.depth ≤ b.depth) :
    M.Follows Quiet M.erasure.resolved (inlineSimpleType M.env d candidate)
      (inlineSimpleType M.env' d candidate) s := by
  unfold inlineSimpleType
  refine Follows.getContext ?_
  have hnode (node : NodeId) : Resolved.node node = M.erasure.resolved (.node node) := by
    simp [Erasure.resolved, Resolved.node, M.unrestricted]
  cases s.context.inlineType? d.place with
  | some node => exact .pure (hnode node)
  | none =>
    refine Follows.bind (classify_follows hd) fun c t _ _ => ?_
    cases c with
    | enumeration facets =>
      exact Follows.bind (enumNode_follows _ _ _ _) fun node _ _ _ =>
        recordInline_follows _ node (hnode node)
    | value type restrictions isList => exact .pure rfl

/-! ## References -/

section
variable {k : Nat} {c c' : Calls} (hcalls : M.Descends k c c')
include hcalls

theorem complexType_follows {d : Declared ComplexType} {candidate : Option String}
    (hs : M.Enters k d (typeKey? d) s) :
    M.Follows Quiet id (complexType c M.env d candidate) (complexType c' M.env' d candidate) s := by
  unfold complexType
  rw [M.naming]
  unfold typeKey? at hs
  cases hname : d.definition.name with
  | none =>
    rw [hname] at hs
    cases candidate with
    | some candidate => exact hcalls.classNode _ _ _ _ _ hs nofun
    | none => exact .failUnsupported _
  | some name =>
    rw [hname] at hs
    refine hcalls.classNode _ _ _ _ _ hs ?_
    rintro _ ⟨⟩
    exact nofun

/-- A global type is behind a door. -/
theorem globalType_follows {name : QName} {g : Global TypeDefinition}
    (hg : M.env.index.type? name = some g) (hs : M.Room k 0 s) :
    M.Follows Quiet id (globalType c M.env g) (globalType c' M.env' g) s := by
  unfold globalType
  cases hd : g.definition with
  | complex t =>
    exact complexType_follows hcalls (hs.enters_door fun b hb =>
      (M.covers b hb).types name g t hg hd)
  | simple t =>
    refine namedSimpleType_follows fun b hb => Nat.le_of_succ_le ?_
    have hle := (M.covers b hb).typeDepth name g hg
    rwa [hd] at hle

theorem namedType_follows {name : QName} {document : Document} (hs : M.Room k 0 s) :
    M.Follows Quiet M.erasure.resolved (namedType c M.env name document)
      (namedType c' M.env' name document) s := by
  unfold namedType
  rw [M.index]
  have hresolved (type : ValueType) (isList : Bool) : ({ type, isList } : Resolved) =
      M.erasure.resolved { type, isList } := by
    simp [Erasure.resolved, M.unrestricted]
  cases (if name.isXsd then Primitive.ofBuiltin? name.name else none) with
  | some p => exact .pure (hresolved _ _)
  | none =>
    cases hg : M.env.index.type? name with
    | none => exact .failUnresolved _ _ _
    | some g =>
      exact Follows.bind (globalType_follows hcalls hg hs) fun node _ _ _ =>
        .pure (hresolved (.node node) false)

theorem inlineType_follows {d : Declared TypeDefinition} {candidate : String}
    (hdepth : ∀ b, M.bounds = some b → d.definition.depth ≤ b.depth)
    (hs : ∀ t, d.definition = .complex t →
      M.Enters k (d.inPlace t) (typeKey? (d.inPlace t)) s) :
    M.Follows Quiet M.erasure.resolved (inlineType c M.env d candidate)
      (inlineType c' M.env' d candidate) s := by
  unfold inlineType
  cases hd : d.definition with
  | complex t =>
    refine Follows.bind (complexType_follows hcalls (hs t hd)) fun node _ _ _ => .pure ?_
    simp [Erasure.resolved, Resolved.node, M.unrestricted]
  | simple t =>
    refine inlineSimpleType_follows _ fun b hb => Nat.le_of_succ_le ?_
    have hle := hdepth b hb
    rwa [hd] at hle

/-- A type that is given in place needs room of its own, a name does not. -/
theorem typeRef_follows {d : Declared TypeRef} {candidate : String} (hs : M.Room k 0 s)
    (hdepth : ∀ b, M.bounds = some b → d.definition.depth ≤ b.depth)
    (ht : ∀ t, d.definition = .inline (.complex t) →
      M.Enters k (d.inPlace t) (typeKey? (d.inPlace t)) s) :
    M.Follows Quiet M.erasure.resolved (typeRef c M.env d candidate)
      (typeRef c' M.env' d candidate) s := by
  unfold typeRef
  cases hd : d.definition with
  | named name => exact namedType_follows hcalls hs
  | inline type =>
    refine inlineType_follows hcalls (fun b hb => Nat.le_of_succ_le ?_) fun t h =>
      ht t (hd.trans (congrArg _ h))
    have hle := hdepth b hb
    rwa [hd] at hle

theorem typeRef_follows_of_room {d : Declared TypeRef} {candidate : String}
    (hs : M.Room k d.definition.depth s) :
    M.Follows Quiet M.erasure.resolved (typeRef c M.env d candidate)
      (typeRef c' M.env' d candidate) s := by
  refine typeRef_follows hcalls (hs.mono (Nat.zero_le _)) (fun b hb => (hs b hb).1) fun t hd =>
    Room.enters (hs.mono ?_)
  rw [hd]
  change t.depth ≤ t.depth + 1 + 1
  omega

theorem globalElementType_follows {name : QName} {g : Global ElementDecl}
    (hg : M.env.index.element? name = some g) (hs : M.Room k 0 s) :
    M.Follows Quiet M.erasure.resolved (globalElementType c M.env (.ofGlobal .elements g))
      (globalElementType c' M.env' (.ofGlobal .elements g)) s := by
  unfold globalElementType
  rw [M.naming]
  have hresolved (type : ValueType) : ({ type } : Resolved) = M.erasure.resolved { type } := by
    simp [Erasure.resolved, M.unrestricted]
  dsimp only [Declared.ofGlobal, Declared.location]
  cases hr : g.definition.typeRef with
  | none => exact .pure (hresolved _)
  | some r =>
    cases r with
    | named type => exact namedType_follows hcalls hs
    | inline type =>
      refine Follows.getContext ?_
      cases s.context.cache.get? ⟨.elementType, g.document.location, g.definition.name⟩ with
      | some node => exact .pure (hresolved _)
      | none =>
        cases type with
        | complex t =>
          refine Follows.bind (hcalls.classNode _ _ _ _ _ ?_ ?_) fun node _ _ _ =>
            .pure (hresolved (.node node))
          · exact hs.enters_door fun b hb => (M.covers b hb).elements name g t hg hr
          · rintro _ ⟨⟩
            exact nofun
        | simple t =>
          refine Follows.bind (inlineSimpleType_follows _ fun b hb => ?_) fun resolved u _ _ => ?_
          · have hlt := ElementDecl.typeRef_depth_lt hr
            have hle := (M.covers b hb).elementDepth name g hg
            change t.depth + 1 + 1 < g.definition.depth at hlt
            change t.depth ≤ b.depth
            omega
          cases hv : resolved.type with
          | node node =>
            simp only [Erasure.resolved, hv]
            exact recordNamed_follows (by simp) node (by simp [Erasure.resolved, hv])
          | primitive p =>
            simp only [Erasure.resolved, hv]
            exact .pure (by simp [Erasure.resolved, hv])

theorem globalAttributeType_follows {name : QName} {g : Global AttributeDecl} {r : TypeRef}
    (hg : M.env.index.attribute? name = some g) (hr : g.definition.typeRef = some r)
    (hs : M.Room k 0 s) :
    M.Follows Quiet M.erasure.resolved (globalAttributeType c M.env (.ofGlobal .attributes g) r)
      (globalAttributeType c' M.env' (.ofGlobal .attributes g) r) s := by
  unfold globalAttributeType
  rw [M.naming]
  refine Follows.getContext ?_
  dsimp only [Declared.ofGlobal, Declared.location]
  cases s.context.cache.get? ⟨.attributeType, g.document.location, g.definition.name⟩ with
  | some node => exact .pure (by simp [Erasure.resolved, Resolved.node, M.unrestricted])
  | none =>
    refine Follows.bind (typeRef_follows hcalls hs (fun b hb => ?_) ?_) fun resolved u _ _ => ?_
    · have hlt := AttributeDecl.typeRef_depth_lt hr
      exact Nat.le_trans (Nat.le_of_lt hlt) ((M.covers b hb).attributeDepth name g hg)
    · intro t hd
      exact hs.enters_door fun b hb =>
        (M.covers b hb).attributes name g t hg (hr.trans (congrArg _ hd))
    · cases r with
      | named type => exact .pure rfl
      | inline type =>
        cases hv : resolved.type with
        | node node =>
          simp only [Erasure.resolved, hv]
          exact recordNamed_follows (by simp) node (by simp [Erasure.resolved, hv])
        | primitive p =>
          simp only [Erasure.resolved, hv]
          exact .pure (by simp [Erasure.resolved, hv])

/-! ## Elements and wildcards -/

/-- An element that is referred to is the global one of its name; any other has room for its
type. -/
inductive Located (M : Mirror) (k : Nat) (s : State) : Declared ElementDecl → Bool → Prop
  | inPlace {d} : M.Room k d.definition.depth s → Located M k s d false
  | reference {name g} : M.env.index.element? name = some g → M.Room k 0 s →
    Located M k s (.ofGlobal .elements g) true

theorem elementType_follows {scope : Scope} {d : Declared ElementDecl} {isReference : Bool}
    (hs : Located M k s d isReference) :
    M.Follows Quiet M.erasure.resolved (elementType c M.env scope d isReference)
      (elementType c' M.env' (M.erasure.scope scope) d isReference) s := by
  unfold elementType
  rw [M.naming, M.erasure.scope_ownerName]
  cases hs with
  | reference hg hs => exact globalElementType_follows hcalls hg hs
  | inPlace hs =>
    cases hr : d.definition.typeRef with
    | none => exact .pure (by simp [Erasure.resolved, Resolved.primitive, M.unrestricted])
    | some r =>
      exact typeRef_follows_of_room hcalls
        (hs.mono (Nat.le_of_lt (ElementDecl.typeRef_depth_lt hr)))

omit hcalls in
/-- The position of an element is left out with the count of positions. -/
theorem elementProperty_eq (scope : Scope) (e : ElementDecl) (type : Resolved) (occurs : Occurs)
    (compositor : Compositor) (isReference : Bool) :
    elementProperty M.env' (M.erasure.scope scope) e (M.erasure.resolved type) occurs isReference
        (if M.env'.options.emitOrder && compositor = .sequence then
          some (M.erasure.scope scope).nextOrder else none) =
      M.erasure.property (elementProperty M.env scope e type occurs isReference
        (if M.env.options.emitOrder && compositor = .sequence then
          some scope.nextOrder else none)) := by
  have horder : (if M.env'.options.emitOrder && compositor = .sequence then
      some (M.erasure.scope scope).nextOrder else none) =
      if M.erasure.ordered then (if M.env.options.emitOrder && compositor = .sequence then
          some scope.nextOrder else none) else none := by
    rw [M.ordered]
    cases ho : M.erasure.ordered <;> simp [Erasure.scope, ho]
  rw [horder]
  simp only [elementProperty, Erasure.property, Erasure.resolved, Property.make, M.naming,
    Erasure.scope_owner, Erasure.scope_ownerName, Erasure.scope_explicitNamespace]

theorem element_follows {scope : Scope} {d : Declared ElementDecl} {occurs : Occurs}
    {compositor : Compositor} {isReference : Bool} (hs : Located M k s d isReference) :
    M.Follows Quiet M.erasure.scope (element c M.env scope d occurs compositor isReference)
      (element c' M.env' (M.erasure.scope scope) d occurs compositor isReference) s := by
  unfold element
  simp only [Erasure.scope_restated]
  split
  · exact .pure rfl
  · refine Follows.bind (elementType_follows hcalls hs) fun type t _ _ => ?_
    refine Follows.bind (addProperty_follows (elementProperty_eq _ _ _ _ _ _)) fun added u _ _ => ?_
    have hcount : (if M.env'.options.emitOrder && compositor = .sequence then
        { M.erasure.scope scope with nextOrder := (M.erasure.scope scope).nextOrder + 1 }
        else M.erasure.scope scope) =
        M.erasure.scope (if M.env.options.emitOrder && compositor = .sequence then
          { scope with nextOrder := scope.nextOrder + 1 } else scope) := by
      rw [M.ordered]
      cases ho : M.erasure.ordered <;> simp only [Erasure.scope, ho, Bool.and_false,
        Bool.and_true, Bool.false_and, Bool.false_eq_true, if_false, if_true]
      split <;> rfl
    simp only [Erasure.scope_owner, Erasure.scope_restated] at hcount ⊢
    rw [M.index]
    simp only [id]
    split
    · refine Follows.bind (.modifyContext ?_) fun _ _ _ _ => .pure hcount
      exact .of_context rfl (fun _ _ => id) (fun _ _ => id) rfl fun _ _ => rfl
    · exact .pure hcount

omit hcalls in
theorem anyElement_follows (scope : Scope) (w : Wildcard) (occurs : Occurs) :
    M.Follows Quiet id (anyElement scope w occurs) (anyElement (M.erasure.scope scope) w occurs)
      s := by
  unfold anyElement
  refine Follows.bind (addProperty_follows ?_) fun _ _ _ _ => .pure rfl
  simp [Erasure.property, Property.make, M.unrestricted]

omit hcalls in
theorem anyAttribute_follows (scope : Scope) (w : Wildcard) :
    M.Follows Quiet id (anyAttribute scope w) (anyAttribute (M.erasure.scope scope) w) s := by
  unfold anyAttribute
  refine Follows.getGraph ?_
  have hinherited : (((M.erasure.graph s.graph).ancestors (M.erasure.scope scope).owner).any
      fun id => ((M.erasure.graph s.graph).properties id).any fun p =>
        p.isWildcard && p.isAttribute) =
      (s.graph.ancestors scope.owner).any fun id => (s.graph.properties id).any fun p =>
        p.isWildcard && p.isAttribute := by
    simp only [M.erasure.scope_owner, M.erasure.ancestors_graph, M.erasure.properties_graph,
      List.any_map]
    rfl
  simp only [hinherited]
  split
  · exact .pure rfl
  · refine Follows.bind (addProperty_follows ?_) fun _ _ _ _ => .pure rfl
    simp [Erasure.property, Property.make, M.unrestricted]

omit hcalls in
theorem anyAttributeOf_follows (scope : Scope) (declared : Option Wildcard) :
    M.Follows Quiet id (anyAttributeOf scope declared)
      (anyAttributeOf (M.erasure.scope scope) declared) s := by
  unfold anyAttributeOf
  cases declared with
  | some w => exact anyAttribute_follows _ _
  | none =>
    simp only [M.erasure.scope_anyAttribute]
    split
    · exact anyAttribute_follows _ _
    · exact .pure rfl

/-! ## Attributes -/

/-- An attribute that is referred to is the global one of its name; any other has room for its
type. -/
inductive Placed (M : Mirror) (k : Nat) (s : State) : Declared AttributeDecl → Bool → Prop
  | inPlace {d} : M.Room k d.definition.depth s → Placed M k s d false
  | reference {name g} : M.env.index.attribute? name = some g → M.Room k 0 s →
    Placed M k s (.ofGlobal .attributes g) true

theorem attributeType_follows {scope : Scope} {d : Declared AttributeDecl} {isReference : Bool}
    (hs : Placed M k s d isReference) :
    M.Follows Quiet M.erasure.resolved (attributeType c M.env scope d isReference)
      (attributeType c' M.env' (M.erasure.scope scope) d isReference) s := by
  unfold attributeType
  rw [M.naming, M.erasure.scope_ownerName]
  cases hr : d.definition.typeRef with
  | none => exact .pure (by simp [Erasure.resolved, Resolved.primitive, M.unrestricted])
  | some r =>
    cases hs with
    | reference hg hs => exact globalAttributeType_follows hcalls hg hr hs
    | inPlace hs =>
      exact typeRef_follows_of_room hcalls
        (hs.mono (Nat.le_of_lt (AttributeDecl.typeRef_depth_lt hr)))

omit hcalls in
theorem attributeProperty_eq (scope : Scope) (a : AttributeDecl) (type : Resolved)
    (isReference : Bool) :
    attributeProperty M.env' (M.erasure.scope scope) a (M.erasure.resolved type) isReference =
      M.erasure.property (attributeProperty M.env scope a type isReference) := by
  simp only [attributeProperty, Erasure.property, Erasure.resolved, Property.make, M.naming,
    Erasure.scope_owner, Erasure.scope_ownerName, Erasure.scope_explicitNamespace, ite_self]

theorem attributeMember_follows {scope : Scope} {d : Declared AttributeDecl} {isReference : Bool}
    (hs : Placed M k s d isReference) :
    M.Follows Quiet id (attributeMember c M.env scope d isReference)
      (attributeMember c' M.env' (M.erasure.scope scope) d isReference) s := by
  unfold attributeMember
  simp only [M.erasure.scope_restated]
  split
  · exact .pure rfl
  · refine Follows.bind (attributeType_follows hcalls hs) fun type t _ _ => ?_
    exact Follows.bind (addProperty_follows (attributeProperty_eq _ _ _ _)) fun _ _ _ _ => .pure rfl

/-! ## Groups -/

/-- The particles of a group need room, the group itself does not. -/
theorem modelGroup_follows {scope : Scope} {d : Declared ModelGroup} {occurs : Occurs}
    (hs : M.Room k (Particle.depths d.definition.particles) s) :
    M.Follows Quiet M.erasure.scope (modelGroup c scope d occurs)
      (modelGroup c' (M.erasure.scope scope) d occurs) s := by
  unfold modelGroup
  refine Follows.foldlM (P := M.Room k (Particle.depths d.definition.particles))
    (fun s t hs hst => hs.steady hst.toSteady) ?_ hs
  rintro ⟨p, i⟩ hp scope s hs
  refine hcalls.particle _ _ _ _ _ (hs.mono (Particle.depth_le_depths ?_))
  exact List.mem_of_getElem? (List.mk_mem_zipIdx_iff_getElem?.1 hp)

omit hcalls in
/-- While a group is being expanded there may be more room than before and after. -/
theorem expanding_follows {α β : Type} {f : α → β} {group : QName} {collect : Build α}
    {collect' : Build β}
    (h : M.Follows Quiet f collect collect' { s with context := s.context.enter group }) :
    M.Follows Quiet f (expanding group collect) (expanding group collect') s := by
  have hrun : expanding group collect s =
      (collect { s with context := s.context.enter group }).map fun r =>
        (r.1, { r.2 with context := r.2.context.leave }) := by
    change (collect { s with context := s.context.enter group } >>= _) = _
    cases collect { s with context := s.context.enter group } <;> rfl
  have hrun' : expanding group collect' (M.erasure.state s) =
      (collect' (M.erasure.state { s with context := s.context.enter group })).map fun r =>
        (r.1, { r.2 with context := r.2.context.leave }) := by
    change (collect' (M.erasure.state { s with context := s.context.enter group }) >>= _) = _
    cases collect' (M.erasure.state { s with context := s.context.enter group }) <;> rfl
  cases hc : collect { s with context := s.context.enter group } with
  | error e =>
    rw [hc] at hrun
    refine ⟨?_, fun hb e' he => h.settled hb e' ?_, fun a t ht => ?_⟩
    · rw [hrun, hrun', h.image, hc]
      rfl
    · rw [hc, Except.error.inj (hrun.symm.trans he)]
    · rw [hrun] at ht
      cases ht
  | ok r =>
    obtain ⟨a, u⟩ := r
    rw [hc] at hrun
    refine ⟨?_, fun hb e' he => ?_, fun b t ht => ?_⟩
    · rw [hrun, hrun', h.image, hc]
      rfl
    · rw [hrun] at he
      cases he
    · rw [hrun] at ht
      cases ht
      have hq := h.keeps a u hc
      refine ⟨⟨?_, hq.cache, hq.inlineTypes⟩, hq.roots, hq.rootKeys, hq.size, hq.standing, hq.fresh⟩
      simp only [Context.leave, hq.active, Context.enter, List.dropLast_concat]

omit hcalls in
theorem implement_follows {owner : NodeId} {build build' : Build NodeId}
    (h : M.Follows Quiet id build build' s) :
    M.Follows Quiet id (implement M.env owner build) (implement M.env' owner build') s := by
  unfold implement
  rw [M.interfaces]
  split
  · refine Follows.bind h fun interface t _ _ => ?_
    exact .modifyGraph (M.erasure.graph_addImplementer _ _ _) (.of_still (.addImplementer _ _))
  · exact .pure rfl

omit hcalls in
/-- The interface of a group is remembered before its members are collected: there is room for
them, as a door is passed. -/
theorem room_of_interface {n : Nat} {u : State} {key : CacheKey} {document : Document}
    {identity : QName} {candidate : String} {kind : NodeKind} {documentation : List String}
    {id : NodeId} (hs : M.Room k 0 s) (hk : s.context.cache.get? key = none)
    (hd : ∀ b, M.bounds = some b → ⟨some key, none⟩ ∈ b.doors ∧ key.name.isEmpty = false ∧
      n ≤ b.depth)
    (hnew : newNode M.env document identity candidate kind documentation s = .ok (id, t))
    (hst : Quiet s t) (hu : modifyContext (·.recordNamed key id) t = .ok ((), u))
    (htu : Quiet t u) : M.Room k n u := by
  obtain ⟨-, _, -, ha⟩ := newNode_ok hnew
  refine hs.door (hst.toSteady.trans htu.toSteady) fun b hb => ?_
  obtain ⟨hmem, hname, hn⟩ := hd b hb
  refine ⟨_, hmem, ?_, Door.isPassed_iff.2 (.inl ⟨key, id, rfl, ?_⟩), hn⟩
  · simp [Door.isPassed, hk]
  · rw [modifyContext_ok.1 hu]
    exact Cache.get?_insert_self (ha.context ▸ hk) hname

omit hcalls in
theorem interfaceScope_follows (id : NodeId) (document : Document) :
    M.Follows Quiet M.erasure.scope (interfaceScope id document) (interfaceScope id document)
      s := by
  unfold interfaceScope
  refine Follows.getGraph (.pure ?_)
  rw [M.erasure.nameOf_graph]
  exact (M.erasure.scope_of_nextOrder rfl).symm

theorem groupInterface_follows {name : QName} {g : Global GroupDef}
    (hg : M.env.index.group? name = some g) (hs : M.Room k 0 s) :
    M.Follows Quiet id (groupInterface c M.env (.ofGlobal .groups g))
      (groupInterface c' M.env' (.ofGlobal .groups g)) s := by
  unfold groupInterface
  rw [M.naming]
  refine Follows.getContext ?_
  dsimp only [Declared.ofGlobal, Declared.location]
  cases hk : s.context.cache.get? ⟨.group, g.document.location, g.definition.name⟩ with
  | some node => exact .pure rfl
  | none =>
    refine Follows.bind (newNode_follows rfl) fun node t hnew hst => ?_
    refine Follows.bind (.modifyContext (.recordNamed (by simp))) fun _ u hu htu => ?_
    have hroom : M.Room k g.definition.group.depth u := by
      refine room_of_interface hs hk (fun b hb => ?_) hnew hst hu htu
      obtain ⟨-, hname, hmem, hle⟩ := (M.covers b hb).groups name g hg
      exact ⟨hmem, hname, hle⟩
    refine Follows.bind (interfaceScope_follows node _) fun scope v _ huv => ?_
    refine Follows.bind (note_follows scope _) fun _ w _ hvw => ?_
    refine Follows.bind (expanding_follows (modelGroup_follows hcalls (Room.enter_le ?_ _)))
      fun _ _ _ _ => .pure rfl
    refine Room.mono (hroom.steady (huv.toSteady.trans hvw.toSteady)) ?_
    rw [g.definition.group.depth_eq]
    exact Nat.le_succ _

theorem attributeGroupInterface_follows {name : QName} {g : Global AttributeGroupDef}
    (hg : M.env.index.attributeGroup? name = some g) (hs : M.Room k 0 s) :
    M.Follows Quiet id (attributeGroupInterface c M.env (.ofGlobal .attributeGroups g))
      (attributeGroupInterface c' M.env' (.ofGlobal .attributeGroups g)) s := by
  unfold attributeGroupInterface
  rw [M.naming]
  refine Follows.getContext ?_
  dsimp only [Declared.ofGlobal, Declared.location]
  cases hk : s.context.cache.get? ⟨.attributeGroup, g.document.location, g.definition.name⟩ with
  | some node => exact .pure rfl
  | none =>
    refine Follows.bind (newNode_follows rfl) fun node t hnew hst => ?_
    refine Follows.bind (.modifyContext (.recordNamed (by simp))) fun _ u hu htu => ?_
    have hroom : M.Room k (AttributeItem.depths g.definition.attributes) u := by
      refine room_of_interface hs hk (fun b hb => ?_) hnew hst hu htu
      obtain ⟨-, hname, hmem, hle⟩ := (M.covers b hb).attributeGroups name g hg
      exact ⟨hmem, hname, hle⟩
    refine Follows.bind (interfaceScope_follows node _) fun scope v _ huv => ?_
    refine Follows.bind (note_follows scope _) fun _ w _ hvw => ?_
    refine Follows.bind (expanding_follows (hcalls.attributes _ _ _ (Room.enter_le ?_ _)))
      fun scope' _ _ _ => ?_
    · exact hroom.steady (huv.toSteady.trans hvw.toSteady)
    · exact Follows.bind (anyAttributeOf_follows _ _) fun _ _ _ _ => .pure rfl

theorem groupReference_follows {scope : Scope} {name : QName} {document : Document}
    {occurs : Occurs} (hs : M.Room k 0 s) :
    M.Follows Quiet M.erasure.scope (groupReference c M.env scope name document occurs)
      (groupReference c' M.env' (M.erasure.scope scope) name document occurs) s := by
  unfold groupReference
  rw [M.index, M.erasure.scope_owner]
  cases hg : M.env.index.group? name with
  | none => exact .failUnresolved _ _ _
  | some g =>
    refine Follows.bind (implement_follows (groupInterface_follows hcalls hg hs))
      fun _ t _ hst => ?_
    refine Follows.getContext ?_
    split
    · exact .pure rfl
    · rename_i hactive
      refine expanding_follows (modelGroup_follows hcalls ?_)
      refine Room.enter (hs.steady hst.toSteady) (by simpa using hactive) fun b hb => ?_
      obtain ⟨hmem, -, -, hle⟩ := (M.covers b hb).groups name g hg
      rw [g.definition.group.depth_eq] at hle
      exact ⟨hmem, Nat.le_of_succ_le hle⟩

theorem attributeGroupReference_follows {scope : Scope} {name : QName} {document : Document}
    (hs : M.Room k 0 s) :
    M.Follows Quiet M.erasure.scope (attributeGroupReference c M.env scope name document)
      (attributeGroupReference c' M.env' (M.erasure.scope scope) name document) s := by
  unfold attributeGroupReference
  rw [M.index, M.erasure.scope_owner]
  cases hg : M.env.index.attributeGroup? name with
  | none => exact .failUnresolved _ _ _
  | some g =>
    refine Follows.bind (implement_follows (attributeGroupInterface_follows hcalls hg hs))
      fun _ t _ hst => ?_
    refine Follows.getContext ?_
    split
    · exact .pure rfl
    · rename_i hactive
      refine Follows.bind (expanding_follows (hcalls.attributes _ _ _ ?_))
        fun scope' u _ _ => .pure ?_
      · refine Room.enter (hs.steady hst.toSteady) (by simpa using hactive) fun b hb => ?_
        obtain ⟨hmem, -, -, hle⟩ := (M.covers b hb).attributeGroups name g hg
        exact ⟨hmem, hle⟩
      · split
        · unfold Erasure.scope
          split <;> rfl
        · rfl

/-! ## Content models and attribute lists -/

theorem particle_follows {scope : Scope} {d : Declared Particle} {outer : Occurs}
    {compositor : Compositor} (hs : M.Room k d.definition.term.depth s) :
    M.Follows Quiet M.erasure.scope (particle c M.env scope d outer compositor)
      (particle c' M.env' (M.erasure.scope scope) d outer compositor) s := by
  unfold particle
  rw [M.index]
  have hs₀ : M.Room k 0 s := hs.mono (Nat.zero_le _)
  dsimp only
  split
  · exact .pure rfl
  · cases hterm : d.definition.term with
    | element e =>
      rw [hterm] at hs
      refine element_follows hcalls (.inPlace (hs.mono ?_))
      exact Nat.le_succ _
    | elementRef name =>
      dsimp only
      cases hg : M.env.index.element? name with
      | none => exact .failUnresolved _ _ _
      | some g => exact element_follows hcalls (.reference hg hs₀)
    | any w => exact Follows.bind (anyElement_follows _ _ _) fun _ _ _ _ => .pure rfl
    | groupRef name => exact groupReference_follows hcalls hs₀
    | group g =>
      rw [hterm] at hs
      refine modelGroup_follows hcalls (hs.mono ?_)
      change Particle.depths g.particles ≤ g.depth + 1
      rw [g.depth_eq]
      omega

theorem attributeItem_follows {scope : Scope} {d : Declared AttributeItem}
    (hs : M.Room k (d.definition.depth - 1) s) :
    M.Follows Quiet M.erasure.scope (attributeItem c M.env scope d)
      (attributeItem c' M.env' (M.erasure.scope scope) d) s := by
  unfold attributeItem
  rw [M.index]
  have hs₀ : M.Room k 0 s := hs.mono (Nat.zero_le _)
  cases hitem : d.definition with
  | «attribute» a =>
    rw [hitem] at hs
    exact Follows.bind (attributeMember_follows hcalls (.inPlace hs)) fun _ _ _ _ => .pure rfl
  | ref name =>
    dsimp only
    cases hg : M.env.index.attribute? name with
    | none => exact .failUnresolved _ _ _
    | some g =>
      exact Follows.bind (attributeMember_follows hcalls (.reference hg hs₀)) fun _ _ _ _ =>
        .pure rfl
  | group name => exact attributeGroupReference_follows hcalls hs₀

theorem attributes_follows {scope : Scope} {d : Declared (List AttributeItem)}
    (hs : ∀ item ∈ d.definition, M.Room k (item.depth - 1) s) :
    M.Follows Quiet M.erasure.scope (attributes c M.env scope d)
      (attributes c' M.env' (M.erasure.scope scope) d) s := by
  unfold attributes
  refine Follows.foldlM (P := fun s => ∀ item ∈ d.definition, M.Room k (item.depth - 1) s)
    (fun s t hs hst item hi => (hs item hi).steady hst.toSteady) ?_ hs
  rintro ⟨item, i⟩ hi scope s hs
  refine attributeItem_follows hcalls (hs item ?_)
  exact List.mem_of_getElem? (List.mk_mem_zipIdx_iff_getElem?.1 hi)

/-! ## Classes -/

theorem derive_follows {node : NodeId} {derivation : Derivation} {document : Document}
    (hs : M.Room k 0 s) :
    M.Follows Quiet id (derive c M.env node derivation document)
      (derive c' M.env' node derivation document) s := by
  unfold derive
  rw [M.index]
  dsimp only
  split
  · cases hp : Primitive.ofBuiltin? derivation.base.name with
    | none => exact .failUnresolved _ _ _
    | some p =>
      cases p
      case anyType => exact .pure rfl
      all_goals exact setText_follows _ _
  · cases hg : M.env.index.type? derivation.base with
    | none => exact .failUnresolved _ _ _
    | some g =>
      refine Follows.bind (globalType_follows hcalls hg hs) fun base t _ _ => ?_
      simp only [id]
      split
      · refine Follows.bind (.modifyGraph (M.erasure.graph_setBase _ _ _)
          (.of_still (.setBase _ _))) fun _ u _ _ => ?_
        refine Follows.getGraph ?_
        have htext : ((M.erasure.graph u.graph).class? base).bind (·.text) =
            (u.graph.class? base).bind (·.text) := by
          cases h : u.graph.class? base <;> simp [h, Erasure.classShape]
        rw [htext]
        cases (u.graph.class? base).bind (·.text) with
        | none => exact .pure rfl
        | some text => exact setText_follows _ _
      · exact setText_follows _ _

theorem classScope_follows {node : NodeId} {d : Declared ComplexType} (hs : M.Room k 0 s) :
    M.Follows Quiet M.erasure.scope (classScope c M.env node d)
      (classScope c' M.env' node d) s := by
  unfold classScope
  refine Follows.getGraph ?_
  rw [M.erasure.nameOf_graph]
  cases d.definition.derivation with
  | none => exact .pure (M.erasure.scope_of_nextOrder rfl).symm
  | some derivation =>
    refine Follows.bind (derive_follows hcalls hs) fun _ t _ _ => ?_
    cases derivation.method with
    | extension => exact .pure (M.erasure.scope_of_nextOrder rfl).symm
    | restriction =>
      refine Follows.getGraph (.pure ?_)
      rw [M.erasure.restatable_graph]
      exact (M.erasure.scope_of_nextOrder rfl).symm

omit hcalls in
theorem mixedText_follows (mixed : Bool) (owner : NodeId) :
    M.Follows Quiet id
      (do
        let g ← getGraph
        if mixed && (g.class? owner).any (·.text.isNone) then setText owner (.primitive .string))
      (do
        let g ← getGraph
        if mixed && (g.class? owner).any (·.text.isNone) then setText owner (.primitive .string))
      s := by
  refine Follows.getGraph ?_
  have htext : ((M.erasure.graph s.graph).class? owner).any (·.text.isNone) =
      (s.graph.class? owner).any (·.text.isNone) := by
    cases h : s.graph.class? owner <;> simp [h, Erasure.classShape]
  rw [htext]
  split
  · exact setText_follows _ _
  · exact .pure rfl

theorem classText_follows {scope : Scope} {d : Declared ComplexType}
    (hs : M.Room k (d.definition.depth - 1) s) :
    M.Follows Quiet id (classText c M.env scope d) (classText c' M.env' (M.erasure.scope scope) d)
      s := by
  unfold classText
  rw [M.erasure.scope_owner, M.erasure.scope_ownerName]
  cases hcontent : d.definition.simpleContent with
  | none => exact mixedText_follows _ _
  | some content =>
    refine Follows.bind (typeRef_follows_of_room hcalls (hs.mono ?_)) fun resolved t _ _ => ?_
    · exact Nat.le_sub_one_of_lt (ComplexType.simpleContent_depth_lt hcontent)
    · exact Follows.bind (setText_follows _ _) fun _ _ _ _ => mixedText_follows _ _

theorem classParticle_follows {scope : Scope} {d : Declared ComplexType}
    (hs : M.Room k (d.definition.depth - 1) s) :
    M.Follows Quiet M.erasure.scope (classParticle c M.env scope d)
      (classParticle c' M.env' (M.erasure.scope scope) d) s := by
  unfold classParticle
  cases hp : d.definition.particle with
  | none => exact .pure rfl
  | some p =>
    refine particle_follows hcalls (hs.mono ?_)
    have := ComplexType.particle_depth_lt hp
    rw [p.depth_eq] at this
    change p.term.depth ≤ _
    omega

theorem classContent_follows {node : NodeId} {d : Declared ComplexType}
    (hs : M.Room k (d.definition.depth - 1) s) :
    M.Follows Quiet id (classContent c M.env node d) (classContent c' M.env' node d) s := by
  unfold classContent
  refine Follows.bind (classScope_follows hcalls (hs.mono (Nat.zero_le _))) fun scope t _ hst => ?_
  refine Follows.bind (note_follows scope _) fun _ u _ htu => ?_
  have hu := hs.steady (hst.toSteady.trans htu.toSteady)
  refine Follows.bind (classText_follows hcalls hu) fun _ v _ huv => ?_
  refine Follows.bind (attributes_follows hcalls fun item hi =>
    (hu.steady huv.toSteady).mono ?_) fun scope' w _ hvw => ?_
  · have := d.definition.attributes_depth_lt
    have := AttributeItem.depth_le_depths hi
    change AttributeItem.depth item ≤ AttributeItem.depths d.definition.attributes at this
    omega
  · have hw := hu.steady (huv.toSteady.trans hvw.toSteady)
    refine Follows.bind (classParticle_follows hcalls hw) fun scope'' _ _ _ => ?_
    exact anyAttributeOf_follows _ _

omit hcalls in
/-- What a class is made for is remembered before its content is collected: there is room for the
content, either as part of the room for the definition or as a door is passed. -/
theorem room_of_class {d : Declared ComplexType} {key : Option CacheKey} {node : NodeId}
    (hs : M.Enters (k + 1) d key s)
    (hfound : (key.bind s.context.cache.get?).orElse
      (fun _ => s.context.inlineType? d.place) = none) (hst : Steady s t)
    (ht : t.context = s.context.remember key
      (if d.definition.name.isNone then some d.place else none) node) :
    M.Room k (d.definition.depth - 1) t := by
  intro b hb
  have hdepth := d.definition.depth_eq
  have hle : b.rank t.context ≤ b.rank s.context := Bounds.rank_mono hst
  have hdepth_le := (hs b hb).1
  refine ⟨by omega, ?_⟩
  rcases (hs b hb).2 with h | ⟨h, hdoor⟩
  · omega
  · have hunpassed : (⟨key, some d.place⟩ : Door).isPassed s.context = false := by
      rw [Door.isPassed, Option.bind_some, hfound]
      rfl
    have hpassed : (⟨key, some d.place⟩ : Door).isPassed t.context = true := by
      rw [Option.orElse_eq_or, Option.or_eq_none_iff] at hfound
      refine Door.isPassed_iff.2 ?_
      rcases hdoor.remembered with ⟨j, rfl, hname⟩ | hname
      · refine .inl ⟨j, node, rfl, ?_⟩
        rw [ht, Context.cache_remember]
        exact Cache.get?_insert_self hfound.1 hname
      · refine .inr ⟨d.place, node, rfl, ?_⟩
        rw [Context.inlineType?, ht, Context.inlineTypes_remember, hname]
        exact Table.get?_insertNew_self hfound.2
    have := Bounds.rank_door hst hdoor.mem hunpassed hpassed
    omega

theorem classNode_follows {d : Declared ComplexType} {identity : QName} {candidate : String}
    {key : Option CacheKey} (hs : M.Enters (k + 1) d key s)
    (hkey : ∀ j, key = some j → j.kind ≠ .rootElement) :
    M.Follows Quiet id (classNode c M.env d identity candidate key)
      (classNode c' M.env' d identity candidate key) s := by
  unfold classNode
  refine Follows.getContext ?_
  cases hfound : (key.bind s.context.cache.get?).orElse
      fun _ => s.context.inlineType? d.place with
  | some found => exact .pure rfl
  | none =>
    refine Follows.bind (newNode_follows rfl) fun node t hnew hst => ?_
    obtain ⟨-, _, -, ha⟩ := newNode_ok hnew
    have hcontent {u : State} (hsu : Steady s u) (hu : u.context = s.context.remember key
        (if d.definition.name.isNone then some d.place else none) node) :
        M.Follows Quiet id (do classContent c M.env node d; return node)
          (do classContent c' M.env' node d; return node) u :=
      Follows.bind (classContent_follows hcalls (room_of_class hs hfound hsu hu))
        fun _ _ _ _ => .pure rfl
    -- The class is remembered under its key, if there is one, and for its place if it is unnamed.
    cases key with
    | none =>
      cases hname : d.definition.name with
      | none =>
        refine Follows.bind (.modifyContext (.recordInline t d.place node)) fun _ u hu htu => ?_
        refine hcontent (hst.toSteady.trans htu.toSteady) ?_
        rw [modifyContext_ok.1 hu, hname, ha.context]
        rfl
      | some name =>
        refine hcontent hst.toSteady ?_
        rw [hname, ha.context]
        rfl
    | some key =>
      refine Follows.bind (.modifyContext (.recordNamed (hkey key rfl))) fun _ u hu htu => ?_
      have hsu := hst.toSteady.trans htu.toSteady
      cases hname : d.definition.name with
      | none =>
        refine Follows.bind (.modifyContext (.recordInline u d.place node)) fun _ v hv huv => ?_
        refine hcontent (hsu.trans huv.toSteady) ?_
        rw [modifyContext_ok.1 hv, modifyContext_ok.1 hu, hname, ha.context]
        rfl
      | some name =>
        refine hcontent hsu ?_
        rw [modifyContext_ok.1 hu, hname, ha.context]
        rfl

end

/-- Whether there are bounds or not, the ways down are mirrored with any fuel: with bounds the
second environment may have more, and where there is none there is no room. -/
theorem descends_callsUpTo (k : Nat) : ∀ k', k ≤ k' → (M.bounds = none → k' = k) →
    M.Descends k (callsUpTo M.env k) (callsUpTo M.env' k') := by
  induction k with
  | zero =>
    intro k' _ hk
    cases hb : M.bounds with
    | none =>
      rw [hk hb]
      exact ⟨fun _ _ _ _ _ _ _ => .failBottomless hb, fun _ _ _ _ _ _ => .failBottomless hb,
        fun _ _ _ _ => .failBottomless hb⟩
    | some b =>
      have hroom {n : Nat} {s : State} (hs : M.Room 0 n s) : False := Nat.not_lt_zero _ (hs b hb).2
      refine ⟨fun d _ _ _ s hs _ => ?_, fun _ _ _ _ _ hs => (hroom hs).elim,
        fun _ _ _ hs => (hroom hs).elim⟩
      rcases (hs b hb).2 with h | ⟨h, -⟩ <;> exact absurd h (Nat.not_lt_zero _)
  | succ k ih =>
    intro k' hle hk
    obtain ⟨k', rfl⟩ : ∃ j, k' = j + 1 := ⟨k' - 1, by omega⟩
    have hcalls := ih k' (by omega) (fun hb => by have := hk hb; omega)
    refine ⟨fun d identity candidate key s hs hkey => classNode_follows hcalls hs hkey,
      fun scope d outer compositor s hs => particle_follows hcalls ?_,
      fun scope d s hs => attributes_follows hcalls ?_⟩
    · rw [Particle.depth_eq] at hs
      exact hs.pred
    · intro item hi b hb
      have := hs b hb
      have := AttributeItem.depth_le_depths hi
      have := item.depth_pos
      omega

theorem descends_calls : M.Descends M.env.limit M.env.calls M.env'.calls :=
  descends_callsUpTo _ _ M.limit_le M.limit_eq

/-! ## Roots -/

/-- There is room between two declarations of a document. -/
abbrev Ready (M : Mirror) (s : State) : Prop := M.Room M.env.limit 0 s

theorem rootClass_follows (base : NodeId) (element : QName) (document : Document) :
    M.Follows Steady id (rootClass M.env base element document)
      (rootClass M.env' base element document) s := by
  unfold rootClass
  refine Follows.getContext ?_
  split
  · exact .pure rfl
  · refine Follows.getGraph ?_
    rw [M.naming, M.erasure.nameOf_graph]
    refine Follows.bind ((newNode_follows rfl).weaken fun _ h => h.toSteady) fun node t _ _ => ?_
    refine Follows.bind (.modifyGraph (M.erasure.graph_modify _ _ fun _ => rfl)
      (.of_graph _ _)) fun _ u _ _ => ?_
    refine Follows.bind (.modifyContext ?_) fun _ v _ _ => ?_
    · exact ⟨rfl, fun _ _ hk => Cache.get?_insert_of_some hk, fun _ _ => id⟩
    · exact .modifyGraph (M.erasure.graph_setBase _ _ _) (.of_graph _ _)

theorem demote_follows (node : NodeId) : M.Follows Steady id (demote node) (demote node) s := by
  refine .modifyGraph (M.erasure.graph_modify _ _ fun n => ?_) (.of_graph _ _)
  exact M.erasure.node_mapClass _ fun _ => rfl

theorem claimRoot_follows (node : NodeId) (element : QName) (document : Document) :
    M.Follows Steady id (claimRoot M.env node element document)
      (claimRoot M.env' node element document) s := by
  unfold claimRoot
  refine Follows.getGraph ?_
  have hroot : ((M.erasure.graph s.graph).node? node).any (·.isAbstractRoot) =
      (s.graph.node? node).any (·.isAbstractRoot) := by
    cases h : s.graph.node? node <;> simp [h, Erasure.node]
  rw [hroot, M.index]
  split
  · exact rootClass_follows _ _ _
  · refine Follows.getContext ?_
    cases s.context.roots.get? node with
    | none =>
      refine Follows.bind (.modifyGraph (M.erasure.graph_modify _ _ fun _ => rfl)
        (.of_graph _ _)) fun _ t _ _ => ?_
      exact .modifyContext (.of_context rfl rfl rfl)
    | some first =>
      refine Follows.bind (demote_follows node) fun _ t _ _ => ?_
      dsimp only
      cases M.env.index.document? first.location with
      | none =>
        refine ⟨rfl, fun _ e he => ?_, fun _ _ h => ?_⟩
        · cases he
          rfl
        · cases h
      | some home =>
        exact Follows.bind (rootClass_follows _ _ _) fun _ _ _ _ => rootClass_follows _ _ _

theorem claimClass_follows (e : ElementDecl) (document : Document) (v : ValueType) :
    M.Follows Steady id (claimClass M.env e document v) (claimClass M.env' e document v) s := by
  cases v with
  | primitive p => exact .pure rfl
  | node node =>
    refine Follows.getGraph ?_
    rw [M.erasure.class?_graph, Option.isNone_map]
    split
    · exact .pure rfl
    · split
      · exact .modifyGraph (M.erasure.graph_modify _ _ fun _ => rfl) (.of_graph _ _)
      · exact claimRoot_follows _ _ _

theorem topLevelElement_follows {name : QName} {g : Global ElementDecl}
    (hg : M.env.index.element? name = some g) (hs : M.Ready s) :
    M.Follows Steady id (topLevelElement M.env (.ofGlobal .elements g))
      (topLevelElement M.env' (.ofGlobal .elements g)) s := by
  unfold topLevelElement
  refine Follows.bind ((globalElementType_follows descends_calls hg hs).weaken
    fun _ h => h.toSteady) fun resolved t _ _ => ?_
  dsimp only [Declared.ofGlobal]
  cases g.definition.substitutionGroup with
  | none => exact claimClass_follows _ _ _
  | some head =>
    refine Follows.bind (.modifyContext ?_) fun _ u _ _ => claimClass_follows _ _ _
    exact .of_context rfl rfl rfl

/-! ## All declarations -/

theorem task_follows {x : Task} (hx : x.Counts M.env.index) (hs : M.Ready s) :
    M.Follows Steady id (x.run M.env) (x.run M.env') s := by
  cases x with
  | type name g =>
    exact Follows.bind ((globalType_follows descends_calls hx.1 hs).weaken
      fun _ h => h.toSteady) fun _ _ _ _ => .pure rfl
  | element g => exact topLevelElement_follows hx hs

theorem documents_follows (hs : M.Ready s) :
    M.Follows Steady id (documents M.env) (documents M.env') s := by
  rw [documents_eq, documents_eq, M.index]
  exact Follows.forM (fun s t hs hst => Room.steady hs hst)
    (fun x hx s hs => task_follows (mem_tasks_iff.1 hx) hs) hs

/-- The second run ends with what is left of the state in which the first ends, or with the same
failure, which is not that it goes too deep if there are bounds. -/
theorem run_mirrored (resolver : Resolver) :
    run M.env' resolver = (run M.env resolver).map M.erasure.state ∧
      (M.bounds.isSome → ∀ e, run M.env resolver = .error e → e.isBottomless = false) := by
  have h : M.Follows Steady id (documents M.env) (documents M.env') { resolver } :=
    documents_follows fun b hb => ⟨Nat.zero_le _, M.deep b hb⟩
  have hstart : M.erasure.state { resolver } = { resolver } := by
    simp [Erasure.state, Erasure.graph]
  have himage := h.image
  rw [hstart] at himage
  refine ⟨?_, fun hb e he => h.settled hb e ?_⟩
  · rw [run_eq_map, run_eq_map, himage]
    cases documents M.env { resolver } <;> rfl
  · rw [run_eq_map] at he
    cases hd : documents M.env { resolver } with
    | error x =>
      rw [hd] at he
      exact congrArg Except.error (Except.error.inj he)
    | ok r =>
      rw [hd] at he
      cases he

end Mirror

/-- A graph is the finished graph of a run. -/
theorem buildGraph_eq (set : SchemaSet) (options : Options) (naming : Naming)
    (resolver : Resolver) : buildGraph set options naming resolver =
      (run (.ofSet set options naming) resolver).map
        (State.finished (.ofSet set options naming)) := by
  change (run (.ofSet set options naming) resolver >>= _) = _
  cases run (.ofSet set options naming) resolver <;> rfl

theorem exists_run {set : SchemaSet} {options : Options} {naming : Naming} {resolver : Resolver}
    {g : Graph} (h : buildGraph set options naming resolver = .ok g) :
    ∃ s, run (.ofSet set options naming) resolver = .ok s ∧
      s.finished (.ofSet set options naming) = g := by
  rw [buildGraph_eq] at h
  cases hrun : run (.ofSet set options naming) resolver with
  | error e => rw [hrun] at h; cases h
  | ok s => rw [hrun] at h; exact ⟨s, rfl, Except.ok.inj h⟩

end XmlTypes.Build
