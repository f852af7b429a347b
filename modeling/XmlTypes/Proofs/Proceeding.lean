import XmlTypes.Proofs.Globals
import XmlTypes.Proofs.Mirroring
import XmlTypes.Proofs.References
/-!
# A construction that has what it asks for

A construction asks the schema for what is referred to, the resolver for namespaces, and for the
document of an element that was the first of its type. Where the index is whole and the resolver
answers, it gets everything (`Supplied` is kept), so nothing fails but going too deep (`Proceeds`).
One lemma for each function says so, with the ways down taken on trust until `callsUpTo_proceed`
ties the recursion.
-/

namespace XmlTypes

open Schema

namespace Resolver

/-! ## Resolvers that answer -/

/-- The resolver has an output name for a namespace that a document refers to. -/
def Answers (r : Resolver) (location uri : String) : Prop :=
  ∃ output, (r.resolve (some location) uri).1 = .ok output

theorem answers_iff {r : Resolver} {location uri : String} : r.Answers location uri ↔
    (r.rule? (some location) uri).isSome = true ∨
      (r.generated.get? ⟨some location, some uri⟩).isSome = true ∨
      ∃ policy, r.policy = some policy ∧ (policy (some location) uri).isSome = true := by
  unfold Answers resolve
  cases hrule : r.rule? (some location) uri with
  | some output => simp
  | none =>
    cases hgenerated : r.generated.get? ⟨some location, some uri⟩ with
    | some output => simp [hgenerated]
    | none =>
      cases hpolicy : r.policy with
      | none => simp [hgenerated]
      | some policy => cases h : policy (some location) uri <;> simp [hgenerated, h]

/-- What a resolver remembers of an answer takes no other answer away. -/
theorem Answers.resolve {r : Resolver} {location uri : String} (h : r.Answers location uri)
    (source : Option String) (asked : String) :
    (r.resolve source asked).2.Answers location uri := by
  unfold Resolver.resolve
  split
  · exact h
  dsimp only
  split
  · exact h
  split
  · exact h
  rename_i policy hpolicy
  have hkept (generated : Table NamespaceKey String) (questions : List (Option String × String))
      (hgenerated : ∀ k, (r.generated.get? k).isSome = true → (generated.get? k).isSome = true) :
      ({ r with generated, asked := questions } : Resolver).Answers location uri :=
    answers_iff.2 ((answers_iff.1 h).imp_right (.imp_left (hgenerated _)))
  split
  · refine hkept _ _ fun k hk => ?_
    rw [Table.get?_insert]
    split
    · rfl
    · exact hk
  · exact hkept _ _ fun _ => id

end Resolver

namespace Build

variable {α β : Type} {env : Environment} {s : State}

/-! ## Steps -/

/-- The resolver answers for every document, and the documents of the elements that were the first
of their types are known. -/
structure Supplied (env : Environment) (s : State) : Prop where
  answers : ∀ document ∈ env.index.documents, ∀ uri, s.resolver.Answers document.location uri
  roots : ∀ id claim, s.context.roots.get? id = some claim →
    (env.index.document? claim.location).isSome = true

/-- Nothing fails but going too deep, and what does not leaves everything supplied. -/
structure Proceeds (env : Environment) (m : Build α) (s : State) : Prop where
  supplied : ∀ a t, m s = .ok (a, t) → Supplied env t
  error : ∀ e, m s = .error e → e.isBottomless = true

theorem Supplied.of_eq {t : State} (hs : Supplied env s) (hresolver : t.resolver = s.resolver)
    (hroots : t.context.roots = s.context.roots) : Supplied env t :=
  ⟨hresolver ▸ hs.answers, hroots ▸ hs.roots⟩

namespace Proceeds

/-- A step that succeeds and leaves the resolver and the first elements as they are. -/
theorem of_ok {m : Build α} {a : α} {t : State} (hs : Supplied env s) (h : m s = .ok (a, t))
    (hresolver : t.resolver = s.resolver) (hroots : t.context.roots = s.context.roots) :
    Proceeds env m s where
  supplied b u hu := by
    obtain ⟨rfl, rfl⟩ := Prod.mk.inj (Except.ok.inj (h.symm.trans hu))
    exact hs.of_eq hresolver hroots
  error e he := by
    rw [h] at he
    cases he

theorem pure (hs : Supplied env s) (a : α) : Proceeds env (pure a : Build α) s :=
  of_ok hs rfl rfl rfl

theorem bind {m : Build α} {k : α → Build β} (h : Proceeds env m s)
    (hk : ∀ a t, Supplied env t → Proceeds env (k a) t) : Proceeds env (m >>= k) s := by
  have hbind : (m >>= k) s = (m s >>= fun r => k r.1 r.2) := rfl
  cases hm : m s with
  | error e =>
    rw [hm] at hbind
    refine ⟨fun a t ht => ?_, fun e' he => h.error e' ?_⟩
    · rw [hbind] at ht
      cases ht
    · rw [hm, Except.error.inj (hbind.symm.trans he)]
  | ok r =>
    rw [hm] at hbind
    have hnext := hk r.1 r.2 (h.supplied r.1 r.2 hm)
    exact ⟨fun b u hu => hnext.supplied b u (hbind.symm.trans hu),
      fun e he => hnext.error e (hbind.symm.trans he)⟩

theorem map {m : Build α} (h : Proceeds env m s) (f : α → β) :
    Proceeds env (m >>= fun a => Pure.pure (f a)) s :=
  h.bind fun a _ ht => pure ht (f a)

theorem getGraph {k : Graph → Build α} (h : Proceeds env (k s.graph) s) :
    Proceeds env (getGraph >>= k) s :=
  ⟨h.supplied, h.error⟩

theorem getContext {k : Context → Build α} (h : Proceeds env (k s.context) s) :
    Proceeds env (getContext >>= k) s :=
  ⟨h.supplied, h.error⟩

theorem modifyGraph (hs : Supplied env s) (f : Graph → Graph) :
    Proceeds env (modifyGraph f) s :=
  of_ok hs rfl rfl rfl

theorem modifyContext (hs : Supplied env s) {f : Context → Context}
    (h : (f s.context).roots = s.context.roots) : Proceeds env (modifyContext f) s :=
  of_ok hs rfl rfl h

theorem lift (hs : Supplied env s) {x : Except Failure α}
    (h : ∀ e, x = .error e → e.isBottomless = true) : Proceeds env (liftM x : Build α) s := by
  cases x with
  | ok a => exact of_ok hs rfl rfl rfl
  | error e =>
    refine ⟨fun a t ht => ?_, fun e' he => h e' ?_⟩
    · cases ht
    · cases he
      rfl

theorem failBottomless (document : Document) :
    Proceeds env (failBottomless document : Build α) s where
  supplied _ _ h := absurd h failBottomless_ok
  error e he := by
    cases he
    rfl

theorem foldlM {σ ι : Type} {step : σ → ι → Build σ} {xs : List ι}
    (hstep : ∀ x ∈ xs, ∀ a s, Supplied env s → Proceeds env (step a x) s) :
    ∀ {s : State} (a : σ), Supplied env s → Proceeds env (xs.foldlM step a) s := by
  induction xs with
  | nil => exact fun a hs => pure hs a
  | cons x xs ih =>
    intro s a hs
    rw [List.foldlM_cons]
    exact (hstep x (by simp) a s hs).bind fun b t ht =>
      ih (fun y hy => hstep y (by simp [hy])) b ht

theorem forM {ι : Type} {step : ι → Build Unit} {xs : List ι}
    (hstep : ∀ x ∈ xs, ∀ s, Supplied env s → Proceeds env (step x) s) (hs : Supplied env s) :
    Proceeds env (xs.forM step) s := by
  rw [forM_eq]
  exact foldlM (fun x hx _ s hs => hstep x hx s hs) () hs

end Proceeds

/-! ## What a state is asked and told -/

theorem resolveNamespace_proceeds (hs : Supplied env s) {document : Document}
    (hdocument : document ∈ env.index.documents) (uri : String) :
    Proceeds env (resolveNamespace document.location uri) s := by
  obtain ⟨output, ho⟩ := hs.answers document hdocument uri
  have hok : resolveNamespace document.location uri s = .ok (output,
      { s with resolver := (s.resolver.resolve (some document.location) uri).2 }) := by
    rw [Mirror.resolveNamespace_eq, ho]
    rfl
  refine ⟨fun a t ht => ?_, fun e he => ?_⟩
  · obtain ⟨rfl, rfl⟩ := Prod.mk.inj (Except.ok.inj (hok.symm.trans ht))
    exact ⟨fun d hd u => (hs.answers d hd u).resolve _ _, hs.roots⟩
  · rw [hok] at he
    cases he

theorem newNode_proceeds (hs : Supplied env s) {document : Document}
    (hdocument : document ∈ env.index.documents) (identity : QName) (candidate : String)
    (kind : NodeKind) (documentation : List String) :
    Proceeds env (newNode env document identity candidate kind documentation) s := by
  unfold newNode
  refine (resolveNamespace_proceeds hs hdocument _).bind fun space t ht => ?_
  refine (Proceeds.modifyGraph ht _).bind fun _ u hu => .getGraph ?_
  exact (Proceeds.modifyGraph hu _).map _

theorem addProperty_proceeds (hs : Supplied env s) (p : Property) :
    Proceeds env (addProperty p) s :=
  .of_ok hs rfl rfl rfl

theorem note_proceeds (hs : Supplied env s) (scope : Scope) (source : Source) :
    Proceeds env (note scope source) s :=
  .of_ok hs rfl rfl rfl

theorem setText_proceeds (hs : Supplied env s) (id : NodeId) (type : ValueType) :
    Proceeds env (setText id type) s :=
  .modifyGraph hs _

/-! ## Simple types -/

/-- A part of a document of the schema whose references resolve. -/
structure Grounded (ix : Index) (d : Declared α) (resolves : Index → α → Bool) : Prop where
  document : d.document ∈ ix.documents
  resolves : resolves ix d.definition = true

theorem enumNode_proceeds (hs : Supplied env s) {d : Declared SimpleType}
    (hd : d.document ∈ env.index.documents) (identity : QName) (candidate : String)
    (facets : List Facet) : Proceeds env (enumNode env d identity candidate facets) s := by
  unfold enumNode
  refine (newNode_proceeds hs hd _ _ _ _).bind fun id t ht => .getGraph ?_
  exact (Proceeds.modifyGraph ht _).map _

section
variable (hix : env.index.Whole)
include hix

/-- The types that a global simple type is made from may be visited after it. -/
theorem simpleTypeNode_proceeds (hs : Supplied env s) {name : QName} {g : Global TypeDefinition}
    {t : SimpleType} (hg : env.index.type? name = some g) (ht : g.definition = .simple t) :
    Proceeds env (simpleTypeNode env name ((Declared.ofGlobal .types g).inPlace t)) s := by
  obtain ⟨hdoc, hresolves⟩ := hix.types name g hg
  rw [ht] at hresolves
  unfold simpleTypeNode
  refine .getContext ?_
  dsimp only [Declared.ofGlobal, Declared.inPlace, Declared.location]
  cases s.context.cache.get? ⟨.simpleType, g.document.location, name⟩ with
  | some id => exact .pure hs _
  | none =>
    refine Proceeds.bind (.lift hs fun e he => classify_error hix hresolves ?_ he) fun c u hu => ?_
    · intro v hv n hn hx
      obtain rfl := List.mem_singleton.1 hv
      exact ⟨hx, g, hg, ht ▸ hn⟩
    · cases c with
      | enumeration facets =>
        refine (enumNode_proceeds hu hdoc _ _ _).bind fun id v hv => ?_
        exact (Proceeds.modifyContext hv rfl).map _
      | value type restrictions isList =>
        refine (newNode_proceeds hu hdoc _ _ _ _).bind fun id v hv => ?_
        exact (Proceeds.modifyContext hv rfl).map _

theorem inlineSimpleType_proceeds (hs : Supplied env s) {d : Declared SimpleType}
    (hd : Grounded env.index d SimpleType.resolves) (candidate : String) :
    Proceeds env (inlineSimpleType env d candidate) s := by
  unfold inlineSimpleType
  refine .getContext ?_
  cases s.context.inlineType? d.place with
  | some id => exact .pure hs _
  | none =>
    refine Proceeds.bind (.lift hs fun e he => classify_error hix hd.resolves ?_ he)
      fun c u hu => ?_
    · exact fun v hv => absurd hv List.not_mem_nil
    cases c with
    | enumeration facets =>
      refine (enumNode_proceeds hu hd.document _ _ _).bind fun id v hv => ?_
      exact (Proceeds.modifyContext hv rfl).map _
    | value type restrictions isList => exact .pure hu _

end

/-! ## References -/

/-- The ways down proceed into whatever resolves. -/
structure Calls.Proceed (env : Environment) (c : Calls) : Prop where
  classNode : ∀ d identity candidate key s, Supplied env s →
    Grounded env.index d ComplexType.resolves →
    Proceeds env (c.classNode d identity candidate key) s
  particle : ∀ scope d outer compositor s, Supplied env s →
    Grounded env.index d Particle.resolves →
    Proceeds env (c.particle scope d outer compositor) s
  attributes : ∀ scope d s, Supplied env s →
    Grounded env.index d AttributeItem.allResolve → Proceeds env (c.attributes scope d) s

section
variable {c : Calls} (hix : env.index.Whole) (hcalls : c.Proceed env) (hs : Supplied env s)
include hix hcalls hs

omit hix in
/-- Where a type is given in place, its class has a name or a candidate. -/
theorem complexType_proceeds {d : Declared ComplexType}
    (hd : Grounded env.index d ComplexType.resolves) (candidate : String) :
    Proceeds env (complexType c env d (some candidate)) s := by
  unfold complexType
  cases d.definition.name with
  | none => exact hcalls.classNode _ _ _ _ _ hs hd
  | some name => exact hcalls.classNode _ _ _ _ _ hs hd

/-- A global type is found under a name that it declares, so it does not lack one. -/
theorem globalType_proceeds {name : QName} {g : Global TypeDefinition}
    (hg : env.index.type? name = some g) : Proceeds env (globalType c env g) s := by
  obtain ⟨hdoc, hresolves⟩ := hix.types name g hg
  cases ht : g.definition with
  | complex t =>
    rw [ht] at hresolves
    rw [globalType_complex hix.lawful hg ht]
    refine hcalls.classNode _ _ _ _ _ hs ?_
    exact ⟨hdoc, hresolves⟩
  | simple t =>
    rw [globalType_simple hix.lawful hg ht]
    exact simpleTypeNode_proceeds hix hs hg ht

theorem namedType_proceeds {name : QName} (hname : env.index.hasType name = true)
    (document : Document) : Proceeds env (namedType c env name document) s := by
  unfold namedType
  cases hxsd : name.isXsd with
  | true =>
    obtain ⟨p, hp⟩ := Index.builtin_of_hasType hname hxsd
    simp only [if_true, hp]
    exact .pure hs _
  | false =>
    obtain ⟨g, hg⟩ := Index.type_of_hasType hname hxsd
    simp only [Bool.false_eq_true, if_false, hg]
    exact (globalType_proceeds hix hcalls hs hg).map _

theorem inlineType_proceeds {d : Declared TypeDefinition}
    (hd : Grounded env.index d TypeDefinition.resolves) (candidate : String) :
    Proceeds env (inlineType c env d candidate) s := by
  have hresolves := hd.resolves
  unfold inlineType
  cases ht : d.definition with
  | complex t =>
    rw [ht] at hresolves
    refine (complexType_proceeds hcalls hs ?_ _).map _
    exact ⟨hd.document, hresolves⟩
  | simple t =>
    rw [ht] at hresolves
    refine inlineSimpleType_proceeds hix hs ?_ _
    exact ⟨hd.document, hresolves⟩

theorem typeRef_proceeds {d : Declared TypeRef} (hd : Grounded env.index d TypeRef.resolves)
    (candidate : String) : Proceeds env (typeRef c env d candidate) s := by
  have hresolves := hd.resolves
  unfold typeRef
  cases hr : d.definition with
  | named name =>
    rw [hr] at hresolves
    exact namedType_proceeds hix hcalls hs hresolves _
  | inline t =>
    rw [hr] at hresolves
    refine inlineType_proceeds hix hcalls hs ?_ _
    exact ⟨hd.document, hresolves⟩

theorem globalElementType_proceeds {name : QName} {g : Global ElementDecl}
    (hg : env.index.element? name = some g) :
    Proceeds env (globalElementType c env (.ofGlobal .elements g)) s := by
  obtain ⟨hdoc, hresolves⟩ := hix.elements name g hg
  unfold globalElementType
  dsimp only [Declared.ofGlobal, Declared.location]
  cases hr : g.definition.typeRef with
  | none => exact .pure hs _
  | some r =>
    have htype := ElementDecl.typeRef_resolves hresolves hr
    cases r with
    | named type => exact namedType_proceeds hix hcalls hs htype _
    | inline type =>
      refine .getContext ?_
      cases s.context.cache.get? ⟨.elementType, g.document.location, g.definition.name⟩ with
      | some id => exact .pure hs _
      | none =>
        cases type with
        | complex t =>
          refine (hcalls.classNode _ _ _ _ _ hs ?_).map _
          exact ⟨hdoc, htype⟩
        | simple t =>
          refine (inlineSimpleType_proceeds hix hs ?_ _).bind fun resolved u hu => ?_
          · exact ⟨hdoc, htype⟩
          cases resolved.type with
          | primitive p => exact .pure hu _
          | node id => exact (Proceeds.modifyContext hu rfl).map _

theorem globalAttributeType_proceeds {d : Declared AttributeDecl} {r : TypeRef}
    (hd : Grounded env.index d AttributeDecl.resolves) (hr : d.definition.typeRef = some r) :
    Proceeds env (globalAttributeType c env d r) s := by
  have htype := AttributeDecl.typeRef_resolves hd.resolves hr
  unfold globalAttributeType
  refine .getContext ?_
  cases s.context.cache.get? ⟨.attributeType, d.location, d.definition.name⟩ with
  | some id => exact .pure hs _
  | none =>
    refine (typeRef_proceeds hix hcalls hs ⟨hd.document, htype⟩ _).bind fun resolved u hu => ?_
    cases r with
    | named type => exact .pure hu _
    | inline type =>
      cases resolved.type with
      | primitive p => exact .pure hu _
      | node id => exact (Proceeds.modifyContext hu rfl).map _

/-! ## Elements, attributes and wildcards -/

/-- An element whose references resolve; one that is referred to is the global one of its name. -/
inductive Met (ix : Index) : Declared ElementDecl → Bool → Prop
  | inPlace {d} : Grounded ix d ElementDecl.resolves → Met ix d false
  | reference {name g} : ix.element? name = some g → Met ix (.ofGlobal .elements g) true

theorem element_proceeds {d : Declared ElementDecl} {isReference : Bool}
    (hd : Met env.index d isReference) (scope : Scope) (occurs : Occurs) (compositor : Compositor) :
    Proceeds env (element c env scope d occurs compositor isReference) s := by
  have htype : Proceeds env (elementType c env scope d isReference) s := by
    unfold elementType
    cases hd with
    | reference hg => exact globalElementType_proceeds hix hcalls hs hg
    | inPlace hd =>
      cases hr : d.definition.typeRef with
      | none => exact .pure hs _
      | some r =>
        exact typeRef_proceeds hix hcalls hs
          ⟨hd.document, ElementDecl.typeRef_resolves hd.resolves hr⟩ _
  unfold element
  dsimp only
  split
  · exact .pure hs _
  · refine htype.bind fun type t ht => ?_
    refine (addProperty_proceeds ht _).bind fun added u hu => ?_
    split
    · exact (Proceeds.modifyContext hu rfl).map _
    · exact .pure hu _

omit hix hcalls in
theorem anyElement_proceeds (scope : Scope) (w : Wildcard) (occurs : Occurs) :
    Proceeds env (anyElement scope w occurs) s :=
  (addProperty_proceeds hs _).map _

omit hix hcalls in
theorem anyAttributeOf_proceeds (scope : Scope) (declared : Option Wildcard) :
    Proceeds env (anyAttributeOf scope declared) s := by
  have hwildcard (w : Wildcard) : Proceeds env (anyAttribute scope w) s := by
    unfold anyAttribute
    refine .getGraph ?_
    dsimp only
    split
    · exact .pure hs _
    · exact (addProperty_proceeds hs _).map _
  unfold anyAttributeOf
  cases declared with
  | some w => exact hwildcard w
  | none =>
    dsimp only
    split
    · exact hwildcard _
    · exact .pure hs _

theorem attributeMember_proceeds {d : Declared AttributeDecl}
    (hd : Grounded env.index d AttributeDecl.resolves) (scope : Scope) (isReference : Bool) :
    Proceeds env (attributeMember c env scope d isReference) s := by
  have htype : Proceeds env (attributeType c env scope d isReference) s := by
    unfold attributeType
    cases hr : d.definition.typeRef with
    | none => exact .pure hs _
    | some r =>
      dsimp only
      split
      · exact globalAttributeType_proceeds hix hcalls hs hd hr
      · exact typeRef_proceeds hix hcalls hs
          ⟨hd.document, AttributeDecl.typeRef_resolves hd.resolves hr⟩ _
  unfold attributeMember
  dsimp only
  split
  · exact .pure hs _
  · refine htype.bind fun type t ht => ?_
    exact (addProperty_proceeds ht _).map _

/-! ## Groups -/

omit hix in
theorem modelGroup_proceeds {d : Declared ModelGroup}
    (hd : Grounded env.index d ModelGroup.resolves) (scope : Scope) (occurs : Occurs) :
    Proceeds env (modelGroup c scope d occurs) s := by
  unfold modelGroup
  refine Proceeds.foldlM ?_ scope hs
  rintro ⟨p, i⟩ hp scope t ht
  have hmem := List.mem_of_getElem? (List.mk_mem_zipIdx_iff_getElem?.1 hp)
  exact hcalls.particle _ _ _ _ _ ht ⟨hd.document, ModelGroup.particle_resolves hd.resolves hmem⟩

omit hix hcalls in
theorem expanding_proceeds {group : QName} {collect : Build α}
    (h : ∀ t, Supplied env t → Proceeds env collect t) :
    Proceeds env (expanding group collect) s := by
  unfold expanding
  refine (Proceeds.modifyContext hs rfl).bind fun _ t ht => ?_
  refine (h t ht).bind fun a u hu => ?_
  exact (Proceeds.modifyContext hu rfl).map _

omit hix hcalls hs in
theorem implement_proceeds {build : Build NodeId} (h : Proceeds env build s) (hs : Supplied env s)
    (owner : NodeId) : Proceeds env (implement env owner build) s := by
  unfold implement
  split
  · exact h.bind fun interface t ht => .modifyGraph ht _
  · exact .pure hs _

omit hix hcalls in
theorem interfaceScope_proceeds (id : NodeId) (document : Document) :
    Proceeds env (interfaceScope id document) s :=
  .getGraph (.pure hs _)

theorem groupInterface_proceeds {name : QName} {g : Global GroupDef}
    (hg : env.index.group? name = some g) :
    Proceeds env (groupInterface c env (.ofGlobal .groups g)) s := by
  obtain ⟨hdoc, hresolves⟩ := hix.groups name g hg
  unfold groupInterface
  refine .getContext ?_
  dsimp only [Declared.ofGlobal, Declared.location]
  cases s.context.cache.get? ⟨.group, g.document.location, g.definition.name⟩ with
  | some id => exact .pure hs _
  | none =>
    refine (newNode_proceeds hs hdoc _ _ _ _).bind fun id t ht => ?_
    refine (Proceeds.modifyContext ht rfl).bind fun _ u hu => ?_
    refine (interfaceScope_proceeds hu id _).bind fun scope v hv => ?_
    refine (note_proceeds hv scope _).bind fun _ w hw => ?_
    refine (expanding_proceeds hw fun x hx => modelGroup_proceeds hcalls hx ?_ _ _).map _
    exact ⟨hdoc, hresolves⟩

theorem attributeGroupInterface_proceeds {name : QName} {g : Global AttributeGroupDef}
    (hg : env.index.attributeGroup? name = some g) :
    Proceeds env (attributeGroupInterface c env (.ofGlobal .attributeGroups g)) s := by
  obtain ⟨hdoc, hresolves⟩ := hix.attributeGroups name g hg
  unfold attributeGroupInterface
  refine .getContext ?_
  dsimp only [Declared.ofGlobal, Declared.location]
  cases s.context.cache.get? ⟨.attributeGroup, g.document.location, g.definition.name⟩ with
  | some id => exact .pure hs _
  | none =>
    refine (newNode_proceeds hs hdoc _ _ _ _).bind fun id t ht => ?_
    refine (Proceeds.modifyContext ht rfl).bind fun _ u hu => ?_
    refine (interfaceScope_proceeds hu id _).bind fun scope v hv => ?_
    refine (note_proceeds hv scope _).bind fun _ w hw => ?_
    refine (expanding_proceeds hw fun x hx => hcalls.attributes _ _ _ hx ?_).bind
      fun scope' y hy => ?_
    · exact ⟨hdoc, hresolves⟩
    · exact (anyAttributeOf_proceeds hy _ _).map _

theorem groupReference_proceeds {name : QName} (hname : (env.index.group? name).isSome = true)
    (scope : Scope) (document : Document) (occurs : Occurs) :
    Proceeds env (groupReference c env scope name document occurs) s := by
  obtain ⟨g, hg⟩ := Option.isSome_iff_exists.1 hname
  obtain ⟨hdoc, hresolves⟩ := hix.groups name g hg
  unfold groupReference
  simp only [hg]
  refine (implement_proceeds (groupInterface_proceeds hix hcalls hs hg) hs _).bind
    fun _ t ht => .getContext ?_
  split
  · exact .pure ht _
  · refine expanding_proceeds ht fun u hu => modelGroup_proceeds hcalls hu ?_ _ _
    exact ⟨hdoc, hresolves⟩

theorem attributeGroupReference_proceeds {name : QName}
    (hname : (env.index.attributeGroup? name).isSome = true) (scope : Scope)
    (document : Document) :
    Proceeds env (attributeGroupReference c env scope name document) s := by
  obtain ⟨g, hg⟩ := Option.isSome_iff_exists.1 hname
  obtain ⟨hdoc, hresolves⟩ := hix.attributeGroups name g hg
  unfold attributeGroupReference
  simp only [hg]
  refine (implement_proceeds (attributeGroupInterface_proceeds hix hcalls hs hg) hs _).bind
    fun _ t ht => .getContext ?_
  split
  · exact .pure ht _
  · refine (expanding_proceeds ht fun u hu => hcalls.attributes _ _ _ hu ?_).map _
    exact ⟨hdoc, hresolves⟩

/-! ## Content models and attribute lists -/

theorem particle_proceeds {d : Declared Particle} (hd : Grounded env.index d Particle.resolves)
    (scope : Scope) (outer : Occurs) (compositor : Compositor) :
    Proceeds env (particle c env scope d outer compositor) s := by
  have hresolves := Particle.term_resolves hd.resolves
  unfold particle
  dsimp only
  split
  · exact .pure hs _
  · cases hterm : d.definition.term with
    | element e =>
      rw [hterm] at hresolves
      refine element_proceeds hix hcalls hs (.inPlace ?_) _ _ _
      exact ⟨hd.document, hresolves⟩
    | elementRef name =>
      rw [hterm] at hresolves
      obtain ⟨g, hg⟩ := Option.isSome_iff_exists.1 hresolves
      simp only [hg]
      exact element_proceeds hix hcalls hs (.reference hg) _ _ _
    | any w => exact (anyElement_proceeds hs _ _ _).map _
    | groupRef name =>
      rw [hterm] at hresolves
      exact groupReference_proceeds hix hcalls hs hresolves _ _ _
    | group g =>
      rw [hterm] at hresolves
      refine modelGroup_proceeds hcalls hs ?_ _ _
      exact ⟨hd.document, hresolves⟩

theorem attributeItem_proceeds {d : Declared AttributeItem}
    (hd : Grounded env.index d AttributeItem.resolves) (scope : Scope) :
    Proceeds env (attributeItem c env scope d) s := by
  have hresolves := hd.resolves
  unfold attributeItem
  cases hitem : d.definition with
  | «attribute» a =>
    rw [hitem] at hresolves
    refine (attributeMember_proceeds hix hcalls hs ?_ _ _).map _
    exact ⟨hd.document, hresolves⟩
  | ref name =>
    rw [hitem] at hresolves
    obtain ⟨g, hg⟩ := Option.isSome_iff_exists.1 hresolves
    simp only [hg]
    refine (attributeMember_proceeds hix hcalls hs ?_ _ _).map _
    exact ⟨(hix.attributes name g hg).1, (hix.attributes name g hg).2⟩
  | group name =>
    rw [hitem] at hresolves
    exact attributeGroupReference_proceeds hix hcalls hs hresolves _ _

theorem attributes_proceeds {d : Declared (List AttributeItem)}
    (hd : Grounded env.index d AttributeItem.allResolve) (scope : Scope) :
    Proceeds env (attributes c env scope d) s := by
  unfold attributes
  refine Proceeds.foldlM ?_ scope hs
  rintro ⟨item, i⟩ hi scope t ht
  have hmem := List.mem_of_getElem? (List.mk_mem_zipIdx_iff_getElem?.1 hi)
  exact attributeItem_proceeds hix hcalls ht
    ⟨hd.document, AttributeItem.allResolve_iff.1 hd.resolves item hmem⟩ _

/-! ## Classes -/

theorem derive_proceeds {derivation : Derivation}
    (hbase : env.index.hasType derivation.base = true) (id : NodeId) (document : Document) :
    Proceeds env (derive c env id derivation document) s := by
  unfold derive
  cases hxsd : derivation.base.isXsd with
  | true =>
    obtain ⟨p, hp⟩ := Index.builtin_of_hasType hbase hxsd
    simp only [hxsd, if_true, hp]
    split
    · exact .pure hs _
    · exact setText_proceeds hs _ _
    · rename_i hnone
      cases hnone
  | false =>
    obtain ⟨g, hg⟩ := Index.type_of_hasType hbase hxsd
    simp only [hxsd, Bool.false_eq_true, if_false, hg]
    refine (globalType_proceeds hix hcalls hs hg).bind fun base t ht => ?_
    split
    · refine (Proceeds.modifyGraph ht _).bind fun _ u hu => .getGraph ?_
      cases (u.graph.class? base).bind (·.text) with
      | none => exact .pure hu _
      | some text => exact setText_proceeds hu _ _
    · exact setText_proceeds ht _ _

theorem classScope_proceeds {d : Declared ComplexType}
    (hd : Grounded env.index d ComplexType.resolves) (id : NodeId) :
    Proceeds env (classScope c env id d) s := by
  unfold classScope
  refine .getGraph ?_
  cases hderivation : d.definition.derivation with
  | none => exact .pure hs _
  | some derivation =>
    have hbase := ((ComplexType.resolves_iff _).1 hd.resolves).1 derivation hderivation
    refine (derive_proceeds hix hcalls hs hbase id _).bind fun _ t ht => ?_
    cases derivation.method with
    | extension => exact .pure ht _
    | restriction => exact .getGraph (.pure ht _)

theorem classText_proceeds {d : Declared ComplexType}
    (hd : Grounded env.index d ComplexType.resolves) (scope : Scope) :
    Proceeds env (classText c env scope d) s := by
  have hmixed (t : State) (ht : Supplied env t) : Proceeds env (do
      let g ← getGraph
      if d.definition.mixed && (g.class? scope.owner).any (·.text.isNone) then
        setText scope.owner (.primitive .string)) t := by
    refine .getGraph ?_
    split
    · exact setText_proceeds ht _ _
    · exact .pure ht _
  unfold classText
  cases hcontent : d.definition.simpleContent with
  | none => exact hmixed s hs
  | some content =>
    have hresolves := ((ComplexType.resolves_iff _).1 hd.resolves).2.2.2 content hcontent
    refine (typeRef_proceeds hix hcalls hs ⟨hd.document, hresolves⟩ _).bind
      fun resolved t ht => ?_
    exact (setText_proceeds ht _ _).bind fun _ u hu => hmixed u hu

theorem classParticle_proceeds {d : Declared ComplexType}
    (hd : Grounded env.index d ComplexType.resolves) (scope : Scope) :
    Proceeds env (classParticle c env scope d) s := by
  unfold classParticle
  cases hp : d.definition.particle with
  | none => exact .pure hs _
  | some content =>
    have hresolves := ((ComplexType.resolves_iff _).1 hd.resolves).2.1 content hp
    exact particle_proceeds hix hcalls hs ⟨hd.document, hresolves⟩ _ _ _

theorem classContent_proceeds {d : Declared ComplexType}
    (hd : Grounded env.index d ComplexType.resolves) (id : NodeId) :
    Proceeds env (classContent c env id d) s := by
  have hattributes := ((ComplexType.resolves_iff _).1 hd.resolves).2.2.1
  unfold classContent
  refine (classScope_proceeds hix hcalls hs hd id).bind fun scope t ht => ?_
  refine (note_proceeds ht scope _).bind fun _ u hu => ?_
  refine (classText_proceeds hix hcalls hu hd scope).bind fun _ v hv => ?_
  refine (attributes_proceeds hix hcalls hv ⟨hd.document, hattributes⟩ scope).bind
    fun scope' w hw => ?_
  refine (classParticle_proceeds hix hcalls hw hd scope').bind fun scope'' x hx => ?_
  exact anyAttributeOf_proceeds hx _ _

theorem classNode_proceeds {d : Declared ComplexType}
    (hd : Grounded env.index d ComplexType.resolves) (identity : QName) (candidate : String)
    (key : Option CacheKey) : Proceeds env (classNode c env d identity candidate key) s := by
  have hcontent (id : NodeId) (t : State) (ht : Supplied env t) :
      Proceeds env (do classContent c env id d; return id) t :=
    (classContent_proceeds hix hcalls ht hd id).map _
  have hplace (id : NodeId) (t : State) (ht : Supplied env t) : Proceeds env (do
      if d.definition.name.isNone then modifyContext (·.recordInline d.place id)
      classContent c env id d
      return id) t := by
    cases d.definition.name with
    | none => exact (Proceeds.modifyContext ht rfl).bind fun _ u hu => hcontent id u hu
    | some name => exact hcontent id t ht
  unfold classNode
  refine .getContext ?_
  cases (key.bind s.context.cache.get?).orElse fun _ => s.context.inlineType? d.place with
  | some id => exact .pure hs _
  | none =>
    refine (newNode_proceeds hs hd.document _ _ _ _).bind fun id t ht => ?_
    cases key with
    | none => exact hplace id t ht
    | some key => exact (Proceeds.modifyContext ht rfl).bind fun _ u hu => hplace id u hu

end

/-- However deep they may lead, the ways down proceed. -/
theorem callsUpTo_proceed (hix : env.index.Whole) (fuel : Nat) :
    (callsUpTo env fuel).Proceed env := by
  induction fuel with
  | zero =>
    exact ⟨fun _ _ _ _ _ _ _ => .failBottomless _, fun _ _ _ _ _ _ _ => .failBottomless _,
      fun _ _ _ _ _ => .failBottomless _⟩
  | succ fuel ih =>
    exact ⟨fun d identity candidate key s hs hd => classNode_proceeds hix ih hs hd _ _ _,
      fun scope d outer compositor s hs hd => particle_proceeds hix ih hs hd _ _ _,
      fun scope d s hs hd => attributes_proceeds hix ih hs hd _⟩

/-! ## Roots -/

theorem rootClass_proceeds (hs : Supplied env s) {document : Document}
    (hdocument : document ∈ env.index.documents) (base : NodeId) (element : QName) :
    Proceeds env (rootClass env base element document) s := by
  unfold rootClass
  refine .getContext ?_
  split
  · exact .pure hs _
  · refine .getGraph ?_
    refine (newNode_proceeds hs hdocument _ _ _ _).bind fun id t ht => ?_
    refine (Proceeds.modifyGraph ht _).bind fun _ u hu => ?_
    refine (Proceeds.modifyContext hu rfl).bind fun _ v hv => ?_
    exact .modifyGraph hv _

/-- The document of the element that was the first of its type is known. -/
theorem claimRoot_proceeds (hix : env.index.Whole) (hs : Supplied env s) {document : Document}
    (hdocument : document ∈ env.index.documents) (id : NodeId) (element : QName) :
    Proceeds env (claimRoot env id element document) s := by
  unfold claimRoot
  refine .getGraph ?_
  split
  · exact rootClass_proceeds hs hdocument _ _
  · refine .getContext ?_
    cases hfirst : s.context.roots.get? id with
    | none =>
      refine (Proceeds.modifyGraph hs _).bind fun _ t ht => ?_
      refine ⟨fun _ u hu => ?_, by rintro _ ⟨⟩⟩
      rw [modifyContext_ok.1 hu]
      refine ⟨ht.answers, fun i claim hi => ?_⟩
      rw [show _ = _ from Table.get?_insert _ _ _ _] at hi
      split at hi
      · obtain rfl := Option.some.inj hi
        exact hix.locations _ hdocument
      · exact ht.roots i claim hi
    | some first =>
      refine (Proceeds.modifyGraph hs _).bind fun _ t ht => ?_
      obtain ⟨home, hhome⟩ := Option.isSome_iff_exists.1 (hs.roots id first hfirst)
      simp only [hhome]
      refine (rootClass_proceeds ht (Index.mem_documents_of_document? hhome) _ _).bind
        fun _ u hu => ?_
      exact rootClass_proceeds hu hdocument _ _

theorem topLevelElement_proceeds (hix : env.index.Whole) (hs : Supplied env s) {name : QName}
    {g : Global ElementDecl} (hg : env.index.element? name = some g) :
    Proceeds env (topLevelElement env (.ofGlobal .elements g)) s := by
  obtain ⟨hdoc, -⟩ := hix.elements name g hg
  have hclaim (v : ValueType) (t : State) (ht : Supplied env t) :
      Proceeds env (claimClass env g.definition g.document v) t := by
    cases v with
    | primitive p => exact .pure ht _
    | node id =>
      refine .getGraph ?_
      split
      · exact .pure ht _
      · split
        · exact .modifyGraph ht _
        · exact claimRoot_proceeds hix ht hdoc _ _
  unfold topLevelElement
  refine (globalElementType_proceeds hix (callsUpTo_proceed hix _) hs hg).bind
    fun resolved t ht => ?_
  dsimp only [Declared.ofGlobal]
  cases g.definition.substitutionGroup with
  | none => exact hclaim _ t ht
  | some head => exact (Proceeds.modifyContext ht rfl).bind fun _ u hu => hclaim _ u hu

/-! ## The whole -/

theorem documents_proceeds (hix : env.index.Whole) (hs : Supplied env s) :
    Proceeds env (documents env) s := by
  rw [documents_eq]
  refine .forM (fun x hx t ht => ?_) hs
  cases x with
  | type name g =>
    exact (globalType_proceeds hix (callsUpTo_proceed hix _) ht (mem_tasks_iff.1 hx).1).map _
  | element g => exact topLevelElement_proceeds hix ht (mem_tasks_iff.1 hx)

end Build

end XmlTypes
