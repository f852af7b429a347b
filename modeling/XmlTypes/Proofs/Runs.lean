import XmlTypes.Build.Roots
import XmlTypes.Proofs.Nodes
import XmlTypes.Proofs.Tables
/-!
# Runs of a construction, step by step

A run that succeeds is a run of each step that succeeds. The lemmas take a run apart: what each
primitive gives, and the state it leaves.
-/

namespace XmlTypes.Build

open Schema

variable {α β : Type} {s t : State}

/-- A run of two steps is a run of the first and, from where that ends, of the second. -/
theorem bind_ok {m : Build α} {f : α → Build β} {r : β × State} :
    (m >>= f) s = .ok r ↔ ∃ a t, m s = .ok (a, t) ∧ f a t = .ok r := by
  change (m s >>= fun x => f x.1 x.2) = .ok r ↔ _
  cases h : m s with
  | error e => simp [bind, Except.bind]
  | ok x =>
    constructor
    · exact fun hf => ⟨x.1, x.2, rfl, hf⟩
    · rintro ⟨a, t, hx, hf⟩
      cases hx
      exact hf

theorem pure_apply (a : α) : (pure a : Build α) s = .ok (a, s) := rfl

theorem pure_ok {a b : α} : (pure a : Build α) s = .ok (b, t) ↔ b = a ∧ s = t := by
  simp [pure_apply, eq_comm]

theorem getGraph_ok {g : Graph} : getGraph s = .ok (g, t) ↔ g = s.graph ∧ s = t := by
  change Except.ok (s.graph, s) = _ ↔ _
  simp [eq_comm]

theorem getGraph_bind {f : Graph → Build β} : (getGraph >>= f) s = f s.graph s := rfl

theorem getContext_bind {f : Context → Build β} : (getContext >>= f) s = f s.context s := rfl

theorem modifyGraph_ok {f : Graph → Graph} {u : Unit} :
    modifyGraph f s = .ok (u, t) ↔ t = { s with graph := f s.graph } := by
  change Except.ok ((), { s with graph := f s.graph }) = _ ↔ _
  simp [eq_comm]

theorem modifyContext_ok {f : Context → Context} {u : Unit} :
    modifyContext f s = .ok (u, t) ↔ t = { s with context := f s.context } := by
  change Except.ok ((), { s with context := f s.context }) = _ ↔ _
  simp [eq_comm]

theorem lift_ok {e : Except Failure α} {a : α} :
    (liftM e : Build α) s = .ok (a, t) ↔ e = .ok a ∧ s = t := by
  cases e with
  | error e =>
    change Except.error e = _ ↔ _
    simp
  | ok b =>
    change Except.ok (b, s) = _ ↔ _
    simp [eq_comm]

theorem failUnsupported_ok {construct : Unsupported} {r : α × State} :
    ¬ failUnsupported construct s = .ok r := nofun

theorem failUnresolved_ok {reference : Reference} {name : QName} {document : Document}
    {r : α × State} : ¬ failUnresolved reference name document s = .ok r := failUnsupported_ok

theorem failBottomless_ok {document : Document} {r : α × State} :
    ¬ failBottomless document s = .ok r := nofun

/-- The state after the opening of a scope is written down. -/
def State.noted (s : State) (scope : Scope) (source : Source) : State :=
  { s with journal :=
      ⟨scope, source, s.context.active, s.graph.inheritedProperties scope.owner⟩ :: s.journal }

theorem note_ok {scope : Scope} {source : Source} {u : Unit} :
    note scope source s = .ok (u, t) ↔ t = s.noted scope source := by
  change Except.ok ((), s.noted scope source) = _ ↔ _
  simp [eq_comm]

theorem setText_ok {id : NodeId} {v : ValueType} {u : Unit} :
    setText id v s = .ok (u, t) ↔
      t = { s with
        graph := s.graph.modify id (Node.mapClass fun c => { c with text := some v }) } :=
  modifyGraph_ok

theorem addProperty_ok {p : Property} {b : Bool} :
    addProperty p s = .ok (b, t) ↔
      b = (s.graph.addProperty p).2 ∧ t = { s with graph := (s.graph.addProperty p).1 } := by
  change Except.ok ((s.graph.addProperty p).2, { s with graph := (s.graph.addProperty p).1 }) =
    _ ↔ _
  simp [eq_comm]

theorem resolveNamespace_ok {location uri space : String}
    (h : resolveNamespace location uri s = .ok (space, t)) :
    ∃ resolver, t = { s with resolver } := by
  refine ⟨(s.resolver.resolve (some location) uri).2, ?_⟩
  change (liftM (s.resolver.resolve (some location) uri).1 : Build String)
    { s with resolver := (s.resolver.resolve (some location) uri).2 } = _ at h
  exact (lift_ok.1 h).2.symm

/-! ## New nodes -/

/-- The namespaces once a node is placed in its own under its name. -/
def Placing (n : Node) (s t : State) : Prop :=
  ∃ key, t.graph.namespaces = (s.graph.namespaces.insertNew n.space { key }).modify n.space
    fun ns => { ns with types := ns.types.insert n.name s.graph.size }

/-- `t` differs from `s` by a node at the end that is placed in its namespace, and in answers to
what namespaces there are. -/
structure Adds (n : Node) (s t : State) : Prop where
  nodes : t.graph.nodes = s.graph.nodes.push n
  context : t.context = s.context
  journal : t.journal = s.journal
  placing : Placing n s t

/-- A node as it is made for a construct of a document. -/
structure Made (env : Environment) (document : Document) (candidate : String) (s : State)
    (identity : QName) (kind : NodeKind) (n : Node) : Prop where
  name : n.name = s.graph.uniqueTypeName env.reserved n.space candidate
    (if identity.isEmpty then document.targetNamespace else identity.uri) identity.isEmpty
  isAnonymous : n.isAnonymous = identity.isEmpty
  isAbstractRoot : n.isAbstractRoot = false
  identity : n.identity = identity
  kind : n.kind = kind

/-- A namespace that is created for a node holds no names yet. -/
theorem uniqueTypeName_ensureNamespace (g : Graph) (reserved : Reserved)
    (space candidate : String) (key : NamespaceKey) (uri : Option String) (anonymous : Bool) :
    (g.ensureNamespace space key).uniqueTypeName reserved space candidate uri anonymous =
      g.uniqueTypeName reserved space candidate uri anonymous := by
  have h : (((g.ensureNamespace space key).namespaces.get? space).map fun ns => ns.types).getD {} =
      ((g.namespaces.get? space).map fun ns => ns.types).getD {} := by
    rw [Graph.ensureNamespace, Table.get?_insertNew]
    cases g.namespaces.get? space <;> simp
  simp only [Graph.uniqueTypeName, h]

theorem newNode_ok {env : Environment} {document : Document} {identity : QName}
    {candidate : String} {kind : NodeKind} {documentation : List String} {id : NodeId}
    (h : newNode env document identity candidate kind documentation s = .ok (id, t)) :
    id = s.graph.size ∧ ∃ n, Made env document candidate s identity kind n ∧ Adds n s t := by
  unfold newNode at h
  simp only [bind_ok, pure_ok, getGraph_ok, modifyGraph_ok] at h
  obtain ⟨space, s₁, hr, -, s₂, rfl, -, s₃, ⟨rfl, rfl⟩, -, s₄, rfl, rfl, rfl⟩ := h
  obtain ⟨resolver, rfl⟩ := resolveNamespace_ok hr
  refine ⟨rfl, _, ?_, Graph.nodes_register _, rfl, rfl, ⟨some document.location,
    if identity.isEmpty then document.targetNamespace else identity.uri⟩, ?_⟩
  · exact ⟨uniqueTypeName_ensureNamespace _ _ _ _ _ _ _, rfl, rfl, rfl, rfl⟩
  · exact congrArg Graph.namespaces (Graph.register_allocate _)

/-! ## Lists -/

section
variable {σ ι : Type} {R : State → State → Prop} {I : State → σ → Prop} {P : ι → State → Prop}

/-- A fold keeps what each step keeps, and what a step establishes holds in the end. -/
theorem foldlM_ok {f : σ → ι → Build σ} {xs : List ι} (hrefl : ∀ s, R s s)
    (htrans : ∀ s t u, R s t → R t u → R s u)
    (hstep : ∀ x ∈ xs, ∀ s a t b, I s a → f a x s = .ok (b, t) → R s t ∧ I t b ∧ P x t)
    (hmono : ∀ x s t, R s t → P x s → P x t) :
    ∀ {s : State} {a : σ} {t : State} {b : σ}, I s a → xs.foldlM f a s = .ok (b, t) →
      R s t ∧ I t b ∧ ∀ x ∈ xs, P x t := by
  induction xs with
  | nil =>
    intro s a t b hi h
    obtain ⟨rfl, rfl⟩ := pure_ok.1 h
    exact ⟨hrefl s, hi, fun x hx => nomatch hx⟩
  | cons x xs ih =>
    intro s a t b hi h
    rw [List.foldlM_cons, bind_ok] at h
    obtain ⟨c, u, hx, hxs⟩ := h
    obtain ⟨hr, hu, hp⟩ := hstep x (by simp) s a u c hi hx
    obtain ⟨hr', ht, hps⟩ := ih (fun y hy => hstep y (by simp [hy])) hu hxs
    refine ⟨htrans _ _ _ hr hr', ht, fun y hy => ?_⟩
    rcases List.mem_cons.1 hy with rfl | hy
    · exact hmono _ _ _ hr' hp
    · exact hps y hy

theorem forM_eq (f : ι → Build Unit) (xs : List ι) :
    xs.forM f = xs.foldlM (fun _ x => f x) () := by
  induction xs with
  | nil => rfl
  | cons x xs ih =>
    change (f x >>= fun _ => xs.forM f) = _
    rw [List.foldlM_cons, ih]

theorem forM_ok {K : State → Prop} {f : ι → Build Unit} {xs : List ι} (hrefl : ∀ s, R s s)
    (htrans : ∀ s t u, R s t → R t u → R s u)
    (hstep : ∀ x ∈ xs, ∀ s t, K s → f x s = .ok ((), t) → R s t ∧ K t ∧ P x t)
    (hmono : ∀ x s t, R s t → P x s → P x t) (hs : K s)
    (h : xs.forM f s = .ok ((), t)) : R s t ∧ K t ∧ ∀ x ∈ xs, P x t := by
  rw [forM_eq] at h
  exact foldlM_ok (I := fun s (_ : Unit) => K s) hrefl htrans
    (fun x hx s _ t _ hi h => hstep x hx s t hi h) hmono hs h

end

/-! ## Elements -/

/-- How the type of a global element is found. What is given in place is remembered for the
element, if it comes to a node. -/
inductive ElementTyping (c : Calls) (env : Environment) (d : Declared ElementDecl)
    (resolved : Resolved) (s t : State) : Prop
  | untyped : d.definition.typeRef = none → resolved = .primitive .anyType → t = s →
      ElementTyping c env d resolved s t
  | named {n} : d.definition.typeRef = some (.named n) →
      namedType c env n d.document s = .ok (resolved, t) → ElementTyping c env d resolved s t
  | known {type id} : d.definition.typeRef = some (.inline type) →
      s.context.cache.get? ⟨.elementType, d.location, d.definition.name⟩ = some id →
      resolved = .node id → t = s → ElementTyping c env d resolved s t
  | complex {type id} : d.definition.typeRef = some (.inline (.complex type)) →
      c.classNode (d.part .type type) .anonymous (env.naming.rootElement d.definition.name "")
        (some ⟨.elementType, d.location, d.definition.name⟩) s = .ok (id, t) →
      resolved = .node id → ElementTyping c env d resolved s t
  | simple {type s₁} : d.definition.typeRef = some (.inline (.simple type)) →
      inlineSimpleType env (d.part .type type) (env.naming.rootElement d.definition.name "") s =
        .ok (resolved, s₁) →
      ((∃ p, resolved.type = .primitive p) ∧ t = s₁ ∨ ∃ id, resolved.type = .node id ∧
        t = { s₁ with context :=
          s₁.context.recordNamed ⟨.elementType, d.location, d.definition.name⟩ id }) →
      ElementTyping c env d resolved s t

theorem globalElementType_cases {c : Calls} {d : Declared ElementDecl} {resolved : Resolved}
    (h : globalElementType c env d s = .ok (resolved, t)) :
    ElementTyping c env d resolved s t := by
  unfold globalElementType at h
  cases hr : d.definition.typeRef with
  | none =>
    simp only [hr, pure_ok] at h
    exact .untyped hr h.1 h.2.symm
  | some r =>
    cases r with
    | named n =>
      simp only [hr] at h
      exact .named hr h
    | inline type =>
      simp only [hr] at h
      rw [getContext_bind] at h
      cases hk : s.context.cache.get? ⟨.elementType, d.location, d.definition.name⟩ with
      | some id =>
        simp only [hk, pure_ok] at h
        exact .known hr hk h.1 h.2.symm
      | none =>
        simp only [hk] at h
        cases type with
        | complex type =>
          simp only [bind_ok, pure_ok] at h
          obtain ⟨id, s₁, h, rfl, rfl⟩ := h
          exact .complex hr h rfl
        | simple type =>
          rw [bind_ok] at h
          obtain ⟨resolved', s₁, hinline, h⟩ := h
          cases hv : resolved'.type with
          | primitive p =>
            simp only [hv, pure_ok] at h
            obtain ⟨rfl, rfl⟩ := h
            exact .simple hr hinline (.inl ⟨⟨p, hv⟩, rfl⟩)
          | node id =>
            simp only [hv, bind_ok, modifyContext_ok, pure_ok] at h
            obtain ⟨-, _, rfl, rfl, rfl⟩ := h
            exact .simple hr hinline (.inr ⟨id, hv, rfl⟩)

/-- How the element `q` claims the class `id`. A class that is shared is the base of one for the
element, a first claim is recorded, and a second one makes the class shared. -/
inductive Claiming (env : Environment) (id : NodeId) (q : QName) (document : Document)
    (s t : State) : Prop
  | further : (s.graph.node? id).any (·.isAbstractRoot) = true →
      rootClass env id q document s = .ok ((), t) → Claiming env id q document s t
  | first : (s.graph.node? id).any (·.isAbstractRoot) = false → s.context.roots.get? id = none →
      t = { s with
        graph := s.graph.modify id fun n => { n with root := some q }
        context := { s.context with
          roots := s.context.roots.insert id ⟨q, document.location⟩ } } →
      Claiming env id q document s t
  | second {f home s₁ s₂} : (s.graph.node? id).any (·.isAbstractRoot) = false →
      s.context.roots.get? id = some f → env.index.document? f.location = some home →
      demote id s = .ok ((), s₁) → rootClass env id f.element home s₁ = .ok ((), s₂) →
      rootClass env id q document s₂ = .ok ((), t) → Claiming env id q document s t

theorem claimRoot_cases {id : NodeId} {q : QName} {document : Document}
    (h : claimRoot env id q document s = .ok ((), t)) : Claiming env id q document s t := by
  unfold claimRoot at h
  rw [getGraph_bind] at h
  split at h
  · rename_i hshared
    exact .further hshared h
  rename_i hshared
  rw [Bool.not_eq_true] at hshared
  rw [getContext_bind] at h
  cases hf : s.context.roots.get? id with
  | none =>
    simp only [hf, bind_ok, modifyGraph_ok, modifyContext_ok] at h
    obtain ⟨_, _, rfl, rfl⟩ := h
    exact .first hshared hf rfl
  | some f =>
    simp only [hf] at h
    cases hhome : env.index.document? f.location with
    | none =>
      simp only [hhome, bind_ok] at h
      obtain ⟨_, _, -, _, _, hno, -⟩ := h
      cases hno
    | some home =>
      simp only [hhome, bind_ok] at h
      obtain ⟨_, s₁, hdemote, _, s₂, hfirst, h⟩ := h
      exact .second hshared hf hhome hdemote hfirst h

/-- What is done with the type of an element once it is known: the element claims it as a root if
it is a class. -/
def claimClass (env : Environment) (e : ElementDecl) (document : Document) :
    ValueType → Build Unit
  | .primitive _ => return
  | .node id => do
    if ((← getGraph).class? id).isNone then return
    if hasInlineType e then modifyGraph (·.modify id fun n => { n with root := some e.name })
    else claimRoot env id e.name document

/-- An element finds its type, joins the group of its head if it has one, and claims its type. -/
theorem topLevelElement_cases {d : Declared ElementDecl}
    (h : topLevelElement env d s = .ok ((), t)) :
    ∃ resolved s₁ s₂, globalElementType env.calls env d s = .ok (resolved, s₁) ∧
      (d.definition.substitutionGroup = none ∧ s₂ = s₁ ∨
        ∃ head, d.definition.substitutionGroup = some head ∧
          s₂ = { s₁ with context := { s₁.context with
            substitutions := s₁.context.substitutions.register
              ⟨head, d.definition.name, resolved.type⟩ d.definition.isAbstract } }) ∧
      claimClass env d.definition d.document resolved.type s₂ = .ok ((), t) := by
  unfold topLevelElement at h
  rw [bind_ok] at h
  obtain ⟨resolved, s₁, htype, h⟩ := h
  refine ⟨resolved, s₁, ?_⟩
  cases hhead : d.definition.substitutionGroup with
  | none =>
    simp only [hhead] at h
    exact ⟨s₁, htype, .inl ⟨rfl, rfl⟩, h⟩
  | some head =>
    simp only [hhead] at h
    rw [bind_ok] at h
    obtain ⟨_, s₂, hjoin, h⟩ := h
    exact ⟨s₂, htype, .inr ⟨head, rfl, modifyContext_ok.1 hjoin⟩, h⟩

/-! ## Runs that are evaluated -/

/-- What is computed of the end of a run holds of a state in which the run ends. -/
theorem exists_of_any {x : Except Failure α} {p : α → Bool} (h : x.toOption.any p = true) :
    ∃ a, x = .ok a ∧ p a = true := by
  cases x with
  | error e => cases h
  | ok a => exact ⟨a, rfl, h⟩

/-- A resolver that has one output namespace for everything. -/
def oneNamespace : Resolver := .ofRules [(⟨none, none⟩, "T")]

/-- A name in the namespace of the schemas that are evaluated. -/
def sampleName (name : String) : QName := ⟨some "urn:t", name⟩

/-- An element with a type that is referred to, once in a sequence. -/
def sampleElement (name : String) (type : QName) : Particle :=
  .one (.element { name := sampleName name, typeRef := some (.named type) })

/-- A sequence of particles. -/
def sampleSequence (particles : List Particle) : Particle := .one (.group { particles })

/-- A schema of one document. -/
def sampleSet (types : List TypeDefinition) (groups : List GroupDef) : SchemaSet :=
  { documents := [{ location := "a.xsd", targetNamespace := some "urn:t", types, groups }] }

/-- A base type with an element of the type that is derived from it, and behind it an element that
the derived type declares as well. -/
def recursiveBase (method : DerivationMethod) : SchemaSet :=
  sampleSet
    [.complex
      { name := some (sampleName "Base")
        particle := some (sampleSequence [sampleElement "d" (sampleName "Derived"),
          sampleElement "x" (.xsd "string")]) },
     .complex
      { name := some (sampleName "Derived")
        particle := some (sampleSequence [sampleElement "x" (.xsd "string")])
        derivation := some ⟨sampleName "Base", method⟩ }]
    []

end XmlTypes.Build
