import XmlTypes.Build.Roots
import XmlTypes.Proofs.Asking
import XmlTypes.Proofs.Declarations
import XmlTypes.Proofs.Links
import XmlTypes.Proofs.Runs
import XmlTypes.Proofs.Values
import XmlTypes.Proofs.Wildcards
/-!
# What one step of a construction does

A construction changes its state in few ways: it changes something that is no concern of others, it
adds a node for a construct and remembers it, it opens a class or an interface for its members, or
it adds a property for one of them. Every step keeps what was there before (`Step.extend`), and
nothing is remembered for what it does not stand for (`Step.sound`).
-/

namespace XmlTypes.Build

open Schema

/-! ## Types and the nodes that stand for them -/

/-- The key under which a global type is remembered. -/
def typeKey (n : QName) (g : Global TypeDefinition) : CacheKey :=
  ⟨if g.definition.isComplex then .complexType else .simpleType, g.document.location, n⟩

section
variable {c : Calls} {env : Environment} {n : QName} {g : Global TypeDefinition}
  (hix : env.index.Lawful) (hg : env.index.type? n = some g)
include hix hg

/-- A global complex type has a name, under which its class is built. -/
theorem globalType_complex {t : ComplexType} (ht : g.definition = .complex t) :
    globalType c env g = c.classNode ((Declared.ofGlobal .types g).inPlace t) n
      (env.naming.complexType n "") (some ⟨.complexType, g.document.location, n⟩) := by
  have hname : t.name = some n := by simpa [ht, TypeDefinition.name] using hix.types n g hg
  simp only [globalType, ht, complexType, Declared.inPlace, hname]
  rfl

/-- A global simple type has a name, under which its node is built. -/
theorem globalType_simple {t : SimpleType} (ht : g.definition = .simple t) :
    globalType c env g = simpleTypeNode env n ((Declared.ofGlobal .types g).inPlace t) := by
  have hname : t.name = some n := by simpa [ht, TypeDefinition.name] using hix.types n g hg
  simp only [globalType, ht, namedSimpleType, Declared.inPlace, hname]

end

/-- A node was opened for the members of a complex type of that kind. -/
def OpenedFor (s : State) (id : NodeId) (kind : Declared ComplexType → Prop) : Prop :=
  ∃ r ∈ s.journal, r.scope.owner = id ∧ ∃ d, r.source = .type d ∧ kind d

/-- The type is declared under the name, in the document that is the first to declare it. -/
def DeclaredAs (ix : Index) (n : QName) (d : Declared ComplexType) : Prop :=
  ∃ g, ix.type? n = some g ∧ d.location = g.document.location ∧ d.definition.name = some n

/-- `v` is the node that is remembered for the global type of the given name, or that is made for
it if the name is empty and cannot be remembered. -/
def Denotes (env : Environment) (s : State) (n : QName) (v : ValueType) : Prop :=
  ∃ g id, env.index.type? n = some g ∧ v = .node id ∧
    (n.isEmpty = false → s.context.cache.get? (typeKey n g) = some id) ∧
    (n.isEmpty = true → (∃ m, s.graph.node? id = some m ∧ m.isClass = false) ∨
      OpenedFor s id (DeclaredAs env.index n))

/-- `v` is the right type for a reference, if the reference is a name that is not built in. -/
def Written (env : Environment) (s : State) (r : Option TypeRef) (v : ValueType) : Prop :=
  ∀ n, r = some (.named n) → isBuiltin n = false → Denotes env s n v

/-- What the property `p` of the owner of the opening `r` stands for: a member that no restriction
restates, whose type is right for how the schema writes it, or a wildcard. -/
inductive Arises (env : Environment) (right : Option TypeRef → ValueType → Prop) (r : Opening) :
    Property → Prop
  | ofElement {d isReference type occurs order} : r.Has env.index (.element d isReference) →
      (d.definition.name, false) ∉ r.scope.restated → right d.definition.typeRef type.type →
      Arises env right r
        (elementProperty env r.scope d.definition type occurs isReference order)
  | ofAttribute {d isReference type} : r.Has env.index (.attribute d isReference) →
      (d.definition.name, true) ∉ r.scope.restated → right d.definition.typeRef type.type →
      Arises env right r (attributeProperty env r.scope d.definition type isReference)
  | wildcard {p} : p.owner = r.scope.owner → p.isWildcard = true → p.originalName = p.name →
      p.substitutes = [] → Arises env right r p

/-! ## Steps -/

/-- A change of the state. The base and the text change for the node `head` only. -/
inductive Change (env : Environment) : (head : Option NodeId) → State → State → Prop
  /-- The resolver, roots, properties that wait, groups that are being expanded. -/
  | aside {s t} : t.graph = s.graph → t.context.cache = s.context.cache →
      t.context.inlineTypes = s.context.inlineTypes →
      t.context.substitutions.members = s.context.substitutions.members →
      t.journal = s.journal → Change env none s t
  /-- An element joins the substitution group of a head. -/
  | join {s g head type isAbstract} : env.index.element? g.definition.name = some g →
      Written env s g.definition.typeRef type → s.graph.IsValue type →
      Change env none s { s with context := { s.context with
        substitutions := s.context.substitutions.register ⟨head, g.definition.name, type⟩
          isAbstract } }
  /-- The type given in place for a global element or attribute is remembered. That of an element
  is no class, which would be remembered when it is created. -/
  | remember {s key id} : (key.kind = .elementType ∧
          (∃ n, s.graph.node? id = some n ∧ n.isClass = false) ∧
          (∃ g t, env.index.element? key.name = some g ∧
            g.definition.typeRef = some (.inline (.simple t))) ∨
        key.kind = .attributeType ∧ ∃ g t, env.index.attribute? key.name = some g ∧
          g.definition.typeRef = some (.inline t)) → s.graph.IsValue (.node id) →
      Change env none s { s with context := s.context.recordNamed key id }
  | decorate {s id f} : Node.Decorates f →
      Change env none s { s with graph := s.graph.modify id f }
  | text {s id v} : s.graph.IsValue v → Change env (some id) s
      { s with graph := s.graph.modify id (Node.mapClass fun c => { c with text := some v }) }
  | base {s id b} : s.graph.base? id = none → (s.graph.class? id).isSome →
      (s.graph.class? b).isSome →
      Change env (some id) s { s with graph := s.graph.setBase id b }
  /-- What refers to a group is linked to its interface. -/
  | implement {s interface implementer} :
      (∃ n, s.graph.node? interface = some n ∧ n.isInterface = true) →
      (∃ n, s.graph.node? implementer = some n ∧ n.hasMembers = true) →
      Change env none s { s with graph := s.graph.addImplementer interface implementer }
  | property {s r p} : r ∈ s.journal → Arises env (Written env s) r p → s.graph.IsValue p.type →
      (p.isWildcard = true → IsForWildcard p ∧ r.HasAny env.index p.isAttribute) →
      Change env none s { s with graph := (s.graph.addProperty p).1 }

/-- Groups give interfaces, and the key is that of a declared group or attribute group. -/
def CacheKey.IsOfGroup (env : Environment) (k : CacheKey) : Prop :=
  env.options.generateInterfaces = true ∧
    (k.kind = .group ∧ (env.index.group? k.name).isSome = true ∨
      k.kind = .attributeGroup ∧ (env.index.attributeGroup? k.name).isSome = true)

theorem CacheKey.IsOfGroup.kind {env : Environment} {k : CacheKey} (h : k.IsOfGroup env) :
    k.kind = .group ∨ k.kind = .attributeGroup :=
  h.2.imp And.left And.left

theorem isOfGroup_group {env : Environment} (hix : env.index.Lawful)
    (hoption : env.options.generateInterfaces = true) {name : QName} {g : Global GroupDef}
    (hg : env.index.group? name = some g) (location : String) :
    CacheKey.IsOfGroup env ⟨.group, location, g.definition.name⟩ := by
  refine ⟨hoption, .inl ⟨rfl, ?_⟩⟩
  rw [hix.groups name g hg, hg, Option.isSome_some]

theorem isOfGroup_attributeGroup {env : Environment} (hix : env.index.Lawful)
    (hoption : env.options.generateInterfaces = true) {name : QName}
    {g : Global AttributeGroupDef} (hg : env.index.attributeGroup? name = some g)
    (location : String) :
    CacheKey.IsOfGroup env ⟨.attributeGroup, location, g.definition.name⟩ := by
  refine ⟨hoption, .inr ⟨rfl, ?_⟩⟩
  rw [hix.attributeGroups name g hg, hg, Option.isSome_some]

/-- The values that the node of the type tells of. -/
def Classification.shape? : Classification → Option SimpleShape
  | enumeration _ => none
  | value valueType restrictions isList => some { valueType, restrictions, isList }

/-- What a new node is made for, and the key it is remembered under. -/
inductive Purpose (env : Environment) : Node → Option CacheKey → Prop
  | type {n d name} : Belongs env.index (.type d) → d.definition.name = some name →
      n.isClass = true → n.identity = name →
      Purpose env n (some ⟨.complexType, d.location, name⟩)
  | simpleType {n name g t c} : env.index.type? name = some g → g.definition = .simple t →
      classify env g.document [name] t = .ok c →
      n.kind.label = (if c.isEnumeration then "enum" else "simple") → n.simple? = c.shape? →
      n.identity = name → Purpose env n (some ⟨.simpleType, g.document.location, name⟩)
  | group {n k} : n.isInterface = true → n.identity = k.name → k.IsOfGroup env →
      Purpose env n (some k)
  | unnamed {n key} : n.identity = .anonymous → n.simple? = none →
      (∀ k, key = some k →
        k.kind = .elementType ∧ n.isClass = true ∨ k.kind = .rootElement ∧ n.isClass = true) →
      Purpose env n key

/-- Remembers a node under a key and for a place, if it has them. -/
def Context.remember (c : Context) (key : Option CacheKey) (place : Option Place) (id : NodeId) :
    Context :=
  let c := key.elim c (c.recordNamed · id)
  place.elim c (c.recordInline · id)

/-- The node is right for the type that is given in place there: a class for a complex type, and an
enumeration for a simple one. -/
def Fills (ix : Index) (p : Place) (n : Node) : Prop :=
  ∃ r type, Belongs ix (.reference r) ∧ r.place = p ∧ r.definition = .inline type ∧
    n.kind.label = if type.isComplex then "class" else "enum"

/-- Something has a wrong name: a type given in place has one at all, or a global declaration has
an empty one. -/
inductive Misnamed (ix : Index) : Prop
  | inPlace {d : Declared ComplexType} : Belongs ix (.type d) → d.place.steps ≠ [] →
      d.definition.name.isSome = true → Misnamed ix
  | type {n g} : ix.type? n = some g → n.isEmpty = true → Misnamed ix
  | group {n g} : ix.group? n = some g → g.definition.name.isEmpty = true → Misnamed ix
  | attributeGroup {n g} : ix.attributeGroup? n = some g → g.definition.name.isEmpty = true →
      Misnamed ix

/-- The name is not reserved in the target namespace of the document. -/
def Unreserved (env : Environment) (document : Document) (name : String) : Prop :=
  env.reserved.contains document.targetNamespace name = false

/-- How a new node is named. Its name is free in its output namespace. With a name in the schema it
is the one that the naming has for that, unless a node has it already; without one it is not
reserved where the node is declared. -/
structure FreshlyNamed (env : Environment) (s : State) (n : Node) (key : Option CacheKey)
    (place : Option Place) : Prop where
  free : s.graph.find? n.space n.name = none
  candidate : n.identity.isEmpty = false → ∀ c, n.candidate? env.naming = some c →
    n.name = c ∨ (s.graph.find? n.space c).isSome = true
  inPlace : ∀ p, place = some p → n.isAnonymous = true ∧ ∃ r : Declared TypeRef,
    Belongs env.index (.reference r) ∧ r.place = p ∧ Unreserved env r.document n.name
  root : ∀ l q, key = some ⟨.rootElement, l, q⟩ → ∃ doc ∈ env.index.documents,
    doc.location = l ∧ Unreserved env doc n.name
  anonymous : n.isAnonymous = true → n.identity.isEmpty = true
  /-- Without a name in the schema it is made for a root element, or for a type given in place. -/
  unnamed : n.identity.isEmpty = true →
    n.IsRootClass ∧ n.isClass = true ∨ place.isSome = true ∨ Misnamed env.index

/-- A node is added and remembered. -/
structure Creation (env : Environment) (s t : State) (n : Node) (key : Option CacheKey)
    (place : Option Place) : Prop where
  nodes : t.graph.nodes = s.graph.nodes.push n
  context : t.context = s.context.remember key place s.graph.size
  journal : t.journal = s.journal
  placing : Placing n s t
  blank : n.Blank
  purpose : Purpose env n key
  named : FreshlyNamed env s n key place
  key : ∀ k, key = some k → s.context.cache.get? k = none
  place : ∀ p, place = some p → s.context.inlineType? p = none ∧ Fills env.index p n

/-- The complex type that the members are those of, if there is one. -/
def Source.type? : Source → Option (Declared ComplexType)
  | .type d => some d
  | _ => none

theorem Source.exists_of_any {source : Source} {p : Declared ComplexType → Bool}
    (h : source.type?.any p = true) : ∃ d, source = .type d ∧ p d = true := by
  cases source with
  | type d => exact ⟨d, rfl, h⟩
  | group _ => cases h
  | attributeGroup _ => cases h

/-- Whether the members are those of a type that restricts its base. -/
def Source.isRestriction : Source → Bool
  | .type d => d.definition.derivation.any (·.method = .restriction)
  | _ => false

/-- The members that the opened class or interface does not take over. -/
def Source.restated (g : Graph) (owner : NodeId) (source : Source) : List (QName × Bool) :=
  if source.isRestriction then restatable g owner else []

/-- A class or an interface is opened for its members. -/
structure Opens (env : Environment) (s : State) (n : Node) (scope : Scope) (source : Source) :
    Prop where
  node : s.graph.node? scope.owner = some n
  name : scope.ownerName = n.name
  members : n.hasMembers = true
  restated : scope.restated = source.restated s.graph scope.owner
  fresh : ∀ r ∈ s.journal, r.scope.owner ≠ scope.owner
  belongs : ∀ d, source = .type d → n.isClass = true ∧ Belongs env.index (.type d)
  type : n.isClass = true → ∃ d, source = .type d
  sought : ∀ d, source = .type d → Sought env.index s.journal d
  remembered : ∀ d, source = .type d → d.definition.name = none →
    s.context.inlineType? d.place = some scope.owner

/-- One step of a construction. -/
inductive Moves (env : Environment) : State → State → Prop
  | change {head s t} : Change env head s t → Moves env s t
  | create {s t n key place} : Creation env s t n key place → Moves env s t
  | opening {s n scope source} : Opens env s n scope source → Moves env s (s.noted scope source)

/-! ## What stays -/

/-- `t` has all that `s` has. -/
structure Extends (s t : State) : Prop where
  graph : s.graph.Grows t.graph
  cache : ∀ k id, s.context.cache.get? k = some id → t.context.cache.get? k = some id
  inlineTypes : ∀ p id, s.context.inlineType? p = some id → t.context.inlineType? p = some id
  journal : s.journal ⊆ t.journal

theorem Extends.refl (s : State) : Extends s s :=
  ⟨.refl _, fun _ _ => id, fun _ _ => id, List.Subset.refl _⟩

theorem Extends.trans {s t u : State} (h : Extends s t) (h' : Extends t u) : Extends s u :=
  ⟨h.graph.trans h'.graph, fun k id hk => h'.cache k id (h.cache k id hk),
    fun p id hp => h'.inlineTypes p id (h.inlineTypes p id hp),
    List.Subset.trans h.journal h'.journal⟩

variable {env : Environment} {s t : State}

theorem Cache.get?_insert_of_some {c : Cache} {k j : CacheKey} {a b : NodeId}
    (h : c.get? j = some b) : (c.insert k a).get? j = some b := by
  unfold insert
  split
  · exact h
  · exact Table.get?_insertNew_of_some h

theorem Cache.get?_insert_self {c : Cache} {k : CacheKey} {a : NodeId} (h : c.get? k = none)
    (hk : k.name.isEmpty = false) : (c.insert k a).get? k = some a := by
  rw [insert, hk]
  exact Table.get?_insertNew_self h

/-- What is found after an insertion was there before, or is what was inserted. -/
theorem Cache.of_get?_insert {c : Cache} {k j : CacheKey} {a b : NodeId}
    (h : (c.insert k a).get? j = some b) : c.get? j = some b ∨ j = k ∧ b = a := by
  unfold insert at h
  split at h
  · exact .inl h
  · exact Table.of_get?_insertNew h

/-- A construct without a name is not remembered. -/
theorem Cache.named_insert {c : Cache} {k : CacheKey} {a : NodeId}
    (hc : ∀ j b, c.get? j = some b → j.name.isEmpty = false) {j : CacheKey} {b : NodeId}
    (h : (c.insert k a).get? j = some b) : j.name.isEmpty = false := by
  unfold insert at h
  split at h
  · exact hc j b h
  · rename_i hk
    rcases Table.of_get?_insertNew h with h | ⟨rfl, -⟩
    · exact hc j b h
    · simpa using hk

theorem Change.extend {head : Option NodeId} (h : Change env head s t) : Extends s t := by
  cases h with
  | aside hn hc hi _ hj =>
    refine ⟨hn ▸ .refl _, fun k id hk => ?_, fun p id hp => ?_, hj ▸ List.Subset.refl _⟩
    · rwa [hc]
    · rwa [Context.inlineType?, hi]
  | join _ _ => exact ⟨.refl _, fun _ _ => id, fun _ _ => id, List.Subset.refl _⟩
  | remember _ =>
    exact ⟨.refl _, fun k id hk => Cache.get?_insert_of_some hk, fun _ _ => id,
      List.Subset.refl _⟩
  | decorate hf =>
    exact ⟨.modify fun m _ => (hf m).1.grows, fun _ _ => id, fun _ _ => id, List.Subset.refl _⟩
  | text =>
    exact ⟨.modify fun m _ => (m.setText_keeps _).grows, fun _ _ => id, fun _ _ => id,
      List.Subset.refl _⟩
  | base hb _ _ => exact ⟨.setBase hb, fun _ _ => id, fun _ _ => id, List.Subset.refl _⟩
  | implement _ _ =>
    exact ⟨.addImplementer _ _, fun _ _ => id, fun _ _ => id, List.Subset.refl _⟩
  | property _ _ _ _ => exact ⟨.addProperty _, fun _ _ => id, fun _ _ => id, List.Subset.refl _⟩

section
variable (c : Context) (key : Option CacheKey) (place : Option Place) (id : NodeId)

theorem Context.cache_remember :
    (c.remember key place id).cache = key.elim c.cache (c.cache.insert · id) := by
  cases key <;> cases place <;> rfl

theorem Context.inlineTypes_remember : (c.remember key place id).inlineTypes =
    place.elim c.inlineTypes (c.inlineTypes.insertNew · id) := by
  cases key <;> cases place <;> rfl

theorem Context.active_remember : (c.remember key place id).active = c.active := by
  cases key <;> cases place <;> rfl

theorem Context.substitutions_remember :
    (c.remember key place id).substitutions = c.substitutions := by
  cases key <;> cases place <;> rfl

end

theorem Creation.extend {n : Node} {key : Option CacheKey} {place : Option Place}
    (h : Creation env s t n key place) : Extends s t := by
  refine ⟨.push h.nodes, fun k id hk => ?_, fun p id hp => ?_, h.journal ▸ List.Subset.refl _⟩
  · rw [h.context, Context.cache_remember]
    cases key with
    | none => exact hk
    | some key => exact Cache.get?_insert_of_some hk
  · rw [Context.inlineType?, h.context, Context.inlineTypes_remember]
    cases place with
    | none => exact hp
    | some place => exact Table.get?_insertNew_of_some hp

/-- No step loses anything. -/
theorem Moves.extend (h : Moves env s t) : Extends s t := by
  cases h with
  | change h => exact h.extend
  | create h => exact h.extend
  | opening h => exact ⟨.refl _, fun _ _ => id, fun _ _ => id, List.subset_cons_self _ _⟩

theorem Moves.enter (group : QName) :
    Moves env s { s with context := s.context.enter group } :=
  .change (.aside rfl rfl rfl rfl rfl)

theorem Moves.leave (env : Environment) : Moves env s { s with context := s.context.leave } :=
  .change (.aside rfl rfl rfl rfl rfl)

theorem Substitutions.members_addSite (s : Substitutions) (owner : NodeId) (head : QName) :
    (s.addSite owner head).members = s.members := by
  unfold addSite
  split <;> rfl

theorem OpenedFor.mono {id : NodeId} {kind : Declared ComplexType → Prop}
    (h : OpenedFor s id kind) (he : Extends s t) : OpenedFor t id kind := by
  obtain ⟨r, hr, ho⟩ := h
  exact ⟨r, he.journal hr, ho⟩

theorem OpenedFor.imp {id : NodeId} {P Q : Declared ComplexType → Prop} (h : OpenedFor s id P)
    (hPQ : ∀ d, P d → Q d) : OpenedFor s id Q := by
  obtain ⟨r, hr, ho, d, hd, hp⟩ := h
  exact ⟨r, hr, ho, d, hd, hPQ d hp⟩

theorem Denotes.mono {n : QName} {v : ValueType} (h : Denotes env s n v) (he : Extends s t) :
    Denotes env t n v := by
  obtain ⟨g, id, hg, hv, hk, ho⟩ := h
  exact ⟨g, id, hg, hv, fun hn => he.cache _ _ (hk hn),
    fun hn => (ho hn).imp he.graph.not_class (·.mono he)⟩

theorem Written.mono {r : Option TypeRef} {v : ValueType} (h : Written env s r v)
    (he : Extends s t) : Written env t r v :=
  fun n hn hb => (h n hn hb).mono he

theorem Arises.imp {P Q : Option TypeRef → ValueType → Prop} {r : Opening} {p : Property}
    (h : Arises env P r p) (hPQ : ∀ r v, P r v → Q r v) : Arises env Q r p := by
  cases h with
  | ofElement hm hr hw => exact .ofElement hm hr (hPQ _ _ hw)
  | ofAttribute hm hr hw => exact .ofAttribute hm hr (hPQ _ _ hw)
  | wildcard ho hw hn hs => exact .wildcard ho hw hn hs

theorem Arises.mono {r : Opening} {p : Property} (h : Arises env (Written env s) r p)
    (he : Extends s t) : Arises env (Written env t) r p :=
  h.imp fun _ _ hw => hw.mono he

/-- What is placed stays so. -/
theorem Placed.mono {d : Declared TypeRef} {v : ValueType} (h : Placed env s d v)
    (he : Extends s t) : Placed env t d v :=
  ⟨h.node, fun type id hd hn hv => he.inlineTypes _ _ (h.place type id hd hn hv)⟩

/-- A change touches the base and the text of one node at most. -/
theorem Change.head_unchanged (h : Change env head s t) {id : NodeId} (hh : head ≠ some id) :
    t.graph.base? id = s.graph.base? id ∧ t.graph.text? id = s.graph.text? id := by
  cases h with
  | aside hg _ _ _ _ => exact hg ▸ ⟨rfl, rfl⟩
  | decorate hf =>
    exact ⟨Graph.base?_congr (Graph.bind_node?_modify _ fun _ n => (hf n).1.base),
      Graph.text?_congr (Graph.bind_node?_modify _ fun _ n => (hf n).2)⟩
  | text _ =>
    exact ⟨Graph.base?_congr (Graph.bind_node?_modify _ fun h => absurd (h ▸ rfl) hh),
      Graph.text?_congr (Graph.bind_node?_modify _ fun h => absurd (h ▸ rfl) hh)⟩
  | base _ _ _ =>
    have hd : id ≠ _ := fun h => hh (congrArg some h.symm)
    exact ⟨Graph.base?_congr (Graph.bind_node?_setBase _ hd fun n f hb _ => n.base?_mapClass f hb),
      Graph.text?_congr (Graph.bind_node?_setBase _ hd fun n f _ ht => n.text?_mapClass f ht)⟩
  | implement _ _ => exact ⟨Graph.base?_addImplementer _ _ _, Graph.text?_addImplementer _ _ _⟩
  | property _ _ _ _ =>
    exact ⟨Graph.base?_congr (Graph.bind_node?_addProperty _ Node.base?_mapProperties),
      Graph.text?_congr (Graph.bind_node?_addProperty _ Node.text?_mapProperties)⟩
  | _ => exact ⟨rfl, rfl⟩

/-! ## Soundness of what is remembered -/

/-- What is remembered stands for what it is remembered for. -/
structure Sound (env : Environment) (s : State) : Prop where
  /-- Only definitions given in place are found by their place. -/
  inPlace : ∀ p id, s.context.inlineType? p = some id →
    ∃ n, s.graph.node? id = some n ∧ Fills env.index p n
  named : ∀ k id, s.context.cache.get? k = some id → k.name.isEmpty = false
  classes : ∀ l n id, s.context.cache.get? ⟨.complexType, l, n⟩ = some id →
    (s.graph.class? id).isSome
  simples : ∀ l n id, s.context.cache.get? ⟨.simpleType, l, n⟩ = some id →
    ∃ m, s.graph.node? id = some m ∧ m.isClass = false
  /-- The type given in place for an element is a class, or it is a simple type. -/
  elements : ∀ k id, k.kind = .elementType → s.context.cache.get? k = some id →
    (s.graph.class? id).isSome ∨ ∃ g t, env.index.element? k.name = some g ∧
      g.definition.typeRef = some (.inline (.simple t))
  interfaces : ∀ k id, k.kind = .group ∨ k.kind = .attributeGroup →
    s.context.cache.get? k = some id → ∃ n, s.graph.node? id = some n ∧ n.isInterface = true
  attributes : ∀ l n id, s.context.cache.get? ⟨.attributeType, l, n⟩ = some id →
    ∃ g t, env.index.attribute? n = some g ∧ g.definition.typeRef = some (.inline t)
  owners : ∀ r ∈ s.journal, ∃ n, s.graph.node? r.scope.owner = some n ∧ n.hasMembers = true
  /-- A type given in place without a name that is opened is remembered for its place. -/
  opened : ∀ r ∈ s.journal, ∀ d, r.source = .type d → d.definition.name = none →
    s.context.inlineType? d.place = some r.scope.owner
  /-- All but groups can be what a value holds. -/
  values : ∀ k id, k.kind ≠ .group → k.kind ≠ .attributeGroup →
    s.context.cache.get? k = some id → s.graph.IsValue (.node id)
  texts : ∀ id v, s.graph.text? id = some v → s.graph.IsValue v

/-- What is found under a key after a change was there before, except for what is remembered. -/
theorem Change.of_get? {head : Option NodeId} (h : Change env head s t) {k : CacheKey}
    {id : NodeId} (hk : t.context.cache.get? k = some id) :
    s.context.cache.get? k = some id ∨
      k.kind = .elementType ∧ (∃ n, t.graph.node? id = some n ∧ n.isClass = false) ∧
        (∃ g t, env.index.element? k.name = some g ∧
          g.definition.typeRef = some (.inline (.simple t))) ∨
      k.kind = .attributeType ∧ ∃ g t, env.index.attribute? k.name = some g ∧
        g.definition.typeRef = some (.inline t) := by
  cases h with
  | aside _ hc _ _ _ => exact .inl (by rwa [hc] at hk)
  | remember hkind =>
    rcases Cache.of_get?_insert hk with hk | ⟨rfl, rfl⟩
    · exact .inl hk
    · exact .inr hkind
  | _ => exact .inl hk

theorem Change.inlineType? {head : Option NodeId} (h : Change env head s t) (p : Place) :
    t.context.inlineType? p = s.context.inlineType? p := by
  cases h with
  | aside _ _ hi _ _ => rw [Context.inlineType?, hi]; rfl
  | _ => rfl

theorem Change.journal {head : Option NodeId} (h : Change env head s t) :
    t.journal = s.journal := by
  cases h with
  | aside _ _ _ _ hj => exact hj
  | _ => rfl

theorem Change.size {head : Option NodeId} (h : Change env head s t) :
    t.graph.size = s.graph.size := by
  cases h with
  | aside hn _ _ _ _ => rw [Graph.size, Graph.size, hn]
  | join _ _ => rfl
  | remember _ => rfl
  | decorate _ => exact Graph.size_modify _ _
  | text => exact Graph.size_modify _ _
  | base _ _ _ => exact (Graph.size_modify _ _).trans (Graph.size_modify _ _)
  | implement _ _ => exact Graph.size_addImplementer _ _
  | property _ _ _ _ => exact Graph.size_addProperty _

/-- A node is there before a change too. -/
theorem Change.of_node? {head : Option NodeId} (h : Change env head s t) {id : NodeId} {n : Node}
    (hn : t.graph.node? id = some n) : ∃ m, s.graph.node? id = some m ∧ m.Grows n := by
  obtain ⟨m, hm⟩ := Option.isSome_iff_exists.1
    (Graph.node?_isSome.2 (h.size ▸ Graph.lt_size_of_node? hn))
  obtain ⟨n', hn', hgrows⟩ := h.extend.graph.nodes id m hm
  obtain rfl := Option.some.inj (hn.symm.trans hn')
  exact ⟨m, hm, hgrows⟩

theorem Creation.of_get? {n : Node} {key : Option CacheKey} {place : Option Place}
    (h : Creation env s t n key place) {k : CacheKey} {id : NodeId}
    (hk : t.context.cache.get? k = some id) :
    s.context.cache.get? k = some id ∨ key = some k ∧ id = s.graph.size := by
  rw [h.context, Context.cache_remember] at hk
  cases key with
  | none => exact .inl hk
  | some key =>
    rcases Cache.of_get?_insert hk with hk | ⟨rfl, rfl⟩
    · exact .inl hk
    · exact .inr ⟨rfl, rfl⟩

/-- What is found for a place after a creation was there before, or is what is created. -/
theorem Creation.of_inlineType? {n : Node} {key : Option CacheKey} {place : Option Place}
    (h : Creation env s t n key place) {p : Place} {id : NodeId}
    (hp : t.context.inlineType? p = some id) :
    s.context.inlineType? p = some id ∨ place = some p ∧ id = s.graph.size := by
  rw [Context.inlineType?, h.context, Context.inlineTypes_remember] at hp
  cases place with
  | none => exact .inl hp
  | some q =>
    rcases Table.of_get?_insertNew hp with hp | ⟨rfl, rfl⟩
    · exact .inl hp
    · exact .inr ⟨rfl, rfl⟩

theorem Creation.get?_key {n : Node} {k : CacheKey} {place : Option Place}
    (h : Creation env s t n (some k) place) (hk : k.name.isEmpty = false) :
    t.context.cache.get? k = some s.graph.size := by
  rw [h.context, Context.cache_remember]
  exact Cache.get?_insert_self (h.key k rfl) hk

theorem Creation.node? {n : Node} {key : Option CacheKey} {place : Option Place}
    (h : Creation env s t n key place) (id : NodeId) :
    t.graph.node? id = if id = s.graph.size then some n else s.graph.node? id :=
  Graph.node?_of_push h.nodes id

theorem Sound.owners_of_extends (h : Sound env s) (he : Extends s t) :
    ∀ r ∈ s.journal, ∃ n, t.graph.node? r.scope.owner = some n ∧ n.hasMembers = true := by
  intro r hr
  obtain ⟨m, hm, hh⟩ := h.owners r hr
  obtain ⟨n, hn, hg⟩ := he.graph.nodes _ m hm
  exact ⟨n, hn, by rwa [Node.hasMembers_congr hg.label]⟩

/-- Only what is given in place is found by its place. -/
theorem Fills.steps {p : Place} {n : Node} (h : Fills env.index p n) : p.steps ≠ [] := by
  obtain ⟨r, type, hr, hplace, -⟩ := h
  exact hplace ▸ hr.reference_steps

theorem Fills.isInterface {p : Place} {n : Node} (h : Fills env.index p n) :
    n.isInterface = false := by
  obtain ⟨_, _, -, -, -, hlabel⟩ := h
  rw [Bool.eq_false_iff, ne_eq, Node.isInterface_iff, hlabel]
  split <;> decide

/-- A class, and nothing else, is right for a complex type. -/
theorem isClass_of_label {n : Node} {complex : Bool}
    (h : n.kind.label = if complex then "class" else "enum") : n.isClass = complex := by
  rw [Bool.eq_iff_iff, Node.isClass_iff, h]
  cases complex <;> simp

theorem Sound.inPlace_of_extends (h : Sound env s) (he : Extends s t) {p : Place} {id : NodeId}
    (hp : s.context.inlineType? p = some id) :
    ∃ n, t.graph.node? id = some n ∧ Fills env.index p n := by
  obtain ⟨m, hm, r, type, hr, hplace, hdef, hlabel⟩ := h.inPlace p id hp
  obtain ⟨n, hn, hg⟩ := he.graph.nodes id m hm
  exact ⟨n, hn, r, type, hr, hplace, hdef, hg.label.trans hlabel⟩

theorem Sound.interfaces_of_extends (h : Sound env s) (he : Extends s t) {k : CacheKey}
    {id : NodeId} (hkind : k.kind = .group ∨ k.kind = .attributeGroup)
    (hk : s.context.cache.get? k = some id) :
    ∃ n, t.graph.node? id = some n ∧ n.isInterface = true := by
  obtain ⟨m, hm, hi⟩ := h.interfaces k id hkind hk
  obtain ⟨n, hn, hg⟩ := he.graph.nodes _ m hm
  exact ⟨n, hn, by rwa [Node.isInterface_congr hg.label]⟩

theorem Change.sound {head : Option NodeId} (h : Change env head s t) (hs : Sound env s) :
    Sound env t where
  inPlace p id hp := hs.inPlace_of_extends h.extend (by rwa [h.inlineType?] at hp)
  named k id hk := by
    cases h with
    | aside _ hc _ _ _ => exact hs.named k id (by rwa [hc] at hk)
    | remember _ => exact Cache.named_insert hs.named hk
    | _ => exact hs.named k id hk
  classes l n id hk := by
    rcases h.of_get? hk with hk | ⟨hk, -⟩ | ⟨hk, -⟩
    · exact h.extend.graph.class? (hs.classes l n id hk)
    all_goals cases hk
  simples l n id hk := by
    rcases h.of_get? hk with hk | ⟨hk, -⟩ | ⟨hk, -⟩
    · exact h.extend.graph.not_class (hs.simples l n id hk)
    all_goals cases hk
  elements k id hkind hk := by
    rcases h.of_get? hk with hk | ⟨-, -, hk⟩ | ⟨hk, -⟩
    · exact (hs.elements k id hkind hk).imp_left h.extend.graph.class?
    · exact .inr hk
    · rw [hk] at hkind
      cases hkind
  interfaces k id hkind hk := by
    rcases h.of_get? hk with hk | ⟨hk, -⟩ | ⟨hk, -⟩
    · exact hs.interfaces_of_extends h.extend hkind hk
    all_goals rw [hk] at hkind; rcases hkind with hkind | hkind <;> cases hkind
  attributes l n id hk := by
    rcases h.of_get? hk with hk | ⟨hk, -⟩ | ⟨-, hk⟩
    · exact hs.attributes l n id hk
    · cases hk
    · exact hk
  owners := h.journal ▸ hs.owners_of_extends h.extend
  opened r hr d hd hn := h.extend.inlineTypes _ _ (hs.opened r (h.journal ▸ hr) d hd hn)
  values k id hg ha hk := by
    have hgrows := h.extend.graph
    cases h with
    | aside _ hc _ _ _ => exact hgrows.isValue (hs.values k id hg ha (by rwa [hc] at hk))
    | remember _ hv =>
      rcases Cache.of_get?_insert hk with hk | ⟨rfl, rfl⟩
      · exact hs.values k id hg ha hk
      · exact hv
    | _ => exact hgrows.isValue (hs.values k id hg ha hk)
  texts id v hv := by
    have hgrows := h.extend.graph
    by_cases hh : head = some id
    · cases h with
      | @text _ id' v' hvalue =>
        obtain rfl := Option.some.inj hh
        obtain ⟨n, hn, htext⟩ := Option.bind_eq_some_iff.1 ((Graph.text?_eq _).symm.trans hv)
        simp only [Graph.node?_modify, if_true, Option.map_eq_some_iff] at hn
        obtain ⟨m, -, rfl⟩ := hn
        obtain ⟨c, hc, hcv⟩ := Option.bind_eq_some_iff.1 htext
        rw [Node.class?_mapClass, Option.map_eq_some_iff] at hc
        obtain ⟨c', -, rfl⟩ := hc
        exact Option.some.inj hcv ▸ hgrows.isValue hvalue
      | base _ _ _ =>
        rw [Graph.text?_setBase] at hv
        exact hgrows.isValue (hs.texts id v hv)
      | _ => cases hh
    · exact hgrows.isValue (hs.texts id v ((h.head_unchanged hh).2.symm.trans hv))

theorem Creation.sound {n : Node} {key : Option CacheKey} {place : Option Place}
    (h : Creation env s t n key place) (hs : Sound env s) : Sound env t where
  inPlace p id hp := by
    rcases h.of_inlineType? hp with hp | ⟨hplace, rfl⟩
    · exact hs.inPlace_of_extends h.extend hp
    · exact ⟨n, by rw [h.node?, if_pos rfl], (h.place p hplace).2⟩
  named k id hk := by
    rw [h.context, Context.cache_remember] at hk
    cases key with
    | none => exact hs.named k id hk
    | some key => exact Cache.named_insert hs.named hk
  classes l m id hk := by
    rcases h.of_get? hk with hk | ⟨rfl, rfl⟩
    · exact h.extend.graph.class? (hs.classes l m id hk)
    · have hclass : n.isClass = true := by
        cases h.purpose with
        | type _ _ hc _ => exact hc
        | group _ _ hk => rcases hk.kind with hk | hk <;> cases hk
        | unnamed _ _ hk => rcases hk _ rfl with ⟨hk, -⟩ | ⟨hk, -⟩ <;> cases hk
      exact Graph.class?_isSome.2 ⟨n, by rw [h.node?, if_pos rfl], hclass⟩
  simples l m id hk := by
    rcases h.of_get? hk with hk | ⟨rfl, rfl⟩
    · exact h.extend.graph.not_class (hs.simples l m id hk)
    · refine ⟨n, by rw [h.node?, if_pos rfl], ?_⟩
      cases h.purpose with
      | simpleType _ _ _ hl _ _ =>
        rw [Bool.eq_false_iff, ne_eq, Node.isClass_iff, hl]
        split <;> decide
      | group _ _ hk => rcases hk.kind with hk | hk <;> cases hk
      | unnamed _ _ hk => rcases hk _ rfl with ⟨hk, -⟩ | ⟨hk, -⟩ <;> cases hk
  elements k id hkind hk := by
    rcases h.of_get? hk with hk | ⟨rfl, rfl⟩
    · exact (hs.elements k id hkind hk).imp_left h.extend.graph.class?
    · refine .inl (Graph.class?_isSome.2 ⟨n, by rw [h.node?, if_pos rfl], ?_⟩)
      cases h.purpose with
      | type _ _ hc _ => exact hc
      | simpleType _ _ _ _ _ _ => cases hkind
      | group _ _ hk => have hk := hk.kind; rw [hkind] at hk; rcases hk with hk | hk <;> cases hk
      | unnamed _ _ hk =>
        rcases hk _ rfl with ⟨-, hc⟩ | ⟨-, hc⟩ <;> exact hc
  interfaces k id hkind hk := by
    rcases h.of_get? hk with hk | ⟨rfl, rfl⟩
    · exact hs.interfaces_of_extends h.extend hkind hk
    · refine ⟨n, by rw [h.node?, if_pos rfl], ?_⟩
      cases h.purpose with
      | group hi _ _ => exact hi
      | type _ _ _ _ => rcases hkind with hkind | hkind <;> cases hkind
      | simpleType _ _ _ _ _ _ => rcases hkind with hkind | hkind <;> cases hkind
      | unnamed _ _ hk =>
        rcases hk _ rfl with ⟨hk, -⟩ | ⟨hk, -⟩ <;> rw [hk] at hkind <;>
          rcases hkind with hkind | hkind <;> cases hkind
  attributes l m id hk := by
    rcases h.of_get? hk with hk | ⟨rfl, rfl⟩
    · exact hs.attributes l m id hk
    · cases h.purpose with
      | group _ _ hk => rcases hk.kind with hk | hk <;> cases hk
      | unnamed _ _ hk => rcases hk _ rfl with ⟨hk, -⟩ | ⟨hk, -⟩ <;> cases hk
  owners := h.journal ▸ hs.owners_of_extends h.extend
  opened r hr d hd hn := h.extend.inlineTypes _ _ (hs.opened r (h.journal ▸ hr) d hd hn)
  values k id hg ha hk := by
    rcases h.of_get? hk with hk | ⟨rfl, rfl⟩
    · exact h.extend.graph.isValue (hs.values k id hg ha hk)
    · refine .of_node (n := n) (by rw [h.node?, if_pos rfl]) ?_
      cases h.purpose with
      | type _ _ hc _ => exact Node.isInterface_false_of_isClass hc
      | simpleType _ _ _ hl _ _ =>
        rw [Bool.eq_false_iff, ne_eq, Node.isInterface_iff, hl]
        split <;> decide
      | group _ _ hk => exact (hk.kind.elim hg ha).elim
      | unnamed _ _ hk =>
        rcases hk _ rfl with ⟨-, hc⟩ | ⟨-, hc⟩ <;> exact Node.isInterface_false_of_isClass hc
  texts id v hv := by
    rw [Graph.text?_eq, h.node?] at hv
    split at hv
    · rw [Option.bind_some, h.blank.text] at hv
      cases hv
    · exact h.extend.graph.isValue (hs.texts id v (by rwa [Graph.text?_eq]))

theorem Moves.sound (h : Moves env s t) (hs : Sound env s) : Sound env t := by
  cases h with
  | change h => exact h.sound hs
  | create h => exact h.sound hs
  | @opening _ n scope source h =>
    refine ⟨hs.inPlace, hs.named, hs.classes, hs.simples, hs.elements, hs.interfaces,
      hs.attributes, fun r hr => ?_, fun r hr d hd hn => ?_, hs.values, hs.texts⟩
    · rcases List.mem_cons.1 hr with rfl | hr
      · exact ⟨n, h.node, h.members⟩
      · exact hs.owners r hr
    · rcases List.mem_cons.1 hr with rfl | hr
      · exact h.remembered d hd hn
      · exact hs.opened r hr d hd hn

end XmlTypes.Build
