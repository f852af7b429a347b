import XmlTypes.Proofs.ClassRuns
import XmlTypes.Proofs.Finishing
import XmlTypes.Proofs.Unnamed
/-!
# One node for each type

A global type is remembered under its kind, the document that declares it first, and its name. What
is remembered and what is there go together: what is found under the key of a type is a node with
the name of the type, and a node with the name of a type is found under the key of the type
(`Identified`). So there is one node for each type, and all references lead to it.
-/

namespace XmlTypes

/-- The node was made for the type of the given name. -/
def Graph.IsTypeNode (g : Graph) (n : QName) (id : NodeId) : Prop :=
  ∃ node, g.node? id = some node ∧ node.identity = n ∧ node.isInterface = false

namespace Build

open Relation Schema

/-- The kind of node, in a word, for a type that is declared in a document. -/
def HasKind (env : Environment) (n : QName) (doc : Document) (label : String) :
    TypeDefinition → Prop
  | .complex _ => label = "class"
  | .simple t => ∃ c, classify env doc [n] t = .ok c ∧
    label = if c.isEnumeration then "enum" else "simple"

/-- What is remembered for a type is a node with its name, of its kind. -/
structure Remembered (env : Environment) (s : State) : Prop where
  remembered : ∀ n g id, env.index.type? n = some g →
    s.context.cache.get? (typeKey n g) = some id → ∃ node, s.graph.node? id = some node ∧
      node.identity = n ∧ HasKind env n g.document node.kind.label g.definition

/-- Nodes and names go together, and members of substitution groups have the types of their
elements. -/
structure Identified (env : Environment) (s : State) : Prop extends Remembered env s where
  known : ∀ id node, s.graph.node? id = some node → node.isInterface = false →
    node.identity.isEmpty = false → ∃ g, env.index.type? node.identity = some g ∧
      s.context.cache.get? (typeKey node.identity g) = some id
  members : ∀ head, ∀ m ∈ s.context.substitutions.membersOf head,
    ∃ g, env.index.element? m.member = some g ∧ Written env s g.definition.typeRef m.type

variable {env : Environment} {s t : State}

theorem HasKind.label_ne {n : QName} {doc : Document} {label : String} {t : TypeDefinition}
    (h : HasKind env n doc label t) : label ≠ "interface" := by
  cases t with
  | complex _ =>
    rw [HasKind] at h
    rw [h]
    decide
  | simple _ =>
    obtain ⟨c, -, h⟩ := h
    rw [h]
    split <;> decide

theorem typeKey_kind (n : QName) (g : Global TypeDefinition) :
    (typeKey n g).kind = .complexType ∨ (typeKey n g).kind = .simpleType := by
  unfold typeKey
  split <;> simp

/-! ## Steps -/

/-- An element that joins a substitution group is registered with its type. -/
theorem Substitutions.of_mem_register {registry : Substitutions} {m m' : Substitute}
    {isAbstract : Bool} {head : QName}
    (h : m' ∈ (registry.register m isAbstract).membersOf head) :
    m' ∈ registry.membersOf head ∨ m' = m := by
  unfold membersOf register at h
  rw [Table.get?_update] at h
  split at h
  · rename_i hhead
    rw [Option.getD_some] at h
    rw [membersOf, hhead]
    split at h
    · exact .inl h
    · rcases List.mem_append.1 h with h | h
      · exact .inl h
      · exact .inr (List.mem_singleton.1 h)
  · exact .inl h

theorem Change.members {head : Option NodeId} (h : Change env head s t) {m : Substitute}
    {q : QName} (hm : m ∈ t.context.substitutions.membersOf q) :
    m ∈ s.context.substitutions.membersOf q ∨ s.graph.IsValue m.type ∧
      ∃ g, env.index.element? m.member = some g ∧ Written env s g.definition.typeRef m.type := by
  cases h with
  | aside _ _ _ hm' _ =>
    rw [Substitutions.membersOf, hm'] at hm
    exact .inl hm
  | join hg hw hv =>
    rcases Substitutions.of_mem_register hm with hm | rfl
    · exact .inl hm
    · exact .inr ⟨hv, _, hg, hw⟩
  | _ => exact .inl hm

/-- What is made for a type has its name and kind. -/
theorem Purpose.of_typeKey {n : Node} {m : QName} {g : Global TypeDefinition}
    (hg : env.index.type? m = some g) (h : Purpose env n (some (typeKey m g))) :
    n.identity = m ∧ HasKind env m g.document n.kind.label g.definition := by
  generalize hkey : some (typeKey m g) = key at h
  cases h with
  | @type d name hd hname hclass hi =>
    cases ht : g.definition with
    | complex t =>
      simp only [typeKey, ht, TypeDefinition.isComplex, if_true, Option.some.injEq,
        CacheKey.mk.injEq] at hkey
      exact ⟨hi.trans hkey.2.2.symm, Node.isClass_iff.1 hclass⟩
    | simple t => simp [typeKey, ht, TypeDefinition.isComplex] at hkey
  | @simpleType name g' t c hg' ht hc hl _ hi =>
    obtain rfl : m = name := congrArg CacheKey.name (Option.some.inj hkey)
    obtain rfl := Option.some.inj (hg.symm.trans hg')
    rw [ht]
    exact ⟨hi, c, hc, hl⟩
  | group _ _ hgroup =>
    have hkind := hgroup.kind
    rw [← Option.some.inj hkey] at hkind
    rcases typeKey_kind m g with h | h <;> rw [h] at hkind <;> rcases hkind with h | h <;> cases h
  | unnamed _ _ hkind =>
    have hkind := (hkind _ hkey.symm).imp And.left And.left
    rcases typeKey_kind m g with h | h <;> rw [h] at hkind <;> rcases hkind with h | h <;> cases h

theorem Change.remembered {head : Option NodeId} (h : Change env head s t)
    (hs : Remembered env s) : Remembered env t where
  remembered n g id hg hk := by
    -- What a change remembers has other kinds of keys than types have.
    rcases h.of_get? hk with hk | ⟨hk, -⟩ | ⟨hk, -⟩
    · obtain ⟨m, hm, hi, hl⟩ := hs.remembered n g id hg hk
      obtain ⟨m', hm', hgrows⟩ := h.extend.graph.nodes id m hm
      exact ⟨m', hm', hgrows.identity.trans hi, by rwa [hgrows.label]⟩
    all_goals rcases typeKey_kind n g with hkind | hkind <;> rw [hk] at hkind <;> cases hkind

theorem Creation.remembered {n : Node} {key : Option CacheKey} {place : Option Place}
    (h : Creation env s t n key place) (hs : Remembered env s) : Remembered env t where
  remembered m g id hg hk := by
    rcases h.of_get? hk with hk | ⟨rfl, rfl⟩
    · obtain ⟨k, hk, hi, hl⟩ := hs.remembered m g id hg hk
      obtain ⟨k', hk', hgrows⟩ := h.extend.graph.nodes id k hk
      exact ⟨k', hk', hgrows.identity.trans hi, by rwa [hgrows.label]⟩
    · exact ⟨n, by rw [h.node?, if_pos rfl], h.purpose.of_typeKey hg⟩

theorem Moves.remembered (h : Moves env s t) (hs : Remembered env s) : Remembered env t := by
  cases h with
  | change h => exact h.remembered hs
  | create h => exact h.remembered hs
  | opening h => exact ⟨hs.remembered⟩

theorem Evolves.remembered_of_start {resolver : Resolver}
    (he : Evolves env none { resolver } s) : Remembered env s :=
  he.invariant ⟨fun _ _ _ _ hk => absurd hk.symm (Option.some_ne_none _)⟩
    fun _ _ => Moves.remembered

theorem Change.identified {head : Option NodeId} (h : Change env head s t)
    (hs : Identified env s) : Identified env t where
  toRemembered := h.remembered hs.toRemembered
  known id node hn hi hne := by
    obtain ⟨m, hm, hgrows⟩ := h.of_node? hn
    rw [hgrows.identity] at hne ⊢
    obtain ⟨g, hg, hk⟩ := hs.known id m hm (Node.isInterface_congr hgrows.label ▸ hi) hne
    exact ⟨g, hg, h.extend.cache _ _ hk⟩
  members q m hm := by
    rcases h.members hm with hm | ⟨-, g, hg, hw⟩
    · obtain ⟨g, hg, hw⟩ := hs.members q m hm
      exact ⟨g, hg, hw.mono h.extend⟩
    · exact ⟨g, hg, hw.mono h.extend⟩

section
variable {set : SchemaSet} (hset : set.namesTypes = true) (hix : env.index = .ofSet set)
include hset hix

/-- A new node with the name of a type is remembered as the node for it. -/
theorem Purpose.exists_typeKey {n : Node} {key : Option CacheKey} (h : Purpose env n key)
    (hi : n.isInterface = false) (hne : n.identity.isEmpty = false) :
    ∃ g, env.index.type? n.identity = some g ∧ key = some (typeKey n.identity g) := by
  cases h with
  | @type d name hd hname hclass hname' =>
    obtain ⟨g, hg, hdef, hdoc⟩ := (hix ▸ hd : Belongs (.ofSet set) _).type_of_name hset hname
    refine ⟨g, hname' ▸ hix ▸ hg, ?_⟩
    simp [typeKey, hdef, TypeDefinition.isComplex, hdoc, hname', Declared.location]
  | @simpleType name g type c hg hdef hc hl _ hname' =>
    exact ⟨g, hname' ▸ hg, by simp [typeKey, hdef, TypeDefinition.isComplex, hname']⟩
  | group hi' _ _ => exact absurd (hi.symm.trans hi') Bool.false_ne_true
  | unnamed hi' _ _ =>
    rw [hi'] at hne
    cases hne

theorem Creation.identified {n : Node} {key : Option CacheKey} {place : Option Place}
    (h : Creation env s t n key place) (hs : Identified env s) : Identified env t where
  toRemembered := h.remembered hs.toRemembered
  known id node hn hi hne := by
    rw [h.node?] at hn
    split at hn
    · rename_i hid
      obtain rfl := Option.some.inj hn
      obtain ⟨g, hg, rfl⟩ := h.purpose.exists_typeKey hset hix hi hne
      exact ⟨g, hg, hid ▸ h.get?_key hne⟩
    · obtain ⟨g, hg, hk⟩ := hs.known id node hn hi hne
      exact ⟨g, hg, h.extend.cache _ _ hk⟩
  members q m hm := by
    rw [h.context, Context.substitutions_remember] at hm
    obtain ⟨g, hg, hw⟩ := hs.members q m hm
    exact ⟨g, hg, hw.mono h.extend⟩

theorem Moves.identified (h : Moves env s t) (hs : Identified env s) : Identified env t := by
  cases h with
  | change h => exact h.identified hs
  | create h => exact h.identified hset hix hs
  | opening h =>
    refine ⟨⟨hs.remembered⟩, hs.known, fun head m hm => ?_⟩
    obtain ⟨g, hg, hw⟩ := hs.members head m hm
    exact ⟨g, hg, hw.mono (Moves.opening h).extend⟩

theorem run_identified {resolver : Resolver} (h : run env resolver = .ok s) :
    Identified env s := by
  refine run_invariant (hix ▸ Index.lawful_ofSet set) ?_ (fun _ _ hm => hm.identified hset hix) h
  exact ⟨⟨fun _ _ _ _ hk => absurd hk.symm (Option.some_ne_none _)⟩,
    fun _ _ hn => absurd hn.symm (Option.some_ne_none _),
    fun _ _ hm => absurd hm List.not_mem_nil⟩

end

/-! ## References -/

/-- `v` is the right type for a reference in a finished graph, if the reference is a name that is
not built in. -/
def Refers (g : Graph) (r : Option TypeRef) (v : ValueType) : Prop :=
  ∀ n, r = some (.named n) → isBuiltin n = false → ∃ id, v = .node id ∧ g.IsTypeNode n id

/-- Every type that is written as a reference is the node for the type that is referred to: the
type of a property and of what stands in for it, the base of a class, and the type of its text. -/
structure Resolves (env : Environment) (s : State) (g : Graph) : Prop where
  /-- A property is that of a member of its owner, or that of a substitute beside it. -/
  properties : ∀ id, ∀ p ∈ g.properties id,
    (∃ r ∈ s.journal, r.scope.owner = id ∧ ∃ q, Arises env (Refers g) r q ∧ p.bare = q.bare) ∨
    ∃ e, env.index.element? p.schemaName = some e ∧ p.isAttribute = false ∧
      Refers g e.definition.typeRef p.type
  substitutes : ∀ id, ∀ p ∈ g.properties id, ∀ m ∈ p.substitutes,
    ∃ e, env.index.element? m.member = some e ∧ Refers g e.definition.typeRef m.type
  bases : ∀ r ∈ s.journal, ∀ d derivation, r.source = .type d →
    d.definition.derivation = some derivation → isBuiltin derivation.base = false →
    ∃ type, env.index.type? derivation.base = some type ∧
      (type.definition.isComplex = true →
        ∃ b, g.base? r.scope.owner = some b ∧ g.IsTypeNode derivation.base b) ∧
      (type.definition.isComplex = false → d.definition.simpleContent = none →
        ∃ b, g.text? r.scope.owner = some (.node b) ∧ g.IsTypeNode derivation.base b)
  texts : ∀ r ∈ s.journal, ∀ d content, r.source = .type d →
    d.definition.simpleContent = some content →
    ∃ v, g.text? r.scope.owner = some v ∧ Refers g (some content) v

theorem Arises.substitutes {right : Option TypeRef → ValueType → Prop} {r : Opening}
    {p : Property} (h : Arises env right r p) : p.substitutes = [] := by
  cases h with
  | ofElement _ _ _ => rfl
  | ofAttribute _ _ _ => rfl
  | wildcard _ _ _ hs => exact hs

section
variable {set : SchemaSet} (hset : set.namesTypes = true) (hix : env.index = .ofSet set)
include hset hix

theorem Denotes.isTypeNode {n : QName} {v : ValueType} (hs : Identified env s)
    (h : Denotes env s n v) : ∃ id, v = .node id ∧ (s.finished env).IsTypeNode n id := by
  obtain ⟨g, id, hg, hv, hk, -⟩ := h
  obtain ⟨m, hm, hi, hkind⟩ := hs.remembered n g id hg (hk (isEmpty_of_type? hset (hix ▸ hg)))
  obtain ⟨m', hm', hshares⟩ := finished_node? env hm
  refine ⟨id, hv, m', hm', hshares.identity.trans hi, ?_⟩
  rw [Bool.eq_false_iff, ne_eq, Node.isInterface_iff, hshares.label]
  exact hkind.label_ne

theorem Written.refers {r : Option TypeRef} {v : ValueType} (hs : Identified env s)
    (h : Written env s r v) : Refers (s.finished env) r v :=
  fun n hn hb => (h n hn hb).isTypeNode hset hix hs

/-- A type has one node, of the kind that its definition says. -/
theorem Identified.exists_node (hs : Identified env s) {n : QName} {g : Global TypeDefinition}
    {id : NodeId} (hg : env.index.type? n = some g)
    (hk : s.context.cache.get? (typeKey n g) = some id) :
    ∃ node, (s.finished env).node? id = some node ∧ node.identity = n ∧
      HasKind env n g.document node.kind.label g.definition ∧
      ∀ j, (s.finished env).IsTypeNode n j ↔ j = id := by
  obtain ⟨m, hm, hi, hkind⟩ := hs.remembered n g id hg hk
  obtain ⟨m', hm', hshares⟩ := finished_node? env hm
  refine ⟨m', hm', hshares.identity.trans hi, by rwa [hshares.label], fun j => ⟨?_, ?_⟩⟩
  · rintro ⟨node, hnode, hname, hinterface⟩
    rcases (s.finished_shares env).node?_cases j with ⟨-, hnone⟩ | ⟨k, k', hk', hk'', hsame⟩
    · rw [hnode] at hnone
      cases hnone
    · obtain rfl := Option.some.inj (hnode.symm.trans hk'')
      rw [hsame.identity] at hname
      -- A node of that name is the one that is remembered for the name.
      have hne := isEmpty_of_type? hset (hix ▸ hg)
      obtain ⟨g', hg', hfound⟩ := hs.known j k hk'
        (Node.isInterface_congr hsame.label ▸ hinterface) (hname ▸ hne)
      rw [hname] at hg' hfound
      rw [hg, Option.some.injEq] at hg'
      rw [← hg', hk, Option.some.injEq] at hfound
      exact hfound.symm
  · rintro rfl
    refine ⟨m', hm', hshares.identity.trans hi, ?_⟩
    rw [Bool.eq_false_iff, ne_eq, Node.isInterface_iff, hshares.label]
    exact hkind.label_ne

theorem finished_resolves (hs : Identified env s) (hr : Recorded env s)
    (hf : ∀ r ∈ s.journal, Faithful env s r) : Resolves env s (s.finished env) := by
  have hattached := s.attached_of env
  have hshares := s.finished_shares env
  have hmember {m : Substitute} (hm : ∃ head, m ∈ s.context.substitutions.membersOf head) :
      ∃ e, env.index.element? m.member = some e ∧
        Refers (s.finished env) e.definition.typeRef m.type := by
    obtain ⟨head, hm⟩ := hm
    obtain ⟨e, he, hw⟩ := hs.members head m hm
    exact ⟨e, he, hw.refers hset hix hs⟩
  refine ⟨fun id p hp => ?_, fun id p hp m hm => ?_, fun r hrec d derivation hd hb hx => ?_,
    fun r hrec d content hd hc => ?_⟩
  · -- Back through renames and substitutes to the property as it was added.
    obtain ⟨p', hp', hbare, -⟩ := finished_arises hp
    rcases hattached.arises id p' hp' with ⟨q, hq, hpq⟩ | ⟨owner, ownerName, head, m, hm, hpm⟩
    · obtain ⟨r, hrec, ho, ha⟩ := hr.arises id q hq
      refine .inl ⟨r, hrec, ho, q, ha.imp fun _ _ hw => hw.refers hset hix hs, hbare.trans ?_⟩
      change p'.plain.unnamed = q.plain.unnamed
      rw [hpq]
    · obtain ⟨e, he, hrefers⟩ := hmember hm
      have hfields : p.bare = (substituteProperty env.naming owner ownerName head m).unnamed := by
        rw [hbare, ← hpm]
        rfl
      refine .inr ⟨e, ?_, ?_, ?_⟩
      · change env.index.element? p.bare.schemaName = _
        rw [hfields]
        exact he
      · change p.bare.isAttribute = _
        rw [hfields]
        rfl
      · change Refers _ _ p.bare.type
        rw [hfields]
        exact hrefers
  · obtain ⟨p', hp', -, hsub⟩ := finished_arises hp
    rw [hsub] at hm
    rcases hattached.substitutes id p' hp' m hm with ⟨q, hq, hm⟩ | hm
    · obtain ⟨_, -, -, ha⟩ := hr.arises id q hq
      rw [ha.substitutes] at hm
      cases hm
    · exact hmember hm
  · obtain ⟨type, htype, hcomplex, hsimple⟩ := (hf r hrec).base d derivation hd hb hx
    refine ⟨type, htype, fun hk => ?_, fun hk hnone => ?_⟩
    · obtain ⟨b, hbase, hdenotes⟩ := hcomplex hk
      obtain ⟨_, ⟨⟩, hnode⟩ := hdenotes.isTypeNode hset hix hs
      exact ⟨b, by rw [hshares.base?, hbase], hnode⟩
    · obtain ⟨v, htext, hdenotes⟩ := hsimple hk hnone
      obtain ⟨b, rfl, hnode⟩ := hdenotes.isTypeNode hset hix hs
      exact ⟨b, by rw [hshares.text?, htext], hnode⟩
  · obtain ⟨v, htext, hw, -⟩ := (hf r hrec).text d content hd hc
    exact ⟨v, by rw [hshares.text?, htext], hw.refers hset hix hs⟩

end

/-- Every global type has one node, of the kind that its first declaration says, and everything
that is written as a reference to the type leads to that node. -/
theorem one_node_for_each_type {set : SchemaSet} {options : Options} {naming : Naming}
    {resolver : Resolver} (hset : set.namesTypes = true)
    (h : run (.ofSet set options naming) resolver = .ok s) :
    let env := Environment.ofSet set options naming
    let g := s.finished env
    (∀ n doc t, (Index.declaredTypes set).find? (fun x => x.2.name = some n) = some (doc, t) →
      ∃ id node, g.node? id = some node ∧ node.identity = n ∧ HasKind env n doc node.kind.label t ∧
        ∀ j, g.IsTypeNode n j ↔ j = id) ∧
    Resolves env s g := by
  intro env g
  have hs : Identified env s := run_identified hset rfl h
  have hix : env.index.Lawful := Index.lawful_ofSet set
  refine ⟨fun n doc t hfirst => ?_,
    finished_resolves hset rfl hs (run_recorded hix h) fun r hr => run_faithful hix h hr⟩
  rw [← Index.type?_ofSet, Option.map_eq_some_iff] at hfirst
  obtain ⟨type, hg, he⟩ := hfirst
  cases he
  obtain ⟨id, hk⟩ := (run_ok hix h).2 n type hg (isEmpty_of_type? hset hg)
  obtain ⟨node, hnode, hi, hkind, hall⟩ := hs.exists_node hset rfl hg hk
  exact ⟨id, node, hnode, hi, hkind, hall⟩

theorem one_node_for_each_type_recursive : (recursiveBase .extension).namesTypes = true ∧
    let env := Environment.ofSet (recursiveBase .extension) {} .conventional
    ∃ s, run env oneNamespace = .ok s ∧
      let g := s.finished env
      (∀ n doc t, (Index.declaredTypes (recursiveBase .extension)).find?
          (fun x => x.2.name = some n) = some (doc, t) →
        ∃ id node, g.node? id = some node ∧ node.identity = n ∧
          HasKind env n doc node.kind.label t ∧ ∀ j, g.IsTypeNode n j ↔ j = id) ∧
      Resolves env s g := by
  have hset : (recursiveBase .extension).namesTypes = true := by decide
  obtain ⟨s, h, -⟩ := exists_of_any
    (x := run (.ofSet (recursiveBase .extension) {} .conventional) oneNamespace)
    (p := fun _ => true) (by decide +kernel)
  exact ⟨hset, s, h, one_node_for_each_type hset h⟩

end Build

end XmlTypes
