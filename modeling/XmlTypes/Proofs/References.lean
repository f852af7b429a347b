import Mathlib.Logic.Relation
import XmlTypes.Proofs.Classifying
/-!
# References that resolve

A reference is to a built-in type, or to a global declaration. Where all references of a schema
resolve, simple types are made from simple types, and none is made from itself, the index of the
schema is whole (`SchemaSet.whole`): whatever it is asked for by a declaration, it has. Then a
simple type is classified, as far as the fuel lasts (`classify_error`).
-/

namespace XmlTypes

open Schema

/-- A simple type is made from itself. -/
def Failure.isCircular : Failure → Bool
  | .build .circularDerivation _ _ => true
  | _ => false

namespace Schema

/-! ## References -/

/-- Whether the name is that of a built-in type, or of a global type. -/
def Index.hasType (ix : Index) (name : QName) : Bool :=
  if name.isXsd then isBuiltin name else (ix.type? name).isSome

/-- Whether the name is that of a built-in type, or of a global simple type. -/
def Index.hasSimpleType (ix : Index) (name : QName) : Bool :=
  if name.isXsd then isBuiltin name else (ix.type? name).any (!·.definition.isComplex)

theorem builtin_of_name {name : QName} (hname : name.isXsd = true)
    (h : isBuiltin name = true) : ∃ p, Primitive.ofBuiltin? name.name = some p := by
  rw [isBuiltin, hname, Bool.true_and] at h
  exact Option.isSome_iff_exists.1 h

section
variable {ix : Index} {name : QName}

theorem Index.builtin_of_hasType (h : ix.hasType name = true) (hname : name.isXsd = true) :
    ∃ p, Primitive.ofBuiltin? name.name = some p := by
  rw [Index.hasType, if_pos hname] at h
  exact builtin_of_name hname h

theorem Index.type_of_hasType (h : ix.hasType name = true) (hname : name.isXsd = false) :
    ∃ g, ix.type? name = some g := by
  rw [Index.hasType, hname, if_neg Bool.false_ne_true] at h
  exact Option.isSome_iff_exists.1 h

theorem Index.builtin_of_hasSimpleType (h : ix.hasSimpleType name = true)
    (hname : name.isXsd = true) : ∃ p, Primitive.ofBuiltin? name.name = some p := by
  rw [Index.hasSimpleType, if_pos hname] at h
  exact builtin_of_name hname h

theorem Index.type_of_hasSimpleType (h : ix.hasSimpleType name = true)
    (hname : name.isXsd = false) : (ix.type? name).any (!·.definition.isComplex) = true := by
  rwa [Index.hasSimpleType, hname, if_neg Bool.false_ne_true] at h

end

mutual

/-- Whether a type reference and the references in a type given in place resolve. -/
def TypeRef.resolves (ix : Index) : TypeRef → Bool
  | .named name => ix.hasType name
  | .inline definition => definition.resolves ix

/-- Whether the references of a type reference resolve, if there is one. -/
def TypeRef.resolves? (ix : Index) : Option TypeRef → Bool
  | none => true
  | some r => r.resolves ix

/-- Whether a type reference resolves to a simple type. -/
def TypeRef.resolvesSimple (ix : Index) : TypeRef → Bool
  | .named name => ix.hasSimpleType name
  | .inline definition => definition.resolvesSimple ix

/-- Whether type references resolve to simple types. -/
def TypeRef.allResolveSimple (ix : Index) : List TypeRef → Bool
  | [] => true
  | r :: rs => r.resolvesSimple ix && TypeRef.allResolveSimple ix rs

/-- Whether the references of a type resolve. -/
def TypeDefinition.resolves (ix : Index) : TypeDefinition → Bool
  | .complex type => type.resolves ix
  | .simple type => type.resolves ix

/-- Whether a type is simple and its references resolve. -/
def TypeDefinition.resolvesSimple (ix : Index) : TypeDefinition → Bool
  | .complex _ => false
  | .simple type => type.resolves ix

/-- Whether the references of a complex type resolve. -/
def ComplexType.resolves (ix : Index) : ComplexType → Bool
  | ⟨_, _, _, _, derivation, particle, attributes, _, simpleContent⟩ =>
    derivation.all (ix.hasType ·.base) && Particle.resolves? ix particle
      && AttributeItem.allResolve ix attributes && TypeRef.resolves? ix simpleContent

/-- Whether the references of an entry of an attribute list resolve. -/
def AttributeItem.resolves (ix : Index) : AttributeItem → Bool
  | .attribute declaration => declaration.resolves ix
  | .ref name => (ix.attribute? name).isSome
  | .group name => (ix.attributeGroup? name).isSome

/-- Whether the references of the entries of an attribute list resolve. -/
def AttributeItem.allResolve (ix : Index) : List AttributeItem → Bool
  | [] => true
  | i :: is => i.resolves ix && AttributeItem.allResolve ix is

/-- Whether the references of an attribute declaration resolve. -/
def AttributeDecl.resolves (ix : Index) : AttributeDecl → Bool
  | ⟨_, typeRef, _, _, _, _, _⟩ => TypeRef.resolves? ix typeRef

/-- Whether the references of an element declaration resolve. The head of its substitution group
need not be declared. -/
def ElementDecl.resolves (ix : Index) : ElementDecl → Bool
  | ⟨_, typeRef, _, _, _, _, _, _, _⟩ => TypeRef.resolves? ix typeRef

/-- Whether the references of a particle resolve. -/
def Particle.resolves (ix : Index) : Particle → Bool
  | ⟨term, _⟩ => term.resolves ix

/-- Whether the references of particles resolve. -/
def Particle.allResolve (ix : Index) : List Particle → Bool
  | [] => true
  | p :: ps => p.resolves ix && Particle.allResolve ix ps

/-- Whether the references of a particle resolve, if there is one. -/
def Particle.resolves? (ix : Index) : Option Particle → Bool
  | none => true
  | some p => p.resolves ix

/-- Whether the references of a term resolve. -/
def Term.resolves (ix : Index) : Term → Bool
  | .element declaration => declaration.resolves ix
  | .elementRef name => (ix.element? name).isSome
  | .any _ => true
  | .groupRef name => (ix.group? name).isSome
  | .group group => group.resolves ix

/-- Whether the references of a model group resolve. -/
def ModelGroup.resolves (ix : Index) : ModelGroup → Bool
  | ⟨_, particles⟩ => Particle.allResolve ix particles

/-- Whether a simple type is made from simple types that resolve. -/
def SimpleType.resolves (ix : Index) : SimpleType → Bool
  | ⟨_, _, content⟩ => content.resolves ix

/-- Whether what a simple type is made from resolves to simple types. -/
def SimpleContent.resolves (ix : Index) : SimpleContent → Bool
  | .restriction base _ => base.resolvesSimple ix
  | .list item => item.resolvesSimple ix
  | .union members => TypeRef.allResolveSimple ix members

end

/-- Whether the references of the global declarations of a document resolve. -/
def Document.resolves (ix : Index) (d : Document) : Bool :=
  d.types.all (·.resolves ix) && d.elements.all (·.resolves ix)
    && d.groups.all (·.group.resolves ix)
    && d.attributeGroups.all (AttributeItem.allResolve ix ·.attributes)
    && d.attributes.all (·.resolves ix)

/-- Whether every reference of the schema resolves: a name in the namespace of XML Schema to a
built-in type, any other to a global declaration, and what a simple type is made from to a simple
type. -/
def SchemaSet.resolves (s : SchemaSet) : Bool := s.documents.all (·.resolves (.ofSet s))

/-! ## Parts -/

section
variable {ix : Index}

theorem ComplexType.resolves_iff (t : ComplexType) : t.resolves ix = true ↔
    (∀ d, t.derivation = some d → ix.hasType d.base = true) ∧
      (∀ p, t.particle = some p → p.resolves ix = true) ∧
      AttributeItem.allResolve ix t.attributes = true ∧
      ∀ r, t.simpleContent = some r → r.resolves ix = true := by
  obtain ⟨_, _, _, _, derivation, particle, attributes, _, simpleContent⟩ := t
  cases derivation <;> cases particle <;> cases simpleContent <;>
    simp [ComplexType.resolves, Particle.resolves?, TypeRef.resolves?, and_assoc]

theorem AttributeDecl.typeRef_resolves {a : AttributeDecl} {r : TypeRef}
    (h : a.resolves ix = true) (hr : a.typeRef = some r) : r.resolves ix = true := by
  cases a
  subst hr
  exact h

theorem ElementDecl.typeRef_resolves {e : ElementDecl} {r : TypeRef}
    (h : e.resolves ix = true) (hr : e.typeRef = some r) : r.resolves ix = true := by
  cases e
  subst hr
  exact h

theorem Particle.term_resolves {p : Particle} (h : p.resolves ix = true) :
    p.term.resolves ix = true := by
  cases p
  exact h

theorem Particle.allResolve_iff {ps : List Particle} :
    Particle.allResolve ix ps = true ↔ ∀ p ∈ ps, p.resolves ix = true := by
  induction ps with
  | nil => simp [Particle.allResolve]
  | cons p ps ih => simp [Particle.allResolve, ih]

theorem AttributeItem.allResolve_iff {is : List AttributeItem} :
    AttributeItem.allResolve ix is = true ↔ ∀ i ∈ is, i.resolves ix = true := by
  induction is with
  | nil => simp [AttributeItem.allResolve]
  | cons i is ih => simp [AttributeItem.allResolve, ih]

theorem TypeRef.allResolveSimple_iff {rs : List TypeRef} :
    TypeRef.allResolveSimple ix rs = true ↔ ∀ r ∈ rs, r.resolvesSimple ix = true := by
  induction rs with
  | nil => simp [TypeRef.allResolveSimple]
  | cons r rs ih => simp [TypeRef.allResolveSimple, ih]

theorem ModelGroup.particle_resolves {g : ModelGroup} {p : Particle} (h : g.resolves ix = true)
    (hp : p ∈ g.particles) : p.resolves ix = true := by
  cases g
  exact Particle.allResolve_iff.1 h p hp

theorem SimpleContent.part_resolves {c : SimpleContent} {r : TypeRef}
    (h : c.resolves ix = true) (hr : r ∈ c.parts) : r.resolvesSimple ix = true := by
  cases c with
  | restriction base facets => exact List.mem_singleton.1 hr ▸ h
  | list item => exact List.mem_singleton.1 hr ▸ h
  | union members => exact TypeRef.allResolveSimple_iff.1 h r hr

theorem SimpleType.content_resolves {t : SimpleType} (h : t.resolves ix = true) :
    t.content.resolves ix = true := by
  cases t
  exact h

end

/-! ## Derivations of simple types -/

mutual

/-- The names of the types that a type reference makes a simple type from. -/
def TypeRef.sources : TypeRef → List QName
  | .named name => [name]
  | .inline definition => definition.sources

/-- The names of the types that type references make a simple type from. -/
def TypeRef.allSources : List TypeRef → List QName
  | [] => []
  | r :: rs => r.sources ++ TypeRef.allSources rs

/-- The names of the types that a type is made from if it is simple. -/
def TypeDefinition.sources : TypeDefinition → List QName
  | .complex _ => []
  | .simple type => type.sources

/-- The names of the types that a simple type is made from. -/
def SimpleType.sources : SimpleType → List QName
  | ⟨_, _, content⟩ => content.sources

/-- The names of the types in the making of a simple type. -/
def SimpleContent.sources : SimpleContent → List QName
  | .restriction base _ => base.sources
  | .list item => item.sources
  | .union members => TypeRef.allSources members

end

theorem SimpleContent.mem_sources {c : SimpleContent} {r : TypeRef} {n : QName} (hr : r ∈ c.parts)
    (hn : n ∈ r.sources) : n ∈ c.sources := by
  cases c with
  | restriction base facets => exact List.mem_singleton.1 hr ▸ hn
  | list item => exact List.mem_singleton.1 hr ▸ hn
  | union members =>
    change n ∈ TypeRef.allSources members
    change r ∈ members at hr
    induction members with
    | nil => cases hr
    | cons q members ih =>
      rw [TypeRef.allSources, List.mem_append]
      rcases List.mem_cons.1 hr with rfl | hr
      · exact .inl hn
      · exact .inr (ih hr)

theorem SimpleType.mem_sources {t : SimpleType} {r : TypeRef} {n : QName} (hr : r ∈ t.content.parts)
    (hn : n ∈ r.sources) : n ∈ t.sources := by
  cases t
  exact SimpleContent.mem_sources hr hn

/-- The global type of the first name is made from a type of the second, which is not built in. -/
def Index.DerivesFrom (ix : Index) (n m : QName) : Prop :=
  m.isXsd = false ∧ ∃ g, ix.type? n = some g ∧ m ∈ g.definition.sources

/-- No simple type is made from itself. -/
def Index.Acyclic (ix : Index) : Prop := ∀ n, ¬ Relation.TransGen ix.DerivesFrom n n

/-- Where each type is made only from types of lower rank, none is made from itself. -/
theorem SchemaSet.acyclic_of_rank {set : SchemaSet} (rank : QName → Nat)
    (h : (set.documents.all fun d => d.types.all fun t => t.name.all fun n =>
      t.sources.all fun m => m.isXsd || rank m < rank n) = true) : (Index.ofSet set).Acyclic := by
  have hstep (n m : QName) (hnm : (Index.ofSet set).DerivesFrom n m) : rank m < rank n := by
    obtain ⟨hm, g, hg, hsource⟩ := hnm
    obtain ⟨hdoc, hdef⟩ := Index.mem_of_found hg
    have hall := List.all_eq_true.1 (List.all_eq_true.1 h _ hdoc) _ hdef
    rw [(Index.lawful_ofSet set).types n g hg, Option.all_some, List.all_eq_true] at hall
    simpa [hm] using hall m hsource
  have hpath (n m : QName) (hnm : Relation.TransGen (Index.ofSet set).DerivesFrom n m) :
      rank m < rank n := by
    induction hnm with
    | single hnm => exact hstep _ _ hnm
    | tail _ hmk ih => exact Nat.lt_trans (hstep _ _ hmk) ih
  exact fun n hn => Nat.lt_irrefl _ (hpath n n hn)

/-! ## Reaching types -/

/-- The reference leads, through what simple types are made from, to the name, which is not built
in. -/
def Index.Reaches (ix : Index) (r : TypeRef) (n : QName) : Prop :=
  ∃ m ∈ r.sources, m.isXsd = false ∧ Relation.ReflTransGen ix.DerivesFrom m n

/-- The reference leads to a type that is made from itself. -/
def Index.Cyclic (ix : Index) (r : TypeRef) : Prop :=
  ∃ n, ix.Reaches r n ∧ Relation.TransGen ix.DerivesFrom n n

/-- The reference resolves to a simple type, and so does every reference that it leads to. -/
structure Index.ResolvesFrom (ix : Index) (r : TypeRef) : Prop where
  resolves : r.resolvesSimple ix = true
  reached : ∀ n g, ix.Reaches r n → ix.type? n = some g → g.definition.resolvesSimple ix = true

section
variable {ix : Index} {t : SimpleType} {name n : QName} {g : Global TypeDefinition}

theorem SimpleContent.of_mem_sources {c : SimpleContent} (h : n ∈ c.sources) :
    ∃ r ∈ c.parts, n ∈ r.sources := by
  cases c with
  | restriction base facets => exact ⟨base, List.mem_singleton.2 rfl, h⟩
  | list item => exact ⟨item, List.mem_singleton.2 rfl, h⟩
  | union members =>
    change n ∈ TypeRef.allSources members at h
    change ∃ r ∈ members, n ∈ r.sources
    induction members with
    | nil => cases h
    | cons r members ih =>
      rw [TypeRef.allSources, List.mem_append] at h
      rcases h with h | h
      · exact ⟨r, List.mem_cons_self, h⟩
      · obtain ⟨q, hq, hn⟩ := ih h
        exact ⟨q, List.mem_cons_of_mem r hq, hn⟩

/-- A simple type leads where its parts lead. -/
theorem Index.reaches_inline_iff : ix.Reaches (.inline (.simple t)) n ↔
    ∃ r ∈ t.content.parts, ix.Reaches r n := by
  constructor
  · rintro ⟨m, hm, hx, hpath⟩
    have hsource : m ∈ t.content.sources := by
      cases t
      exact hm
    obtain ⟨r, hr, hm⟩ := SimpleContent.of_mem_sources hsource
    exact ⟨r, hr, m, hm, hx, hpath⟩
  · rintro ⟨r, hr, m, hm, hx, hpath⟩
    exact ⟨m, SimpleType.mem_sources hr hm, hx, hpath⟩

/-- From a declared type one comes to what its definition leads to. -/
theorem Index.transGen_iff_reaches (hg : ix.type? name = some g) (ht : g.definition = .simple t) :
    Relation.TransGen ix.DerivesFrom name n ↔ ix.Reaches (.inline (.simple t)) n := by
  rw [Relation.TransGen.head'_iff]
  constructor
  · rintro ⟨m, ⟨hx, g', hg', hm⟩, hpath⟩
    obtain rfl := Option.some.inj (hg.symm.trans hg')
    rw [ht] at hm
    exact ⟨m, hm, hx, hpath⟩
  · rintro ⟨m, hm, hx, hpath⟩
    exact ⟨m, ⟨hx, g, hg, ht ▸ hm⟩, hpath⟩

/-- The name of a declared type leads to the type, and where its definition leads. -/
theorem Index.reaches_named_iff (hx : name.isXsd = false) (hg : ix.type? name = some g)
    (ht : g.definition = .simple t) :
    ix.Reaches (.named name) n ↔ n = name ∨ ix.Reaches (.inline (.simple t)) n := by
  rw [← Index.transGen_iff_reaches hg ht, ← Relation.reflTransGen_iff_eq_or_transGen]
  constructor
  · rintro ⟨m, hm, -, hpath⟩
    rwa [List.mem_singleton.1 hm] at hpath
  · exact fun hpath => ⟨name, List.mem_singleton.2 rfl, hx, hpath⟩

theorem Index.ResolvesFrom.part (h : ix.ResolvesFrom (.inline (.simple t))) {r : TypeRef}
    (hr : r ∈ t.content.parts) : ix.ResolvesFrom r where
  resolves := SimpleContent.part_resolves (SimpleType.content_resolves h.resolves) hr
  reached n g hn hg := h.reached n g (Index.reaches_inline_iff.2 ⟨r, hr, hn⟩) hg

theorem Index.ResolvesFrom.declared (h : ix.ResolvesFrom (.named name)) (hx : name.isXsd = false)
    (hg : ix.type? name = some g) (ht : g.definition = .simple t) :
    ix.ResolvesFrom (.inline (.simple t)) where
  resolves := by
    have hdef := h.reached name g ((Index.reaches_named_iff hx hg ht).2 (.inl rfl)) hg
    rwa [ht] at hdef
  reached m g' hm hg' := h.reached m g' ((Index.reaches_named_iff hx hg ht).2 (.inr hm)) hg'

/-- What a reference to a simple type is made from are simple types. -/
theorem TypeRef.hasSimpleType_of_mem_sources {r : TypeRef} (hr : r.resolvesSimple ix = true)
    (hn : n ∈ r.sources) : ix.hasSimpleType n = true := by
  -- A type given in place has parts that nest less deep.
  induction hd : r.depth using Nat.strong_induction_on generalizing r with
  | _ depth ih =>
    cases r with
    | named name => exact List.mem_singleton.1 hn ▸ hr
    | inline type =>
      cases type with
      | complex type => cases hr
      | simple t =>
        have hsource : n ∈ t.content.sources := by
          cases t
          exact hn
        obtain ⟨q, hq, hn⟩ := SimpleContent.of_mem_sources hsource
        have hresolves := SimpleContent.part_resolves (SimpleType.content_resolves hr) hq
        refine ih q.depth ?_ hresolves hn rfl
        have hlt := SimpleContent.part_depth_lt hq
        change t.depth + 1 + 1 = depth at hd
        rw [t.depth_eq] at hd
        omega

theorem TypeDefinition.resolvesSimple_of_resolves {d : TypeDefinition}
    (h : d.resolves ix = true) (hsimple : d.isComplex = false) : d.resolvesSimple ix = true := by
  cases d with
  | complex type => cases hsimple
  | simple type => exact h

/-- Where the references of all types resolve, a reference to a simple type leads to simple types
only. -/
theorem Index.resolvesFrom_of_types
    (htypes : ∀ n g, ix.type? n = some g → g.definition.resolves ix = true) {r : TypeRef}
    (hr : r.resolvesSimple ix = true) : ix.ResolvesFrom r := by
  have hdefinition (n : QName) (g : Global TypeDefinition) (hx : n.isXsd = false)
      (hn : ix.hasSimpleType n = true) (hg : ix.type? n = some g) :
      g.definition.resolvesSimple ix = true := by
    have hsimple := Index.type_of_hasSimpleType hn hx
    rw [hg, Option.any_some, Bool.not_eq_true'] at hsimple
    exact TypeDefinition.resolvesSimple_of_resolves (htypes n g hg) hsimple
  refine ⟨hr, ?_⟩
  rintro n g ⟨m, hm, hx, hpath⟩ hg
  -- Every type on the way is simple.
  have hreached : n.isXsd = false ∧ ix.hasSimpleType n = true := by
    clear hg
    induction hpath with
    | refl => exact ⟨hx, TypeRef.hasSimpleType_of_mem_sources hr hm⟩
    | tail _ hstep ih =>
      obtain ⟨hx', g', hg', hsource⟩ := hstep
      exact ⟨hx', TypeRef.hasSimpleType_of_mem_sources
        (r := .inline g'.definition) (hdefinition _ g' ih.1 ih.2 hg') hsource⟩
  exact hdefinition n g hreached.1 hreached.2 hg

end

/-! ## Schemas -/

/-- Whatever the declarations of the schema refer to is there, under its name, in turn with all that
it refers to. -/
structure Index.Whole (ix : Index) : Prop where
  lawful : ix.Lawful
  types : ∀ n g, ix.type? n = some g →
    g.document ∈ ix.documents ∧ g.definition.resolves ix = true
  elements : ∀ n g, ix.element? n = some g →
    g.document ∈ ix.documents ∧ g.definition.resolves ix = true
  groups : ∀ n g, ix.group? n = some g →
    g.document ∈ ix.documents ∧ g.definition.group.resolves ix = true
  attributeGroups : ∀ n g, ix.attributeGroup? n = some g →
    g.document ∈ ix.documents ∧ AttributeItem.allResolve ix g.definition.attributes = true
  attributes : ∀ n g, ix.attribute? n = some g →
    g.document ∈ ix.documents ∧ g.definition.resolves ix = true
  acyclic : ix.Acyclic
  locations : ∀ d ∈ ix.documents, (ix.document? d.location).isSome = true

/-- Where a document of the schema comes from, a document is found. -/
theorem Index.document?_isSome {set : SchemaSet} {d : Document} (hd : d ∈ set.documents) :
    ((ofSet set).document? d.location).isSome = true := by
  obtain ⟨i, hi⟩ := List.mem_iff_getElem?.1 hd
  obtain ⟨k, hk⟩ : ∃ k, (ofSet set).locations.get? d.location = some k :=
    Table.exists_get?_ofEntries
      (List.mem_map.2 ⟨(d, i), List.mk_mem_zipIdx_iff_getElem?.2 hi, rfl⟩)
  obtain ⟨⟨doc, j⟩, hj, he⟩ := List.mem_map.1 (Table.mem_of_get?_ofEntries hk)
  obtain rfl : j = k := congrArg Prod.snd he
  rw [Index.document?, hk, Option.bind_some]
  exact Option.isSome_iff_exists.2 ⟨doc, List.mk_mem_zipIdx_iff_getElem?.1 hj⟩

theorem SchemaSet.type_resolves {set : SchemaSet} (hset : set.resolves = true) {n : QName}
    {g : Global TypeDefinition} (hg : (Index.ofSet set).type? n = some g) :
    g.definition.resolves (.ofSet set) = true := by
  simp only [SchemaSet.resolves, Document.resolves, List.all_eq_true, Bool.and_eq_true] at hset
  obtain ⟨hdoc, hdef⟩ := Index.mem_of_found hg
  exact (hset _ hdoc).1.1.1.1 _ hdef

/-- In a schema all of whose references resolve, a simple type leads to simple types only. -/
theorem SchemaSet.resolvesFrom {set : SchemaSet} (hset : set.resolves = true) {t : SimpleType}
    (ht : t.resolves (.ofSet set) = true) :
    (Index.ofSet set).ResolvesFrom (.inline (.simple t)) :=
  Index.resolvesFrom_of_types (fun _ _ hg => SchemaSet.type_resolves hset hg) ht

theorem SchemaSet.whole {set : SchemaSet} (hresolves : set.resolves = true)
    (hacyclic : (Index.ofSet set).Acyclic) : (Index.ofSet set).Whole := by
  have htypes {n : QName} {g : Global TypeDefinition} := SchemaSet.type_resolves (n := n) (g := g)
    hresolves
  simp only [SchemaSet.resolves, Document.resolves, List.all_eq_true, Bool.and_eq_true]
    at hresolves
  constructor
  case lawful => exact Index.lawful_ofSet set
  case types =>
    intro n g h
    exact ⟨(Index.mem_of_found h).1, htypes h⟩
  case elements =>
    intro n g h
    obtain ⟨hdoc, hdef⟩ := Index.mem_of_found h
    exact ⟨hdoc, (hresolves _ hdoc).1.1.1.2 _ hdef⟩
  case groups =>
    intro n g h
    obtain ⟨hdoc, hdef⟩ := Index.mem_of_found h
    exact ⟨hdoc, (hresolves _ hdoc).1.1.2 _ hdef⟩
  case attributeGroups =>
    intro n g h
    obtain ⟨hdoc, hdef⟩ := Index.mem_of_found h
    exact ⟨hdoc, (hresolves _ hdoc).1.2 _ hdef⟩
  case attributes =>
    intro n g h
    obtain ⟨hdoc, hdef⟩ := Index.mem_of_found h
    exact ⟨hdoc, (hresolves _ hdoc).2 _ hdef⟩
  case acyclic => exact hacyclic
  case locations => exact fun d hd => Index.document?_isSome hd

end Schema

namespace Build

/-! ## Classification -/

/-- Where what a reference leads to resolves, its classification fails only if there is not enough
fuel, or if the reference leads to a type that is being visited or is made from itself. -/
theorem classifyRef_error {ix : Index} {o : Options} :
    ∀ (fuel : Nat) (document : Document) (visiting : List QName) (r : TypeRef) (e : Failure),
      ix.ResolvesFrom r → classifyRef ix o fuel document visiting r = .error e →
      e.isBottomless = true ∨ e.isCircular = true ∧ ∃ n, ix.Reaches r n ∧
        (n ∈ visiting ∨ Relation.TransGen ix.DerivesFrom n n) := by
  intro fuel
  induction fuel with
  | zero =>
    intro document visiting r e _ h
    cases h
    exact .inl rfl
  | succ fuel ih =>
    intro document visiting r e hr h
    unfold classifyRef at h
    cases r with
    | inline type =>
      cases type with
      | complex t => cases hr.resolves
      | simple t =>
        obtain ⟨q, hq, he⟩ := classifyContent_error h
        refine (ih _ _ q e (hr.part hq) he).imp_right (And.imp_right ?_)
        rintro ⟨n, hn, hcase⟩
        exact ⟨n, Index.reaches_inline_iff.2 ⟨q, hq, hn⟩, hcase⟩
    | named name =>
      have hsimple : ix.hasSimpleType name = true := hr.resolves
      dsimp only at h
      cases hx : name.isXsd with
      | true =>
        obtain ⟨p, hp⟩ := Index.builtin_of_hasSimpleType hsimple hx
        rw [if_pos hx, hp] at h
        cases h
      | false =>
        have hdeclared := Index.type_of_hasSimpleType hsimple hx
        rw [hx, if_neg Bool.false_ne_true] at h
        split at h
        · rename_i hg
          rw [hg] at hdeclared
          cases hdeclared
        · rename_i hg
          rw [hg] at hdeclared
          cases hdeclared
        · rename_i t home slot hg
          have hnamed {n : QName} := Index.reaches_named_iff (n := n) hx hg rfl
          split at h
          · rename_i hn
            cases h
            exact .inr ⟨rfl, name, hnamed.2 (.inl rfl), .inl (by simpa using hn)⟩
          · obtain ⟨q, hq, he⟩ := classifyContent_error h
            refine (ih _ _ q e ((hr.declared hx hg rfl).part hq) he).imp_right (And.imp_right ?_)
            rintro ⟨n, hn, hcase⟩
            have hreached : ix.Reaches (.inline (.simple t)) n :=
              Index.reaches_inline_iff.2 ⟨q, hq, hn⟩
            refine ⟨n, hnamed.2 (.inr hreached), ?_⟩
            -- A name that is visited from here on is reached from its own definition.
            rw [List.mem_append, List.mem_singleton] at hcase
            rcases hcase with (hv | rfl) | hcycle
            · exact .inl hv
            · exact .inr ((Index.transGen_iff_reaches hg rfl).2 hreached)
            · exact .inr hcycle

/-- A simple type is classified while the types that it may be made from are being visited. -/
theorem classify_error {env : Environment} (hix : env.index.Whole) {document : Document}
    {visiting : List QName} {t : SimpleType} {e : Failure} (ht : t.resolves env.index = true)
    (hvisiting : ∀ v ∈ visiting, ∀ n ∈ t.sources, n.isXsd = false → env.index.DerivesFrom v n)
    (h : classify env document visiting t = .error e) : e.isBottomless = true := by
  have hfrom : env.index.ResolvesFrom (.inline (.simple t)) :=
    Index.resolvesFrom_of_types (fun n g hg => (hix.types n g hg).2) ht
  obtain ⟨r, hr, he⟩ := classifyContent_error h
  rcases classifyRef_error _ _ _ r e (hfrom.part hr) he with hdeep | ⟨-, n, hn, hv | hcycle⟩
  · exact hdeep
  · obtain ⟨m, hm, hx, hpath⟩ := hn
    have hstep := hvisiting n hv m (SimpleType.mem_sources hr hm) hx
    exact absurd (Relation.TransGen.head' hstep hpath) (hix.acyclic n)
  · exact absurd hcycle (hix.acyclic n)

end Build

end XmlTypes
