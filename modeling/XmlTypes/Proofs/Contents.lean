import XmlTypes.Build.Members
import XmlTypes.Proofs.Declarations
/-!
# What a definition contains

The members of a content model and of an attribute list: the declarations that a walk along them
meets, where a reference to a group leads into the group unless the walk is in it already. And what
belongs to a schema at all: the global declarations and, step by step, their parts.
-/

namespace XmlTypes.Build

open Schema

/-- A declaration that gives a class or an interface a property: an element or an attribute, and
whether it is referred to or given in place. -/
inductive Member
  | element (d : Declared ElementDecl) (isReference : Bool)
  | attribute (d : Declared AttributeDecl) (isReference : Bool)

namespace Member

/-- The name of the element or attribute. -/
def name : Member → QName
  | .element d _ => d.definition.name
  | .attribute d _ => d.definition.name

/-- Whether the member is an attribute. -/
def isAttribute : Member → Bool
  | .element .. => false
  | .attribute .. => true

/-- The name of the property, first chosen, in an owner of the given name. -/
def propertyName (naming : Naming) (ownerName : String) : Member → String
  | .element d _ => naming.elementProperty d.definition.name ownerName
  | .attribute d _ => naming.attributeProperty d.definition.name ownerName

/-- What a restriction knows a member by. -/
def key (m : Member) : QName × Bool := (m.name, m.isAttribute)

end Member

/-! ## Walks along a definition -/

/-- The bounds inside a model group. -/
def innerBounds (compositor : Compositor) (occurs : Occurs) : Occurs :=
  if compositor = .choice then { occurs with min := 0 } else occurs

mutual

/-- The members of a particle within the bounds around it, where the groups in `opened` are not
entered. A particle that never occurs has none. -/
inductive InParticle (ix : Index) : (opened : List QName) → Declared Particle → (outer : Occurs) →
    Member → Prop
  | inPlace {opened d outer e} : (d.definition.occurs.within outer).isEmpty = false →
      d.definition.term = .element e → InParticle ix opened d outer (.element (d.inPlace e) false)
  | reference {opened d outer name g} : (d.definition.occurs.within outer).isEmpty = false →
      d.definition.term = .elementRef name → ix.element? name = some g →
      InParticle ix opened d outer (.element (.ofGlobal .elements g) true)
  | group {opened d outer g m} : (d.definition.occurs.within outer).isEmpty = false →
      d.definition.term = .group g →
      InGroup ix opened (d.inPlace g) (d.definition.occurs.within outer) m →
      InParticle ix opened d outer m
  | groupReference {opened d outer name g m} :
      (d.definition.occurs.within outer).isEmpty = false →
      d.definition.term = .groupRef name → name ∉ opened → ix.group? name = some g →
      InGroup ix (opened ++ [name]) ((Declared.ofGlobal .groups g).inPlace g.definition.group)
        (d.definition.occurs.within outer) m →
      InParticle ix opened d outer m

/-- The members of a model group within bounds. -/
inductive InGroup (ix : Index) : (opened : List QName) → Declared ModelGroup → Occurs →
    Member → Prop
  | particle {opened d occurs i p m} : d.definition.particles[i]? = some p →
      InParticle ix opened (d.part (.particle i) p)
        (innerBounds d.definition.compositor occurs) m →
      InGroup ix opened d occurs m

end

mutual

/-- The attributes that an entry of an attribute list stands for, prohibited ones excepted. -/
inductive InEntry (ix : Index) : (opened : List QName) → Declared AttributeItem → Member → Prop
  | inPlace {opened d a} : d.definition = .attribute a → a.use ≠ .prohibited →
      InEntry ix opened d (.attribute (d.inPlace a) false)
  | reference {opened d name g} : d.definition = .ref name → ix.attribute? name = some g →
      g.definition.use ≠ .prohibited →
      InEntry ix opened d (.attribute (.ofGlobal .attributes g) true)
  | groupReference {opened d name g m} : d.definition = .group name → name ∉ opened →
      ix.attributeGroup? name = some g →
      InEntries ix (opened ++ [name])
        ((Declared.ofGlobal .attributeGroups g).inPlace g.definition.attributes) m →
      InEntry ix opened d m

/-- The attributes of an attribute list. -/
inductive InEntries (ix : Index) : (opened : List QName) → Declared (List AttributeItem) →
    Member → Prop
  | entry {opened d i item m} : d.definition[i]? = some item →
      InEntry ix opened (d.part (.attribute i) item) m → InEntries ix opened d m

end

section
variable {ix : Index} {opened : List QName} {m : Member}

/-- The members of a particle are those of its term. -/
theorem inParticle_iff {d : Declared Particle} {outer : Occurs} :
    InParticle ix opened d outer m ↔ (d.definition.occurs.within outer).isEmpty = false ∧
      match d.definition.term with
      | .element e => m = .element (d.inPlace e) false
      | .elementRef name => ∃ g, ix.element? name = some g ∧
        m = .element (.ofGlobal .elements g) true
      | .any _ => False
      | .groupRef name => ∃ g, name ∉ opened ∧ ix.group? name = some g ∧
        InGroup ix (opened ++ [name]) ((Declared.ofGlobal .groups g).inPlace g.definition.group)
          (d.definition.occurs.within outer) m
      | .group g => InGroup ix opened (d.inPlace g) (d.definition.occurs.within outer) m := by
  constructor
  · intro h
    cases h with
    | inPlace he ht => simp [he, ht]
    | reference he ht hg => simp [he, ht, hg]
    | group he ht hin => simp [he, ht, hin]
    | groupReference he ht hn hg hin => simpa [he, ht, hn, hg] using hin
  · rintro ⟨he, h⟩
    cases ht : d.definition.term with
    | element e => simp only [ht] at h; exact h ▸ .inPlace he ht
    | elementRef name =>
      simp only [ht] at h
      obtain ⟨g, hg, rfl⟩ := h
      exact .reference he ht hg
    | any w => simp [ht] at h
    | groupRef name =>
      simp only [ht] at h
      obtain ⟨g, hn, hg, hin⟩ := h
      exact .groupReference he ht hn hg hin
    | group g => simp only [ht] at h; exact .group he ht h

/-- The attributes of an entry of an attribute list. -/
theorem inEntry_iff {d : Declared AttributeItem} :
    InEntry ix opened d m ↔
      match d.definition with
      | .attribute a => a.use ≠ .prohibited ∧ m = .attribute (d.inPlace a) false
      | .ref name => ∃ g, ix.attribute? name = some g ∧ g.definition.use ≠ .prohibited ∧
        m = .attribute (.ofGlobal .attributes g) true
      | .group name => ∃ g, name ∉ opened ∧ ix.attributeGroup? name = some g ∧
        InEntries ix (opened ++ [name])
          ((Declared.ofGlobal .attributeGroups g).inPlace g.definition.attributes) m := by
  constructor
  · intro h
    cases h with
    | inPlace hi hu => simp [hi, hu]
    | reference hi hg hu => simp [hi, hg, hu]
    | groupReference hi hn hg hin => simpa [hi, hn, hg] using hin
  · intro h
    split at h
    · rename_i hi
      exact h.2 ▸ .inPlace hi h.1
    · rename_i hi
      obtain ⟨g, hg, hu, rfl⟩ := h
      exact .reference hi hg hu
    · rename_i hi
      obtain ⟨g, hn, hg, hin⟩ := h
      exact .groupReference hi hn hg hin

end

/-- The members of a definition, for a walk that begins with the groups in `opened` open. The walk
along a group is in the group itself. -/
def Source.Has (ix : Index) (opened : List QName) (m : Member) : Source → Prop
  | .type d =>
    (∃ p, d.definition.particle = some p ∧ InParticle ix opened (d.part .content p) .once m) ∨
      InEntries ix opened (d.inPlace d.definition.attributes) m
  | .group d =>
    InGroup ix (opened ++ [d.definition.name]) (d.inPlace d.definition.group) .once m
  | .attributeGroup d =>
    InEntries ix (opened ++ [d.definition.name]) (d.inPlace d.definition.attributes) m

/-- The members that the owner of an opening is to get: the walk begins with the groups open that
are being expanded when the members begin to be collected. -/
def Opening.Has (ix : Index) (r : Opening) (m : Member) : Prop := r.source.Has ix r.active m

/-! ## Parts of a schema -/

/-- A part of a schema. -/
inductive Item
  | type (d : Declared ComplexType)
  | reference (d : Declared TypeRef)
  | element (d : Declared ElementDecl)
  | attribute (d : Declared AttributeDecl)
  | particle (d : Declared Particle)
  | group (d : Declared ModelGroup)
  | entry (d : Declared AttributeItem)
  | entries (d : Declared (List AttributeItem))

/-- Belonging to a schema: as a global declaration that counts, or as a part of what belongs to
it. -/
inductive Belongs (ix : Index) : Item → Prop
  | globalType {n g t} : ix.type? n = some g → g.definition = .complex t →
      Belongs ix (.type ((Declared.ofGlobal .types g).inPlace t))
  | globalElement {n g} : ix.element? n = some g → Belongs ix (.element (.ofGlobal .elements g))
  | globalAttribute {n g} : ix.attribute? n = some g →
      Belongs ix (.attribute (.ofGlobal .attributes g))
  | globalGroup {n g} : ix.group? n = some g →
      Belongs ix (.group ((Declared.ofGlobal .groups g).inPlace g.definition.group))
  | globalAttributeGroup {n g} : ix.attributeGroup? n = some g →
      Belongs ix (.entries ((Declared.ofGlobal .attributeGroups g).inPlace g.definition.attributes))
  | content {d p} : Belongs ix (.type d) → d.definition.particle = some p →
      Belongs ix (.particle (d.part .content p))
  | attributes {d} : Belongs ix (.type d) →
      Belongs ix (.entries (d.inPlace d.definition.attributes))
  | simpleContent {d r} : Belongs ix (.type d) → d.definition.simpleContent = some r →
      Belongs ix (.reference (d.part .simpleContent r))
  | localElement {d e} : Belongs ix (.particle d) → d.definition.term = .element e →
      Belongs ix (.element (d.inPlace e))
  | localGroup {d g} : Belongs ix (.particle d) → d.definition.term = .group g →
      Belongs ix (.group (d.inPlace g))
  | particle {d i p} : Belongs ix (.group d) → d.definition.particles[i]? = some p →
      Belongs ix (.particle (d.part (.particle i) p))
  | entry {d i item} : Belongs ix (.entries d) → d.definition[i]? = some item →
      Belongs ix (.entry (d.part (.attribute i) item))
  | localAttribute {d a} : Belongs ix (.entry d) → d.definition = .attribute a →
      Belongs ix (.attribute (d.inPlace a))
  | elementType {d r} : Belongs ix (.element d) → d.definition.typeRef = some r →
      Belongs ix (.reference (d.part .type r))
  | attributeType {d r} : Belongs ix (.attribute d) → d.definition.typeRef = some r →
      Belongs ix (.reference (d.part .type r))
  | typeInPlace {d t} : Belongs ix (.reference d) → d.definition = .inline (.complex t) →
      Belongs ix (.type (d.inPlace t))

variable {ix : Index}

/-- A type reference is always a part of something. -/
theorem Belongs.reference_steps {d : Declared TypeRef} (h : Belongs ix (.reference d)) :
    d.place.steps ≠ [] := by
  cases h <;> exact List.cons_ne_nil _ _

theorem Belongs.particle_steps {d : Declared Particle} (h : Belongs ix (.particle d)) :
    d.place.steps ≠ [] := by
  cases h <;> exact List.cons_ne_nil _ _

theorem Belongs.entry_steps {d : Declared AttributeItem} (h : Belongs ix (.entry d)) :
    d.place.steps ≠ [] := by
  cases h
  exact List.cons_ne_nil _ _

/-- The place of the type given in place for a global element. -/
def elementTypePlace (g : Global ElementDecl) : Place := ⟨.elements, g.slot, [.type]⟩

theorem Place.of_part {p : Place} {step step' : Step} {list : Section} {slot : Slot}
    (h : p.part step = ⟨list, slot, [step']⟩) : step = step' ∧ p = ⟨list, slot, []⟩ := by
  obtain ⟨l, q, steps⟩ := p
  simp only [Place.part, Place.mk.injEq, List.cons.injEq] at h ⊢
  exact ⟨h.2.2.1, h.1, h.2.1, h.2.2.2⟩

/-- Nothing else is there. -/
theorem Belongs.typeRef_of_place {r : Declared TypeRef} {n : QName} {g : Global ElementDecl}
    (h : Belongs ix (.reference r)) (hg : ix.element? n = some g)
    (hplace : r.place = elementTypePlace g) : g.definition.typeRef = some r.definition := by
  cases h with
  | simpleContent _ _ => cases (Place.of_part hplace).1
  | elementType hd hr =>
    have hd' := (Place.of_part hplace).2
    cases hd with
    | globalElement hg' =>
      obtain rfl := Index.element?_eq_of_slot hg' hg (congrArg Place.slot hd')
      exact hr
    | localElement hp _ => exact absurd (congrArg Place.steps hd') hp.particle_steps
  | attributeType hd _ =>
    have hd' := (Place.of_part hplace).2
    cases hd with
    | globalAttribute _ => cases congrArg Place.list hd'
    | localAttribute hp _ => exact absurd (congrArg Place.steps hd') hp.entry_steps

/-- A complex type is the global one that its name is found under, or given in place. -/
theorem Belongs.type_cases {d : Declared ComplexType} (h : Belongs ix (.type d)) :
    (∃ n g, ix.type? n = some g ∧ g.definition = .complex d.definition ∧
      g.document = d.document ∧ d.place = ⟨.types, g.slot, []⟩) ∨
    ∃ r : Declared TypeRef, Belongs ix (.reference r) ∧
      r.definition = .inline (.complex d.definition) ∧ r.document = d.document ∧
        r.place = d.place := by
  cases h with
  | globalType hg ht => exact .inl ⟨_, _, hg, ht, rfl, rfl⟩
  | typeInPlace hr ht => exact .inr ⟨_, hr, ht, rfl, rfl⟩

end XmlTypes.Build
