import XmlTypes.Proofs.Contents
import XmlTypes.Proofs.Declarations
/-!
# Types given in place have no names

Only a global type is known by a name. A type that is given in place may not have one: a reader of
schema documents never gives it any, and the construction would remember it like a global type.
-/

namespace XmlTypes.Schema

mutual

/-- Whether all types given in place inside are without a name. -/
def TypeRef.unnamedInside : TypeRef → Bool
  | .named _ => true
  | .inline definition => definition.name.isNone && definition.unnamedInside

/-- Whether that is so in all of them. -/
def TypeRef.allUnnamedInside : List TypeRef → Bool
  | [] => true
  | r :: rs => r.unnamedInside && TypeRef.allUnnamedInside rs

/-- Whether that is so in the one that is there. -/
def TypeRef.unnamedInside? : Option TypeRef → Bool
  | none => true
  | some r => r.unnamedInside

/-- Whether all types given in place inside are without a name. -/
def TypeDefinition.unnamedInside : TypeDefinition → Bool
  | .complex type => type.unnamedInside
  | .simple type => type.unnamedInside

/-- Whether all types given in place inside are without a name. -/
def ComplexType.unnamedInside : ComplexType → Bool
  | ⟨_, _, _, _, _, particle, attributes, _, simpleContent⟩ =>
    Particle.unnamedInside? particle && AttributeItem.allUnnamedInside attributes
      && TypeRef.unnamedInside? simpleContent

/-- Whether all types given in place inside are without a name. -/
def AttributeItem.unnamedInside : AttributeItem → Bool
  | .attribute declaration => declaration.unnamedInside
  | .ref _ => true
  | .group _ => true

/-- Whether that is so in all of them. -/
def AttributeItem.allUnnamedInside : List AttributeItem → Bool
  | [] => true
  | i :: is => i.unnamedInside && AttributeItem.allUnnamedInside is

/-- Whether all types given in place inside are without a name. -/
def AttributeDecl.unnamedInside : AttributeDecl → Bool
  | ⟨_, typeRef, _, _, _, _, _⟩ => TypeRef.unnamedInside? typeRef

/-- Whether all types given in place inside are without a name. -/
def ElementDecl.unnamedInside : ElementDecl → Bool
  | ⟨_, typeRef, _, _, _, _, _, _, _⟩ => TypeRef.unnamedInside? typeRef

/-- Whether all types given in place inside are without a name. -/
def Particle.unnamedInside : Particle → Bool
  | ⟨term, _⟩ => term.unnamedInside

/-- Whether that is so in all of them. -/
def Particle.allUnnamedInside : List Particle → Bool
  | [] => true
  | p :: ps => p.unnamedInside && Particle.allUnnamedInside ps

/-- Whether that is so in the one that is there. -/
def Particle.unnamedInside? : Option Particle → Bool
  | none => true
  | some p => p.unnamedInside

/-- Whether all types given in place inside are without a name. -/
def Term.unnamedInside : Term → Bool
  | .element declaration => declaration.unnamedInside
  | .elementRef _ => true
  | .any _ => true
  | .groupRef _ => true
  | .group group => group.unnamedInside

/-- Whether all types given in place inside are without a name. -/
def ModelGroup.unnamedInside : ModelGroup → Bool
  | ⟨_, particles⟩ => Particle.allUnnamedInside particles

/-- Whether all types given in place inside are without a name. -/
def SimpleType.unnamedInside : SimpleType → Bool
  | ⟨_, _, content⟩ => content.unnamedInside

/-- Whether all types given in place inside are without a name. -/
def SimpleContent.unnamedInside : SimpleContent → Bool
  | .restriction base _ => base.unnamedInside
  | .list item => item.unnamedInside
  | .union members => TypeRef.allUnnamedInside members

end

/-- Whether all types given in place inside are without a name. -/
def Document.unnamedInside (d : Document) : Bool :=
  d.types.all TypeDefinition.unnamedInside && d.elements.all ElementDecl.unnamedInside
    && d.groups.all (·.group.unnamedInside)
    && d.attributeGroups.all (AttributeItem.allUnnamedInside ·.attributes)
    && d.attributes.all AttributeDecl.unnamedInside

/-- Whether all types given in place are without a name, and no global type has an empty one. -/
def SchemaSet.namesTypes (s : SchemaSet) : Bool :=
  s.documents.all fun d =>
    d.unnamedInside && d.types.all fun t => t.name.all fun n => !n.isEmpty

theorem ComplexType.unnamedInside_eq (t : ComplexType) :
    t.unnamedInside = (Particle.unnamedInside? t.particle &&
      AttributeItem.allUnnamedInside t.attributes &&
        TypeRef.unnamedInside? t.simpleContent) := by
  cases t
  rfl

theorem AttributeDecl.unnamedInside_eq (a : AttributeDecl) :
    a.unnamedInside = TypeRef.unnamedInside? a.typeRef := by
  cases a
  rfl

theorem ElementDecl.unnamedInside_eq (e : ElementDecl) :
    e.unnamedInside = TypeRef.unnamedInside? e.typeRef := by
  cases e
  rfl

theorem Particle.unnamedInside_eq (p : Particle) : p.unnamedInside = p.term.unnamedInside := by
  cases p
  rfl

theorem ModelGroup.unnamedInside_eq (g : ModelGroup) :
    g.unnamedInside = Particle.allUnnamedInside g.particles := by
  cases g
  rfl

theorem Particle.unnamedInside_of_mem {ps : List Particle}
    (h : Particle.allUnnamedInside ps = true) : ∀ p ∈ ps, p.unnamedInside = true := by
  induction ps with
  | nil => exact nofun
  | cons x ps ih =>
    rw [Particle.allUnnamedInside, Bool.and_eq_true] at h
    exact List.forall_mem_cons.2 ⟨h.1, ih h.2⟩

theorem AttributeItem.unnamedInside_of_mem {is : List AttributeItem}
    (h : AttributeItem.allUnnamedInside is = true) : ∀ i ∈ is, i.unnamedInside = true := by
  induction is with
  | nil => exact nofun
  | cons x is ih =>
    rw [AttributeItem.allUnnamedInside, Bool.and_eq_true] at h
    exact List.forall_mem_cons.2 ⟨h.1, ih h.2⟩

end XmlTypes.Schema

namespace XmlTypes.Build

open Schema

/-- Whether all types given in place inside a part are without a name. -/
def Item.unnamedInside : Item → Bool
  | .type d => d.definition.unnamedInside
  | .reference d => d.definition.unnamedInside
  | .element d => d.definition.unnamedInside
  | .attribute d => d.definition.unnamedInside
  | .particle d => d.definition.unnamedInside
  | .group d => d.definition.unnamedInside
  | .entry d => d.definition.unnamedInside
  | .entries d => AttributeItem.allUnnamedInside d.definition

variable {set : SchemaSet}

/-- What is so in a whole schema is so in each part of it. -/
theorem Belongs.unnamedInside (hset : set.namesTypes = true) {item : Item}
    (h : Belongs (.ofSet set) item) : item.unnamedInside = true := by
  have hdoc {d : Document} (hd : d ∈ set.documents) : d.unnamedInside = true := by
    have := List.all_eq_true.1 hset d hd
    rw [Bool.and_eq_true] at this
    exact this.1
  simp only [Document.unnamedInside, Bool.and_eq_true, List.all_eq_true] at hdoc
  have found {α : Type} {t : Table QName Slot} {items : Document → List α} {n : QName}
      {g : Global α} (hg : (t.get? n).bind (Index.at? set.documents items) = some g) :
      g.document ∈ set.documents ∧ g.definition ∈ items g.document := by
    obtain ⟨_, -, hg⟩ := Option.bind_eq_some_iff.1 hg
    exact Index.mem_of_at? hg
  -- Global declarations have it from their documents, parts from what they are parts of.
  induction h with
  | globalType hg ht =>
    obtain ⟨hd, hmem⟩ := found hg
    have := (hdoc hd).1.1.1.1 _ hmem
    rwa [ht] at this
  | globalElement hg =>
    obtain ⟨hd, hmem⟩ := found hg
    exact (hdoc hd).1.1.1.2 _ hmem
  | globalAttribute hg =>
    obtain ⟨hd, hmem⟩ := found hg
    exact (hdoc hd).2 _ hmem
  | globalGroup hg =>
    obtain ⟨hd, hmem⟩ := found hg
    exact (hdoc hd).1.1.2 _ hmem
  | globalAttributeGroup hg =>
    obtain ⟨hd, hmem⟩ := found hg
    exact (hdoc hd).1.2 _ hmem
  | content _ hp ih =>
    rw [Item.unnamedInside, ComplexType.unnamedInside_eq, hp] at ih
    simp only [Bool.and_eq_true] at ih
    exact ih.1.1
  | attributes _ ih =>
    rw [Item.unnamedInside, ComplexType.unnamedInside_eq] at ih
    simp only [Bool.and_eq_true] at ih
    exact ih.1.2
  | simpleContent _ hr ih =>
    rw [Item.unnamedInside, ComplexType.unnamedInside_eq, hr] at ih
    simp only [Bool.and_eq_true] at ih
    exact ih.2
  | localElement _ ht ih => rwa [Item.unnamedInside, Particle.unnamedInside_eq, ht] at ih
  | localGroup _ ht ih => rwa [Item.unnamedInside, Particle.unnamedInside_eq, ht] at ih
  | particle _ hp ih =>
    rw [Item.unnamedInside, ModelGroup.unnamedInside_eq] at ih
    exact Particle.unnamedInside_of_mem ih _ (List.mem_of_getElem? hp)
  | entry _ hi ih => exact AttributeItem.unnamedInside_of_mem ih _ (List.mem_of_getElem? hi)
  | localAttribute _ ha ih => rwa [Item.unnamedInside, ha] at ih
  | elementType _ hr ih => rwa [Item.unnamedInside, ElementDecl.unnamedInside_eq, hr] at ih
  | attributeType _ hr ih => rwa [Item.unnamedInside, AttributeDecl.unnamedInside_eq, hr] at ih
  | typeInPlace _ ht ih =>
    rw [Item.unnamedInside, ht, TypeRef.unnamedInside, Bool.and_eq_true] at ih
    exact ih.2

/-- A type that is given in place is unnamed. -/
theorem Belongs.name_of_inline (hset : set.namesTypes = true) {r : Declared TypeRef}
    {t : TypeDefinition} (h : Belongs (.ofSet set) (.reference r)) (ht : r.definition = .inline t) :
    t.name = none := by
  have hnone := h.unnamedInside hset
  rw [Item.unnamedInside, ht, TypeRef.unnamedInside, Bool.and_eq_true] at hnone
  exact Option.isNone_iff_eq_none.1 hnone.1

/-- A complex type is unnamed, or is the global one of its name. -/
theorem Belongs.type_of_name (hset : set.namesTypes = true) {d : Declared ComplexType} {n : QName}
    (h : Belongs (.ofSet set) (.type d)) (hn : d.definition.name = some n) :
    ∃ g, (Index.ofSet set).type? n = some g ∧ g.definition = .complex d.definition ∧
      g.document = d.document := by
  rcases h.type_cases with ⟨n', g, hg, hd, hdoc, -⟩ | ⟨r, hr, hd, -, -⟩
  · have hn' := (Index.lawful_ofSet set).types n' g hg
    rw [hd] at hn'
    obtain rfl : n = n' := Option.some.inj (hn.symm.trans hn')
    exact ⟨g, hg, hd, hdoc⟩
  · exact absurd (hn.symm.trans (hr.name_of_inline hset hd)) nofun

theorem isEmpty_of_type? (hset : set.namesTypes = true) {n : QName} {g : Global TypeDefinition}
    (hg : (Index.ofSet set).type? n = some g) : n.isEmpty = false := by
  obtain ⟨_, -, hat⟩ := Option.bind_eq_some_iff.1 hg
  obtain ⟨hd, hmem⟩ := Index.mem_of_at? hat
  have hdoc := List.all_eq_true.1 hset _ hd
  rw [Bool.and_eq_true] at hdoc
  have := List.all_eq_true.1 hdoc.2 _ hmem
  rw [(Index.lawful_ofSet set).types n g hg] at this
  simpa using this

end XmlTypes.Build
