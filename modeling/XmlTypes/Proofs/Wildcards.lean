import XmlTypes.Build.State
import XmlTypes.Proofs.Contents
/-!
# Wildcards of a definition

The walks that tell the members of a complex type, here for the wildcards on the way: an element
wildcard anywhere in the content model, and an attribute wildcard of the type itself or of an
attribute group.
-/

namespace XmlTypes.Build

open Schema

/-- The name of the property for a wildcard. -/
def wildcardName (isAttribute : Bool) : String := if isAttribute then "AnyAttribute" else "Any"

/-- The property is like every other one for a wildcard of its kind. -/
def IsForWildcard (p : Property) : Prop :=
  p.name = wildcardName p.isAttribute ∧
    p.schemaName = .bare (if p.isAttribute then "anyAttribute" else "any")

mutual

/-- There is a wildcard in a particle within the bounds around it, where the groups in `opened` are
not entered. -/
inductive AnyInParticle (ix : Index) : (opened : List QName) → Declared Particle →
    (outer : Occurs) → Prop
  | here {opened d outer w} : (d.definition.occurs.within outer).isEmpty = false →
      d.definition.term = .any w → AnyInParticle ix opened d outer
  | group {opened d outer g} : (d.definition.occurs.within outer).isEmpty = false →
      d.definition.term = .group g →
      AnyInGroup ix opened (d.inPlace g) (d.definition.occurs.within outer) →
      AnyInParticle ix opened d outer
  | groupReference {opened d outer name g} :
      (d.definition.occurs.within outer).isEmpty = false →
      d.definition.term = .groupRef name → name ∉ opened → ix.group? name = some g →
      AnyInGroup ix (opened ++ [name]) ((Declared.ofGlobal .groups g).inPlace g.definition.group)
        (d.definition.occurs.within outer) →
      AnyInParticle ix opened d outer

/-- There is a wildcard in a model group within bounds. -/
inductive AnyInGroup (ix : Index) : (opened : List QName) → Declared ModelGroup → Occurs → Prop
  | particle {opened d occurs i p} : d.definition.particles[i]? = some p →
      AnyInParticle ix opened (d.part (.particle i) p)
        (innerBounds d.definition.compositor occurs) →
      AnyInGroup ix opened d occurs

end

mutual

/-- An entry of an attribute list refers to an attribute group that has a wildcard, or leads to
one. -/
inductive AnyInEntry (ix : Index) : (opened : List QName) → Declared AttributeItem → Prop
  | here {opened d name g} : d.definition = .group name → name ∉ opened →
      ix.attributeGroup? name = some g → g.definition.anyAttribute.isSome = true →
      AnyInEntry ix opened d
  | groupReference {opened d name g} : d.definition = .group name → name ∉ opened →
      ix.attributeGroup? name = some g →
      AnyInEntries ix (opened ++ [name])
        ((Declared.ofGlobal .attributeGroups g).inPlace g.definition.attributes) →
      AnyInEntry ix opened d

/-- An attribute list leads to an attribute group with a wildcard. -/
inductive AnyInEntries (ix : Index) : (opened : List QName) → Declared (List AttributeItem) → Prop
  | entry {opened d i item} : d.definition[i]? = some item →
      AnyInEntry ix opened (d.part (.attribute i) item) → AnyInEntries ix opened d

end

section
variable {ix : Index} {opened : List QName}

/-- The wildcards of a particle are those of its term. -/
theorem anyInParticle_iff {d : Declared Particle} {outer : Occurs} :
    AnyInParticle ix opened d outer ↔ (d.definition.occurs.within outer).isEmpty = false ∧
      match d.definition.term with
      | .element _ => False
      | .elementRef _ => False
      | .any _ => True
      | .groupRef name => ∃ g, name ∉ opened ∧ ix.group? name = some g ∧
        AnyInGroup ix (opened ++ [name])
          ((Declared.ofGlobal .groups g).inPlace g.definition.group)
          (d.definition.occurs.within outer)
      | .group g => AnyInGroup ix opened (d.inPlace g) (d.definition.occurs.within outer) := by
  constructor
  · intro h
    cases h with
    | here he ht => simp [he, ht]
    | group he ht hin => simp [he, ht, hin]
    | groupReference he ht hn hg hin => simpa [he, ht, hn, hg] using hin
  · rintro ⟨he, h⟩
    cases ht : d.definition.term with
    | element e => simp [ht] at h
    | elementRef name => simp [ht] at h
    | any w => exact .here he ht
    | groupRef name =>
      simp only [ht] at h
      obtain ⟨g, hn, hg, hin⟩ := h
      exact .groupReference he ht hn hg hin
    | group g => simp only [ht] at h; exact .group he ht h

/-- Only an attribute group has a wildcard in an attribute list. -/
theorem anyInEntry_iff {d : Declared AttributeItem} :
    AnyInEntry ix opened d ↔ ∃ name g, d.definition = .group name ∧ name ∉ opened ∧
      ix.attributeGroup? name = some g ∧ (g.definition.anyAttribute.isSome = true ∨
        AnyInEntries ix (opened ++ [name])
          ((Declared.ofGlobal .attributeGroups g).inPlace g.definition.attributes)) := by
  constructor
  · intro h
    cases h with
    | here hi hn hg ha => exact ⟨_, _, hi, hn, hg, .inl ha⟩
    | groupReference hi hn hg hin => exact ⟨_, _, hi, hn, hg, .inr hin⟩
  · rintro ⟨name, g, hi, hn, hg, ha | hin⟩
    · exact .here hi hn hg ha
    · exact .groupReference hi hn hg hin

end

/-- A walk along a definition that begins with the groups in `opened` open meets a wildcard, for
elements or for attributes. -/
def Source.HasAny (ix : Index) (opened : List QName) : Source → (isAttribute : Bool) → Prop
  | .type d, false =>
    ∃ p, d.definition.particle = some p ∧ AnyInParticle ix opened (d.part .content p) .once
  | .type d, true =>
    d.definition.anyAttribute.isSome = true ∨
      AnyInEntries ix opened (d.inPlace d.definition.attributes)
  | .group d, false =>
    AnyInGroup ix (opened ++ [d.definition.name]) (d.inPlace d.definition.group) .once
  | .group _, true => False
  | .attributeGroup _, false => False
  | .attributeGroup d, true =>
    d.definition.anyAttribute.isSome = true ∨
      AnyInEntries ix (opened ++ [d.definition.name]) (d.inPlace d.definition.attributes)

/-- The owner of an opening is to get a property for wildcards. -/
def Opening.HasAny (ix : Index) (r : Opening) (isAttribute : Bool) : Prop :=
  r.source.HasAny ix r.active isAttribute

end XmlTypes.Build
