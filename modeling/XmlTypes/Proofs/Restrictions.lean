import XmlTypes.Proofs.ClassRuns
import XmlTypes.Proofs.Finishing
/-!
# What a restriction does not declare again

A class that restricts its base takes over nothing that its base classes declare, as far as they
declare it when the class is opened. A base class may get more of its properties later, if the
class is reached while the base class is still being built; and wildcards of base classes are not
looked at, whatever their names are.
-/

namespace XmlTypes

/-- What a schema knows a member by. -/
def Property.key (p : Property) : QName × Bool := (p.schemaName, p.isAttribute)

theorem Property.key_of_bare {p q : Property} (h : q.bare = p.bare) : q.key = p.key := by
  change q.bare.key = p.bare.key
  rw [h]

theorem Property.isWildcard_of_bare {p q : Property} (h : q.bare = p.bare) :
    q.isWildcard = p.isWildcard := by
  change q.bare.isWildcard = p.bare.isWildcard
  rw [h]

namespace Build

open Schema

variable {env : Environment} {s : State}

/-- A property that is no wildcard is not restated. -/
theorem Arises.not_restated {right : Option TypeRef → ValueType → Prop} {r : Opening}
    {p : Property} (h : Arises env right r p) (hp : p.isWildcard = false) :
    p.key ∉ r.scope.restated := by
  cases h with
  | ofElement _ hr _ => exact hr
  | ofAttribute _ hr _ => exact hr
  | wildcard _ hw _ _ =>
    rw [hw] at hp
    cases hp

/-- A class has nothing in common with what its base classes declare when a restriction opens it,
wildcards excepted. -/
theorem Recorded.key_ne {r : Opening} (hs : Recorded env s) (hr : r ∈ s.journal)
    (hrestriction : r.source.isRestriction = true) {p q : Property}
    (hp : p ∈ s.graph.properties r.scope.owner) (hpw : p.isWildcard = false)
    (hq : q ∈ r.inherited) (hqw : q.isWildcard = false) : p.key ≠ q.key := by
  obtain ⟨r', hr', ho, ha⟩ := hs.arises _ p hp
  rw [hs.opening_eq hr hr' ho] at ha
  intro he
  exact ha.not_restated hpw
    (((hs.openings r hr).restated _).2 ⟨hrestriction, q, hq, hqw, he.symm⟩)

/-- Where substitutes are put on the properties for their heads, a class that restricts its base
declares nothing that has the name of what its base classes declare, exactly if this holds of the
wildcards of the base classes and of what they got after the class was opened. -/
theorem restriction_apart_iff {set : SchemaSet} {options : Options} {naming : Naming}
    {resolver : Resolver} (hstrategy : options.substitutionStrategy = .merge)
    (h : run (.ofSet set options naming) resolver = .ok s) {r : Opening} (hr : r ∈ s.journal)
    {d : Declared ComplexType} (hd : r.source = .type d) {base : QName}
    (hbase : d.definition.derivation = some ⟨base, .restriction⟩) :
    let g := s.finished (.ofSet set options naming)
    let owner := r.scope.owner
    (∀ p ∈ g.properties owner, p.isWildcard = false → ∀ q ∈ g.inheritedProperties owner,
      p.key ≠ q.key) ↔
    ∀ p ∈ s.graph.properties owner, p.isWildcard = false →
      ∀ q ∈ s.graph.inheritedProperties owner, q.isWildcard = true ∨ q ∉ r.inherited →
        p.key ≠ q.key := by
  intro g owner
  have hs := run_recorded (Index.lawful_ofSet set) h
  have hclass : (s.graph.class? owner).isSome := ((hs.openings r hr).type d hd).1
  have hshares : s.graph.Shares g := s.finished_shares _
  have hkept {id : NodeId} (hid : (s.graph.class? id).isSome) :
      (g.properties id).map Property.bare = (s.graph.properties id).map Property.bare :=
    finished_merged hstrategy hid
  constructor
  · intro hall p hp hpw q hq _
    obtain ⟨a, ha, hq⟩ := List.mem_flatMap.1 hq
    have haclass := isSome_class?_of_mem_ancestors hs.linked ha
    obtain ⟨p', hp', hpp⟩ := List.mem_map.1 (hkept hclass ▸ List.mem_map_of_mem hp)
    obtain ⟨q', hq', hqq⟩ := List.mem_map.1 (hkept haclass ▸ List.mem_map_of_mem hq)
    rw [← Property.key_of_bare hpp, ← Property.key_of_bare hqq]
    exact hall p' hp' (Property.isWildcard_of_bare hpp ▸ hpw) q'
      (List.mem_flatMap.2 ⟨a, hshares.ancestors owner ▸ ha, hq'⟩)
  · intro hall p hp hpw q hq
    obtain ⟨a, ha, hq⟩ := List.mem_flatMap.1 hq
    rw [hshares.ancestors] at ha
    have haclass := isSome_class?_of_mem_ancestors hs.linked ha
    obtain ⟨p', hp', hpp⟩ := List.mem_map.1 (hkept hclass ▸ List.mem_map_of_mem hp)
    obtain ⟨q', hq', hqq⟩ := List.mem_map.1 (hkept haclass ▸ List.mem_map_of_mem hq)
    rw [← Property.key_of_bare hpp, ← Property.key_of_bare hqq]
    have hpw' : p'.isWildcard = false := Property.isWildcard_of_bare hpp ▸ hpw
    -- What is neither late nor a wildcard was restated.
    by_cases hlate : q'.isWildcard = true ∨ q' ∉ r.inherited
    · exact hall p' hp' hpw' q' (List.mem_flatMap.2 ⟨a, ha, hq'⟩) hlate
    · simp only [not_or, Bool.not_eq_true, not_not] at hlate
      exact hs.key_ne hr (by simp [hd, Source.isRestriction, hbase]) hp' hpw' hlate.2 hlate.1

/-- The environment in which a base type and its restriction are built. -/
def restrictionEnv : Environment := .ofSet (recursiveBase .restriction) {} .conventional

/-- Whether a complex type restricts the base type. -/
def restrictsBase (d : Declared ComplexType) : Bool :=
  d.definition.derivation = some ⟨sampleName "Base", .restriction⟩

theorem restriction_apart_recursive : restrictionEnv.options.substitutionStrategy = .merge ∧
    ∃ s, run restrictionEnv oneNamespace = .ok s ∧ ∃ r ∈ s.journal, ∃ d, r.source = .type d ∧
      d.definition.derivation = some ⟨sampleName "Base", .restriction⟩ ∧
      let g := s.finished restrictionEnv
      let owner := r.scope.owner
      ((∀ p ∈ g.properties owner, p.isWildcard = false → ∀ q ∈ g.inheritedProperties owner,
        p.key ≠ q.key) ↔
      ∀ p ∈ s.graph.properties owner, p.isWildcard = false →
        ∀ q ∈ s.graph.inheritedProperties owner, q.isWildcard = true ∨ q ∉ r.inherited →
          p.key ≠ q.key) := by
  obtain ⟨s, h, hp⟩ := exists_of_any (x := run restrictionEnv oneNamespace)
    (p := fun s => s.journal.any (·.source.type?.any restrictsBase)) (by decide +kernel)
  obtain ⟨r, hr, hp⟩ := List.any_eq_true.1 hp
  obtain ⟨d, hd, hp⟩ := Source.exists_of_any hp
  have hbase := of_decide_eq_true hp
  exact ⟨rfl, s, h, r, hr, d, hd, hbase, restriction_apart_iff rfl h hr hd hbase⟩

/-- The restriction is opened before the base type has its second element, and declares it
again. -/
theorem recursive_restriction_declares_again :
    restrictionEnv.options.substitutionStrategy = .merge ∧
    ∃ s, run restrictionEnv oneNamespace = .ok s ∧ ∃ r ∈ s.journal, ∃ d, r.source = .type d ∧
      d.definition.derivation = some ⟨sampleName "Base", .restriction⟩ ∧
      let g := s.finished restrictionEnv
      ∃ p ∈ g.properties r.scope.owner, p.isWildcard = false ∧
        ∃ q ∈ g.inheritedProperties r.scope.owner, p.key = q.key := by
  obtain ⟨s, h, hp⟩ := exists_of_any (x := run restrictionEnv oneNamespace)
    (p := fun s => s.journal.any fun r => r.source.type?.any restrictsBase &&
      ((s.finished restrictionEnv).properties r.scope.owner).any fun p => !p.isWildcard &&
        ((s.finished restrictionEnv).inheritedProperties r.scope.owner).any fun q =>
          p.key = q.key)
    (by decide +kernel)
  obtain ⟨r, hr, hp⟩ := List.any_eq_true.1 hp
  obtain ⟨hbase, hp⟩ := Bool.and_eq_true_iff.1 hp
  obtain ⟨p, hpmem, hp⟩ := List.any_eq_true.1 hp
  obtain ⟨hpw, hq⟩ := Bool.and_eq_true_iff.1 hp
  obtain ⟨q, hqmem, hkey⟩ := List.any_eq_true.1 hq
  obtain ⟨d, hd, hbase⟩ := Source.exists_of_any hbase
  exact ⟨rfl, s, h, r, hr, d, hd, of_decide_eq_true hbase, p, hpmem, Bool.not_eq_true' _ ▸ hpw,
    q, hqmem, of_decide_eq_true hkey⟩

end Build

end XmlTypes
