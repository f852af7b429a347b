import XmlTypes.Proofs.Provenance
import XmlTypes.Proofs.Roots
/-!
# What stands in for an element

Where substitutes are merged, the property for a reference to an element has all that may stand in
for the element, each once and with its type, in whatever order the documents declare heads and
members; and no other property has substitutes.
-/

namespace XmlTypes

open Build Relation Schema

namespace Schema.SchemaSet

/-- The element of the name `n` that counts is in the substitution group of `head`. -/
def Member (set : SchemaSet) (head n : QName) : Prop :=
  ∃ e, set.Counts e ∧ e.definition.name = n ∧ e.definition.substitutionGroup = some head

/-- The element may stand in for `head`: it is in the group, in the group of a member, and so on,
and it is not abstract. -/
structure StandsIn (set : SchemaSet) (head : QName) (e : Global ElementDecl) : Prop where
  counts : set.Counts e
  reached : TransGen set.Member head e.definition.name
  concrete : e.definition.isAbstract = false

end Schema.SchemaSet

namespace Build

variable {set : SchemaSet} {options : Options} {naming : Naming} {resolver : Resolver} {s : State}
  {head : QName}

/-- The substitutes are the elements that may stand in for `head`, each once, with its own head and
its type. -/
structure AreStandIns (set : SchemaSet) (env : Environment) (s : State) (head : QName)
    (substitutes : List Substitute) : Prop where
  nodup : (substitutes.map (·.member)).Nodup
  member_iff : ∀ n, (∃ x ∈ substitutes, x.member = n) ↔
    ∃ e, set.StandsIn head e ∧ e.definition.name = n
  typed : ∀ x ∈ substitutes, ∃ e, set.Counts e ∧ e.definition.name = x.member ∧
    e.definition.substitutionGroup = some x.head ∧ ResolvedFor env s e x.type

/-- Of the elements of one name one counts. -/
theorem counts_unique {e e' : Global ElementDecl} (h : set.Counts e) (h' : set.Counts e')
    (hname : e.definition.name = e'.definition.name) : e = e' := by
  rw [SchemaSet.counts_iff] at h h'
  rw [hname, h'] at h
  exact (Option.some.inj h).symm

theorem joins_iff {e : Global ElementDecl} : Joins (.ofSet set) head e ↔
    set.Counts e ∧ e.definition.substitutionGroup = some head :=
  and_congr_left fun _ => SchemaSet.counts_iff.symm

/-- What is registered is what the schema says. -/
theorem Completed.registered_eq (hs : Completed (.ofSet set options naming) resolver s) :
    s.context.substitutions.Member = set.Member := by
  funext head n
  refine propext (hs.member_iff.trans ⟨?_, ?_⟩)
  · rintro ⟨e, hname, hjoins⟩
    obtain ⟨hcounts, hhead⟩ := joins_iff.1 hjoins
    exact ⟨e, hcounts, hname, hhead⟩
  · rintro ⟨e, hcounts, hname, hhead⟩
    exact ⟨e, hname, joins_iff.2 ⟨hcounts, hhead⟩⟩

/-- The substitutes that are found for a head are those that the schema allows. -/
theorem Completed.areStandIns (hs : Completed (.ofSet set options naming) resolver s)
    (head : QName) : AreStandIns set (.ofSet set options naming) s head
      (s.context.substitutions.substitutesOf head) := by
  obtain ⟨hnodup, hiff⟩ := s.context.substitutions.substitutesOf_spec head
  refine ⟨hnodup, fun n => ?_, fun x hx => ?_⟩
  · rw [hiff, hs.registered_eq]
    constructor
    · rintro ⟨hreach, hconcrete⟩
      -- The last step leads to the element from the group that it is in.
      obtain ⟨last, -, e, hcounts, rfl, hhead⟩ := TransGen.tail'_iff.1 hreach
      rw [hs.mem_abstractMembers_iff (joins_iff.2 ⟨hcounts, hhead⟩), Bool.not_eq_true] at hconcrete
      exact ⟨e, ⟨hcounts, hreach, hconcrete⟩, rfl⟩
    · rintro ⟨e, ⟨hcounts, hreach, hconcrete⟩, rfl⟩
      obtain ⟨last, -, e', hcounts', hname, hhead⟩ := TransGen.tail'_iff.1 hreach
      obtain rfl := counts_unique hcounts' hcounts hname
      rw [hs.mem_abstractMembers_iff (joins_iff.2 ⟨hcounts', hhead⟩), Bool.not_eq_true]
      exact ⟨hreach, hconcrete⟩
  · obtain ⟨head', hx'⟩ := Substitutions.mem_substitutesOf hx
    obtain ⟨rfl, e, hname, hjoins, htype⟩ := hs.registered.members head' x hx'
    obtain ⟨hcounts, hhead⟩ := joins_iff.1 hjoins
    exact ⟨e, hcounts, hname, hhead, htype.toResolvedFor⟩

/-- Where substitutes are merged, every property is for a wildcard or was added for a member. That
for a reference to an element has what may stand in for the element, and others have no
substitutes. -/
theorem references_have_stand_ins (hstrategy : options.substitutionStrategy = .merge)
    (h : run (.ofSet set options naming) resolver = .ok s) :
    let env := Environment.ofSet set options naming
    ∀ id, ∀ p ∈ (s.finished env).properties id,
      (p.isWildcard = true ∧ p.substitutes = [] ∨ ∃ m, AddedFor env s id m p) ∧
      ∀ m, AddedFor env s id m p →
        (∀ head, m.RefersTo head → AreStandIns set env s head p.substitutes) ∧
        ((∀ head, ¬ m.RefersTo head) → p.substitutes = []) := by
  intro env id p hp
  have hs : Completed env resolver s := run_completed h
  rcases hs.merged hstrategy hp with ⟨hw, hnil⟩ | ⟨m, hm, hsome, hnone⟩
  · refine ⟨.inl ⟨hw, hnil⟩, fun m hm => ?_⟩
    exact absurd (hm.isWildcard.symm.trans hw) Bool.false_ne_true
  · refine ⟨.inr ⟨m, hm⟩, fun m' hm' => ?_⟩
    obtain rfl := hm.unique hs.recorded hm'
    exact ⟨fun head hrefers => hsome head hrefers ▸ hs.areStandIns head, hnone⟩

/-- A type with a reference to an element. -/
def referringType (name : String) (head : QName) : TypeDefinition :=
  .complex
    { name := some (sampleName name)
      particle := some (sampleSequence [.one (.elementRef head)]) }

/-- A global element that stands in for another one. -/
def sampleMember (name head : String) (isAbstract : Bool) : ElementDecl :=
  { sampleRoot name (.named (.xsd "string")) with
    substitutionGroup := some (sampleName head), isAbstract }

/-- A reference to an element that has an abstract member, which has a member that has the first
element as its member. -/
def cyclicGroup : SchemaSet where
  documents :=
    [{ location := "a.xsd"
       targetNamespace := some "urn:t"
       types := [referringType "T" (sampleName "shape")]
       elements :=
         [sampleMember "square" "polygon" false, sampleMember "polygon" "shape" true,
          sampleMember "shape" "square" false] }]

theorem references_have_stand_ins_cyclic :
    let env := Environment.ofSet cyclicGroup {} .conventional
    env.options.substitutionStrategy = .merge ∧ ∃ s, run env oneNamespace = .ok s ∧
      (∃ id, ∃ p ∈ (s.finished env).properties id, p.substitutes ≠ []) ∧
      ∀ id, ∀ p ∈ (s.finished env).properties id,
        (p.isWildcard = true ∧ p.substitutes = [] ∨ ∃ m, AddedFor env s id m p) ∧
        ∀ m, AddedFor env s id m p →
          (∀ head, m.RefersTo head → AreStandIns cyclicGroup env s head p.substitutes) ∧
          ((∀ head, ¬ m.RefersTo head) → p.substitutes = []) := by
  intro env
  obtain ⟨s, h, hsome⟩ := exists_of_any (x := run env oneNamespace)
    (p := fun s => (((s.finished env).properties 0)[0]?).any fun p => !p.substitutes.isEmpty)
    (by decide +kernel)
  obtain ⟨p, hp, hne⟩ := (Option.any_eq_true _ _).1 hsome
  exact ⟨rfl, s, h, ⟨0, p, List.mem_of_getElem? hp, by simpa using hne⟩,
    references_have_stand_ins rfl h⟩

end Build

end XmlTypes
