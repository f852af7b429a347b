import XmlTypes.Proofs.Layering
/-!
# Ranges of lengths

A type that derives in several steps gets its length bounds layer by layer. When everything is
given, a bound is that of the last step that sets it (`lengthRange_layered_all`). A combined range
is replaced as a whole, so it is that of the last step that bounds lengths at all, and what that
step leaves open is open (`lengthRange_layered_ranges_concat`). The two agree exactly if that step
restates what it would otherwise inherit (`length_ranges_agree_iff`).
-/

namespace XmlTypes

open Schema (Facet Primitive)

/-- A range of lengths: the least one, and the greatest one if there is one. -/
structure LengthRange where
  least : Nat
  greatest : Option Nat
deriving DecidableEq, Repr

/-- The range allows values of the given length. -/
def LengthRange.Allows (range : LengthRange) (length : Nat) : Prop :=
  range.least ≤ length ∧ ∀ n, range.greatest = some n → length ≤ n

namespace Restriction

/-- The least length, where the restriction sets it and nothing else. -/
def leastLength? : Restriction → Option Nat
  | minLength n => some n
  | _ => none

/-- The greatest length, where the restriction sets it and nothing else. -/
def greatestLength? : Restriction → Option Nat
  | maxLength n => some n
  | _ => none

/-- The combined range of lengths that the restriction sets. -/
def lengthRange? : Restriction → Option LengthRange
  | minMaxLength min max => some ⟨min, max⟩
  | _ => none

end Restriction

/-- The range of lengths that is told by restrictions given under a mode: by one restriction for
each bound when everything is given, and otherwise by one for both. -/
def lengthRange (mode : AnnotationMode) (restrictions : List Restriction) : LengthRange :=
  if mode = .all then
    ⟨(restrictions.findSome? Restriction.leastLength?).getD 0,
      restrictions.findSome? Restriction.greatestLength?⟩
  else (restrictions.findSome? Restriction.lengthRange?).getD ⟨0, none⟩

/-- The restrictions of a type that derives in several steps, the step nearest to the primitive
first. -/
def layered (steps : List (List Facet)) (type : Primitive) (mode : AnnotationMode) :
    List Restriction :=
  steps.foldl (fun inherited facets => layer inherited (restrictionsOf facets type mode)) []

/-- The range in which each bound is that of the last step that sets it. -/
def effectiveRange (steps : List (List Facet)) : LengthRange :=
  ⟨(steps.reverse.findSome? fun facets => (lengths facets).1).getD 0,
    steps.reverse.findSome? fun facets => (lengths facets).2⟩

/-- The last step that bounds lengths sets every bound that the steps before it have set; a least
length of zero bounds nothing. -/
def RestatesLengths (steps : List (List Facet)) : Prop :=
  ∀ before facets after, steps = before ++ facets :: after → lengths facets ≠ (none, none) →
    (∀ later ∈ after, lengths later = (none, none)) →
    ((lengths facets).1 = none → (effectiveRange before).least = 0) ∧
      ((lengths facets).2 = none → (effectiveRange before).greatest = none)

variable {steps : List (List Facet)} {facets : List Facet} {type : Primitive}
  {mode : AnnotationMode}

/-! ## One step -/

theorem isSome_leastLength? (r : Restriction) :
    r.leastLength?.isSome = true ↔ r.kind = "minLength" := by
  cases r <;> simp [Restriction.leastLength?, Restriction.kind]

theorem isSome_greatestLength? (r : Restriction) :
    r.greatestLength?.isSome = true ↔ r.kind = "maxLength" := by
  cases r <;> simp [Restriction.greatestLength?, Restriction.kind]

theorem isSome_lengthRange? (r : Restriction) :
    r.lengthRange?.isSome = true ↔ r.kind = "minMaxLength" := by
  cases r <;> simp [Restriction.lengthRange?, Restriction.kind]

/-- The kinds of the restrictions that bound lengths. -/
def lengthKinds : List String := ["minLength", "maxLength", "minMaxLength"]

/-- No other facet bounds lengths. -/
theorem kind_notMem_lengthKinds {facet : Facet} {r : Restriction}
    (h : facet.restriction? type = some r) : r.kind ∉ lengthKinds := by
  cases facet <;> cases h <;> simp [Restriction.kind, lengthKinds]

section
variable {β : Type} {f : Restriction → Option β} {kind : String}
  (hf : ∀ r, (f r).isSome = true ↔ r.kind = kind)
include hf

/-- Only what is said of the kind tells something. -/
theorem findSome?_withKind (restrictions : List Restriction) :
    (withKind kind restrictions).findSome? f = restrictions.findSome? f := by
  have hasked (r : Restriction) : (if r.kind = kind then f r else none) = f r := by
    split
    · rfl
    · rename_i hr
      exact (Option.not_isSome_iff_eq_none.1 fun hsome => hr ((hf r).1 hsome)).symm
  rw [withKind, ← List.head?_filterMap, List.filterMap_filter, ← List.head?_filterMap]
  simp only [decide_eq_true_eq, hasked]

theorem isSome_findSome? (restrictions : List Restriction) :
    (restrictions.findSome? f).isSome = hasKind restrictions kind := by
  rw [Bool.eq_iff_iff, List.isSome_findSome?, hasKind]
  simp [hf]

/-- What a layer tells of one kind of restriction replaces what was told before. -/
theorem findSome?_layer (inherited derived : List Restriction) :
    (layer inherited derived).findSome? f =
      (derived.findSome? f).or (inherited.findSome? f) := by
  have hd := isSome_findSome? hf derived
  rw [← findSome?_withKind hf (layer inherited derived), withKind_layer]
  cases hkind : hasKind derived kind with
  | true =>
    rw [hkind, Option.isSome_iff_exists] at hd
    obtain ⟨b, hb⟩ := hd
    rw [if_pos rfl, findSome?_withKind hf, hb, Option.some_or]
  | false =>
    rw [hkind, Option.isSome_eq_false_iff, Option.isNone_iff_eq_none] at hd
    rw [if_neg Bool.false_ne_true, findSome?_withKind hf, hd, Option.none_or]

/-- What is told of lengths comes from the facets for lengths. -/
theorem findSome?_restrictionsOf (hmode : mode ≠ .none) (hkind : kind ∈ lengthKinds) :
    (restrictionsOf facets type mode).findSome? f =
      ((lengthRestrictions mode (lengths facets).1 (lengths facets).2).filter
        (·.isGiven mode)).findSome? f := by
  have hothers : ((facets.filterMap (Facet.restriction? type)).filter
      (·.isGiven mode)).findSome? f = none := by
    rw [List.findSome?_eq_none_iff]
    intro r hr
    obtain ⟨facet, -, hfacet⟩ := List.mem_filterMap.1 (List.mem_filter.1 hr).1
    rw [← Option.not_isSome_iff_eq_none, hf r]
    intro he
    exact kind_notMem_lengthKinds hfacet (he ▸ hkind)
  simp only [restrictionsOf, if_neg hmode, List.filter_append, List.findSome?_append, hothers,
    Option.or_none]

end

theorem leastLength?_restrictionsOf :
    (restrictionsOf facets type .all).findSome? Restriction.leastLength? = (lengths facets).1 := by
  rw [findSome?_restrictionsOf isSome_leastLength? (by simp) (by simp [lengthKinds])]
  rcases lengths facets with ⟨_ | n, _ | m⟩ <;> rfl

theorem greatestLength?_restrictionsOf :
    (restrictionsOf facets type .all).findSome? Restriction.greatestLength? =
      (lengths facets).2 := by
  rw [findSome?_restrictionsOf isSome_greatestLength? (by simp) (by simp [lengthKinds])]
  rcases lengths facets with ⟨_ | n, _ | m⟩ <;> rfl

theorem lengthRange?_restrictionsOf :
    (restrictionsOf facets type .ranges).findSome? Restriction.lengthRange? =
      if lengths facets = (none, none) then none
      else some ⟨(lengths facets).1.getD 0, (lengths facets).2⟩ := by
  rw [findSome?_restrictionsOf isSome_lengthRange? (by simp) (by simp [lengthKinds])]
  rcases lengths facets with ⟨_ | n, _ | m⟩ <;> rfl

/-! ## All steps -/

theorem layered_concat : layered (steps ++ [facets]) type mode =
    layer (layered steps type mode) (restrictionsOf facets type mode) := by
  rw [layered, List.foldl_append]
  rfl

theorem effectiveRange_concat : effectiveRange (steps ++ [facets]) =
    ⟨(lengths facets).1.getD (effectiveRange steps).least,
      (lengths facets).2.or (effectiveRange steps).greatest⟩ := by
  simp only [effectiveRange, List.reverse_append, List.reverse_singleton, List.singleton_append,
    List.findSome?_cons]
  rcases lengths facets with ⟨_ | n, _ | m⟩ <;> rfl

/-- When everything is given, each bound is that of the last step that sets it. -/
theorem lengthRange_layered_all :
    lengthRange .all (layered steps type .all) = effectiveRange steps := by
  induction steps using List.reverseRecOn with
  | nil => rfl
  | append_singleton steps facets ih =>
    rw [effectiveRange_concat, ← ih, layered_concat]
    simp only [lengthRange, if_true, findSome?_layer isSome_leastLength?,
      findSome?_layer isSome_greatestLength?, leastLength?_restrictionsOf,
      greatestLength?_restrictionsOf]
    rcases (lengths facets).1 with _ | n <;> simp

/-- A combined range is that of the last step that bounds lengths. -/
theorem lengthRange_layered_ranges_concat :
    lengthRange .ranges (layered (steps ++ [facets]) type .ranges) =
      if lengths facets = (none, none) then lengthRange .ranges (layered steps type .ranges)
      else ⟨(lengths facets).1.getD 0, (lengths facets).2⟩ := by
  rw [layered_concat]
  simp only [lengthRange, findSome?_layer isSome_lengthRange?, lengthRange?_restrictionsOf]
  by_cases h : lengths facets = (none, none) <;> simp [h]

/-- What the last step leaves alone is a matter of the steps before it. -/
theorem restatesLengths_concat_of_none (h : lengths facets = (none, none)) :
    RestatesLengths (steps ++ [facets]) ↔ RestatesLengths steps := by
  constructor
  · rintro hall before bounding after rfl hbounds hlater
    refine hall before bounding (after ++ [facets]) (by simp) hbounds fun later hl => ?_
    rcases List.mem_append.1 hl with hl | hl
    · exact hlater later hl
    · rw [List.mem_singleton.1 hl, h]
  · intro hall before bounding after he hbounds hlater
    rcases List.eq_nil_or_concat after with rfl | ⟨after, last, rfl⟩
    · have hlast : facets = bounding := by simpa using congrArg List.getLast? he
      exact absurd (hlast ▸ h) hbounds
    · rw [List.concat_eq_append, ← List.cons_append, ← List.append_assoc] at he
      obtain ⟨rfl, -⟩ := List.append_inj' he rfl
      exact hall before bounding after rfl hbounds fun later hl => hlater later (by simp [hl])

theorem restatesLengths_concat_of_bounds (h : lengths facets ≠ (none, none)) :
    RestatesLengths (steps ++ [facets]) ↔
      ((lengths facets).1 = none → (effectiveRange steps).least = 0) ∧
        ((lengths facets).2 = none → (effectiveRange steps).greatest = none) := by
  constructor
  · exact fun hall => hall steps facets [] rfl h nofun
  · intro hopen before bounding after he hbounds hlater
    rcases List.eq_nil_or_concat after with rfl | ⟨after, last, rfl⟩
    · obtain ⟨rfl, hlast⟩ := List.append_inj' he rfl
      obtain rfl : facets = bounding := by simpa using hlast
      exact hopen
    · rw [List.concat_eq_append, ← List.cons_append, ← List.append_assoc] at he
      obtain ⟨-, hlast⟩ := List.append_inj' he rfl
      obtain rfl : facets = last := by simpa using hlast
      exact absurd (hlater facets (by simp)) h

/-- Combined ranges allow every length that the bounds apart allow, and no other exactly if the last
step that bounds lengths restates the bounds that the steps before it have set. -/
theorem length_ranges_agree_iff (steps : List (List Facet)) (type : Primitive) :
    let combined := lengthRange .ranges (layered steps type .ranges)
    let apart := lengthRange .all (layered steps type .all)
    (∀ length, apart.Allows length → combined.Allows length) ∧
      (combined = apart ↔ RestatesLengths steps) := by
  dsimp only
  rw [lengthRange_layered_all]
  induction steps using List.reverseRecOn with
  | nil => exact ⟨fun _ => id, fun _ before _ _ h => by simp at h, fun _ => rfl⟩
  | append_singleton steps facets ih =>
    rw [lengthRange_layered_ranges_concat, effectiveRange_concat]
    by_cases h : lengths facets = (none, none)
    · rw [if_pos h, restatesLengths_concat_of_none h, h]
      exact ih
    · rw [if_neg h, restatesLengths_concat_of_bounds h]
      rcases hfacets : lengths facets with ⟨least, greatest⟩
      refine ⟨fun length ⟨hleast, hgreatest⟩ => ⟨?_, fun n hn => hgreatest n ?_⟩, ?_⟩
      · cases least with
        | none => exact Nat.zero_le length
        | some n => exact hleast
      · rw [show greatest = some n from hn]
        rfl
      · rw [LengthRange.mk.injEq]
        refine and_congr ?_ ?_
        · cases least <;> simp [eq_comm]
        · cases greatest <;> simp [eq_comm]

/-- A step that sets the greatest length only gives up the least one that it inherits, if the two
are told together. -/
theorem least_length_lost :
    let steps := [[Facet.minLength 2], [.maxLength 10]]
    lengthRange .all (layered steps .string .all) = ⟨2, some 10⟩ ∧
      lengthRange .ranges (layered steps .string .ranges) = ⟨0, some 10⟩ := by
  decide

end XmlTypes
