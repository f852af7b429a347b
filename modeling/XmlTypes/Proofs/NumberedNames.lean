import Mathlib.Data.Set.List
import XmlTypes.Proofs.FreshNames
/-!
# Numbered names

A new node tries names one after the other: the candidate, then the candidate with the numbers from
one on behind it (`attempt`). A name is free if the table of the output namespace does not have it,
as it is written, and, for a node without a name in the schema, if no name like it in lower case is
reserved in the XML namespace (`Graph.IsFree`). No two attempts are alike in lower case, so of those
that are not free there are at most as many as there are names in the table and reservations. Within
that many numbers the search ends, with the smallest that makes the name free
(`Graph.uniqueTypeName_isLeast`).
-/

namespace XmlTypes

/-! ## Attempts -/

/-- The name that is tried after `k` others. -/
def attempt (candidate : String) : (k : Nat) → String
  | 0 => candidate
  | k + 1 => suffixed candidate (k + 1)

theorem attempt_of_pos (candidate : String) {k : Nat} (hk : 0 < k) :
    attempt candidate k = suffixed candidate k := by
  obtain ⟨j, rfl⟩ := Nat.exists_eq_add_one.2 hk
  rfl

theorem suffixed_ne_self (base : String) (k : Nat) : suffixed base k ≠ base := by
  intro h
  have hlist := congrArg String.toList h
  rw [toList_suffixed, List.append_right_eq_self] at hlist
  exact Nat.toDigits_ne_nil hlist

theorem attempt_injective (candidate : String) : Function.Injective (attempt candidate) := by
  intro i j h
  cases i with
  | zero =>
    cases j with
    | zero => rfl
    | succ j => exact absurd h.symm (suffixed_ne_self candidate (j + 1))
  | succ i =>
    cases j with
    | zero => exact absurd h (suffixed_ne_self candidate (i + 1))
    | succ j => exact suffixed_injective candidate h

theorem Text.lower_attempt (candidate : String) (k : Nat) :
    lower (attempt candidate k) = attempt (lower candidate) k := by
  cases k with
  | zero => rfl
  | succ k => exact lower_suffixed candidate (k + 1)

theorem Text.lower_attempt_injective (candidate : String) :
    Function.Injective fun k => lower (attempt candidate k) := by
  intro i j h
  simp only [lower_attempt] at h
  exact attempt_injective _ h

/-- There are as many names in use as attempts that fail, where `f` tells the attempts apart. -/
theorem le_length_of_attempts {α : Type} {taken : String → Bool} {candidate : String}
    {f : String → α} (hf : Function.Injective fun k => f (attempt candidate k)) {used : List α}
    (hused : ∀ {name}, taken name = true → f name ∈ used) {k : Nat}
    (hcandidate : taken candidate = true)
    (hbefore : ∀ i, 0 < i → i < k → taken (suffixed candidate i) = true) : k ≤ used.length := by
  have hmem : ∀ i ∈ List.range k, f (attempt candidate i) ∈ used := by
    intro i hi
    refine hused ?_
    rcases Nat.eq_zero_or_pos i with rfl | hpos
    · exact hcandidate
    · rw [attempt_of_pos candidate hpos]
      exact hbefore i hpos (List.mem_range.1 hi)
  calc
    k = (List.range k).length := List.length_range.symm
    _ ≤ used.length := length_le_of_mem hf List.nodup_range hmem

/-! ## Reservations -/

namespace Build.Reserved

open Schema

variable {reservations : List (QName × String)} {uri : Option String} {name : String}

/-- The reserved names for constructs with these output names. -/
def ofNames (reservations : List (QName × String)) : Reserved :=
  ⟨reservations.map fun r => entry r.1 r.2⟩

theorem contains_ofNames_eq_false : (ofNames reservations).contains uri name = false ↔
    ∀ r ∈ reservations, r.1.uriText = uri.getD "" → Text.lower r.2 ≠ Text.lower name := by
  simp [contains, ofNames, entry]

/-- How many names are reserved in a namespace, each as often as it is. -/
theorem length_namesIn_ofNames : ((ofNames reservations).namesIn uri).length =
    reservations.countP fun r => r.1.uriText = uri.getD "" := by
  rw [namesIn, ofNames, List.length_map, List.filter_map, List.length_map,
    ← List.countP_eq_length_filter]
  rfl

/-- The reserved names of a schema are of this form. -/
theorem exists_ofNames (set : SchemaSet) (naming : Naming) (interfaces : Bool) :
    ∃ reservations, ofSet set naming interfaces = ofNames reservations := by
  have hentry : ∀ e ∈ (ofSet set naming interfaces).names, ∃ r : QName × String,
      entry r.1 r.2 = e := by
    intro e he
    obtain ⟨d, -, he⟩ := List.mem_flatMap.1 he
    rcases List.mem_append.1 he with he | he
    · obtain ⟨t, -, he⟩ := List.mem_flatMap.1 he
      cases t with
      | complex t =>
        obtain ⟨q, -, rfl⟩ := List.mem_map.1 he
        exact ⟨(q, _), rfl⟩
      | simple t =>
        obtain ⟨q, -, he⟩ := List.mem_flatMap.1 he
        rcases List.mem_pair.1 he with rfl | rfl <;> exact ⟨(q, _), rfl⟩
    · split at he
      · rcases List.mem_append.1 he with he | he
        all_goals
          obtain ⟨g, -, rfl⟩ := List.mem_map.1 he
          exact ⟨(g.name, _), rfl⟩
      · cases he
  obtain ⟨reservations, h⟩ : (ofSet set naming interfaces).names ∈
      Set.range (List.map fun r : QName × String => entry r.1 r.2) := by
    rw [Set.range_list_map]
    exact hentry
  exact ⟨reservations, congrArg Reserved.mk h.symm⟩

end Build.Reserved

/-! ## Free names -/

namespace Graph

open Build

/-- A name that a new node can have: there is none in the output namespace that is written the same
and, if the node has no name in the schema, none is reserved in the XML namespace that is the same
in lower case. -/
def IsFree (g : Graph) (reservations : List (QName × String)) (space : String)
    (uri : Option String) (anonymous : Bool) (name : String) : Prop :=
  name ∉ (g.typesIn space).keys ∧ (anonymous = true →
    ∀ r ∈ reservations, r.1.uriText = uri.getD "" → Text.lower r.2 ≠ Text.lower name)

instance (g : Graph) (reservations : List (QName × String)) (space : String)
    (uri : Option String) (anonymous : Bool) (name : String) :
    Decidable (g.IsFree reservations space uri anonymous name) :=
  inferInstanceAs (Decidable (_ ∧ _))

section
variable (g : Graph) (reservations : List (QName × String)) (space : String)
  (uri : Option String) (anonymous : Bool)

theorem isTaken_eq_false_iff {name : String} :
    g.isTaken (.ofNames reservations) space uri anonymous name = false ↔
      g.IsFree reservations space uri anonymous name := by
  have htable : (g.typesIn space).contains name = false ↔ name ∉ (g.typesIn space).keys := by
    rw [← Bool.not_eq_true, Table.contains_iff_mem_keys]
  rw [isTaken, Bool.or_eq_false_iff, Bool.and_eq_false_imp, htable,
    Reserved.contains_ofNames_eq_false]
  rfl

theorem length_obstacles_ofNames :
    (g.obstacles (.ofNames reservations) space uri anonymous).length = (g.typesIn space).size +
      if anonymous then reservations.countP fun r => r.1.uriText = uri.getD "" else 0 := by
  rw [obstacles, List.length_append, List.length_map, Table.keys, List.length_map, Table.size]
  cases anonymous with
  | false => rfl
  | true => rw [if_pos rfl, if_pos rfl, Reserved.length_namesIn_ofNames]

end

/-- The name of a new node, for any graph and any reserved names: the search from the candidate on
ends, and ends with it. It is the candidate if that is free, and otherwise the candidate followed by
the smallest positive number that makes it free. The number is not larger than the number of names
in the output namespace and, for a node without a name in the schema, of reservations in the XML
namespace. -/
theorem uniqueTypeName_isLeast (g : Graph) (reservations : List (QName × String))
    (space candidate : String) (uri : Option String) (anonymous : Bool) :
    let reserved := Reserved.ofNames reservations
    let name := g.uniqueTypeName reserved space candidate uri anonymous
    let free := g.IsFree reservations space uri anonymous
    (∀ result, NameSearch (g.isTaken reserved space uri anonymous) candidate candidate 1 result ↔
      result = name) ∧
    (free candidate → name = candidate) ∧
    (¬ free candidate → ∃ k, name = suffixed candidate k ∧
      IsLeast {k | 0 < k ∧ free (suffixed candidate k)} k ∧
      k ≤ (g.typesIn space).size +
        if anonymous then reservations.countP fun r => r.1.uriText = uri.getD "" else 0) := by
  intro reserved name free
  have hfresh : IsFresh (g.isTaken reserved space uri anonymous) candidate name :=
    g.uniqueTypeName_isFresh reserved space candidate uri anonymous
  have hfree : ∀ s, g.isTaken reserved space uri anonymous s = false ↔ free s := fun _ =>
    g.isTaken_eq_false_iff reservations space uri anonymous
  refine ⟨fun result => hfresh.search_iff, fun h => hfresh.first ((hfree _).2 h), fun h => ?_⟩
  rw [← hfree, Bool.not_eq_false] at h
  obtain ⟨k, hname, hleast⟩ := hfresh.later h
  refine ⟨k, hname, ?_, ?_⟩
  · simpa only [hfree] using hleast
  · rw [← length_obstacles_ofNames]
    exact le_length_of_attempts (Text.lower_attempt_injective candidate)
      (g.lower_mem_obstacles reserved space uri anonymous) h fun _ => taken_of_lt hleast

/-- A name that ends with a sigma, in lower case too and with a number behind it. The first number
is reserved, in another case; the second makes a name that another XML namespace reserves and that
the table has in another case, and neither matters. -/
theorem uniqueTypeName_isLeast_sigma :
    let g : Graph :=
      { namespaces := ⟨[("T", { key := default, types := ⟨[("ΟΔΟΣ", 0), ("οδος2", 1)]⟩ })]⟩ }
    let reservations : List (QName × String) :=
      [(⟨some "urn:t", "a"⟩, "Οδος1"), (⟨some "urn:b", "b"⟩, "ΟΔΟΣ2")]
    let free := g.IsFree reservations "T" (some "urn:t") true
    g.uniqueTypeName (.ofNames reservations) "T" "οδος" (some "urn:t") true = "οδος" ∧
      free "οδος" ∧
      g.uniqueTypeName (.ofNames reservations) "T" "ΟΔΟΣ" (some "urn:t") true = "ΟΔΟΣ2" ∧
      ¬ free "ΟΔΟΣ" ∧ IsLeast {k | 0 < k ∧ free (suffixed "ΟΔΟΣ" k)} 2 := by
  intro g reservations free
  have hfree : free "οδος" := by decide +kernel
  have htaken : ¬ free "ΟΔΟΣ" := by decide +kernel
  have hname : g.uniqueTypeName (.ofNames reservations) "T" "ΟΔΟΣ" (some "urn:t") true =
      suffixed "ΟΔΟΣ" 2 := by decide +kernel
  obtain ⟨-, hcandidate, -⟩ := g.uniqueTypeName_isLeast reservations "T" "οδος" (some "urn:t") true
  obtain ⟨-, -, hnumber⟩ := g.uniqueTypeName_isLeast reservations "T" "ΟΔΟΣ" (some "urn:t") true
  obtain ⟨k, hk, hleast, -⟩ := hnumber htaken
  obtain rfl : k = 2 := suffixed_injective _ (hk.symm.trans hname)
  exact ⟨hcandidate hfree, hfree, hname, htaken, hleast⟩

end Graph

end XmlTypes
