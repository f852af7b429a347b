import Mathlib.Data.List.Nodup
import Mathlib.Data.List.Perm.Subperm
import Mathlib.Order.Bounds.Defs
import XmlTypes.Build.State
import XmlTypes.Proofs.Tables
/-!
# Fresh names

A candidate that is taken gets the smallest number that makes it free (`IsFresh`). Among one more
numbers than there are names in use one is free (`firstFree_eq`), as numbers keep names apart, also
in lower case: digits have no case, and a sigma before a digit is at the end of a word whatever the
digit is (`Text.lower_suffixed`). So a new name of a type is free in its namespace, and for a node
without a name in the schema it is not reserved either (`Graph.uniqueTypeName_free`).
-/

namespace XmlTypes

/-! ## Numbers behind names -/

theorem toList_suffixed (base : String) (k : Nat) :
    (suffixed base k).toList = base.toList ++ Nat.toDigits 10 k := by
  rw [suffixed, String.toList_append, Nat.toString_eq_ofList_toDigits, String.toList_ofList]

theorem suffixed_injective (base : String) : Function.Injective (suffixed base) := by
  intro i j h
  have hlist := congrArg String.toList h
  rw [toList_suffixed, toList_suffixed] at hlist
  calc
    i = Nat.ofDigitChars 10 (Nat.toDigits 10 i) 0 := Nat.ofDigitChars_ten_toDigits.symm
    _ = Nat.ofDigitChars 10 (Nat.toDigits 10 j) 0 := by rw [List.append_cancel_left hlist]
    _ = j := Nat.ofDigitChars_ten_toDigits

namespace Text

/-- What holds of the ten digits holds of every digit. -/
theorem forall_digit {P : Char → Prop} [DecidablePred P]
    (h : "0123456789".toList.all (fun c => P c) = true) {c : Char} (hc : c.isDigit = true) :
    P c := by
  refine of_decide_eq_true (List.all_eq_true.1 h c ?_)
  have hbounds : 48 ≤ c.toNat ∧ c.toNat < 58 := by
    simp only [Char.isDigit, Bool.and_eq_true, decide_eq_true_eq] at hc
    exact ⟨hc.1, Nat.lt_succ_of_le hc.2⟩
  have htable : ∀ n < 58, 48 ≤ n → Char.ofNat n ∈ "0123456789".toList := by decide
  simpa using htable c.toNat hbounds.2 hbounds.1

theorem lowerChar_digit {c : Char} (hc : c.isDigit = true) : lowerChar c = [c] :=
  forall_digit (P := fun c => lowerChar c = [c]) (by decide) hc

theorem ne_sigma_of_digit {c : Char} (hc : c.isDigit = true) : c ≠ 'Σ' :=
  forall_digit (P := (· ≠ 'Σ')) (by decide) hc

/-- A digit is the end of a word. -/
theorem meetsCased_append_digit (cs ds : List Char) {d : Char} (hd : d.isDigit = true) :
    meetsCased (cs ++ d :: ds) = meetsCased cs := by
  have hignored : isCaseIgnorable d = false :=
    forall_digit (P := fun d => isCaseIgnorable d = false) (by decide) hd
  have hcased : isCased d = false :=
    forall_digit (P := fun d => isCased d = false) (by decide) hd
  unfold meetsCased
  rw [List.dropWhile_append]
  cases hrest : cs.dropWhile isCaseIgnorable with
  | nil => simp [hignored, hcased]
  | cons c rest => simp

theorem lowerFrom_digits (before ds : List Char) (hds : ∀ d ∈ ds, d.isDigit = true) :
    lowerFrom before ds = ds := by
  induction ds generalizing before with
  | nil => rfl
  | cons d ds ih =>
    have hd := hds d List.mem_cons_self
    rw [lowerFrom, if_neg (ne_sigma_of_digit hd), lowerChar_digit hd,
      ih _ fun e he => hds e (List.mem_cons_of_mem d he)]
    rfl

theorem lowerFrom_append_digits (before cs ds : List Char) (hne : ds ≠ [])
    (hds : ∀ d ∈ ds, d.isDigit = true) :
    lowerFrom before (cs ++ ds) = lowerFrom before cs ++ ds := by
  induction cs generalizing before with
  | nil => simpa [lowerFrom] using lowerFrom_digits before ds hds
  | cons c cs ih =>
    obtain ⟨d, rest, rfl⟩ := List.exists_cons_of_ne_nil hne
    have hend := meetsCased_append_digit cs rest (hds d List.mem_cons_self)
    rw [List.cons_append, lowerFrom, lowerFrom, ih, lowerSigma, lowerSigma, hend,
      List.append_assoc]

/-- The number behind a name stays as it is in lower case. -/
theorem lower_suffixed (base : String) (k : Nat) :
    lower (suffixed base k) = suffixed (lower base) k := by
  have hdigits : ∀ d ∈ Nat.toDigits 10 k, d.isDigit = true := fun d hd =>
    Nat.isDigit_of_mem_toDigits (by decide) (by decide) hd
  refine String.toList_injective ?_
  rw [toList_suffixed, lower, lower, String.toList_ofList, String.toList_ofList, toList_suffixed,
    lowerFrom_append_digits _ _ _ Nat.toDigits_ne_nil hdigits]

theorem lower_suffixed_injective (base : String) :
    Function.Injective fun k => lower (suffixed base k) := by
  intro i j h
  simp only [lower_suffixed] at h
  exact suffixed_injective _ h

end Text

/-! ## The first free name -/

/-- All names before the one that is found are taken, and so is that one only if no fuel is left. -/
theorem firstFree_search (taken : String → Bool) (base : String) (fuel k : Nat) :
    ∃ j, k ≤ j ∧ j ≤ k + fuel ∧ firstFree taken base fuel k = suffixed base j ∧
      (∀ i, k ≤ i → i < j → taken (suffixed base i) = true) ∧
      (j < k + fuel → taken (suffixed base j) = false) := by
  induction fuel generalizing k with
  | zero => exact ⟨k, Nat.le_refl k, Nat.le_refl k, rfl, by omega, by omega⟩
  | succ fuel ih =>
    cases ht : taken (suffixed base k) with
    | false => exact ⟨k, Nat.le_refl k, by omega, by simp [firstFree, ht], by omega, fun _ => ht⟩
    | true =>
      obtain ⟨j, hk, hj, heq, hbefore, hfree⟩ := ih (k + 1)
      refine ⟨j, by omega, by omega, by simp [firstFree, ht, heq], fun i hi hij => ?_,
        fun h => hfree (by omega)⟩
      rcases Nat.eq_or_lt_of_le hi with rfl | hi
      · exact ht
      · exact hbefore i hi hij

/-- Things that are in use and told apart by `f` are at most as many as all that is in use. -/
theorem length_le_of_mem {α : Type} {f : Nat → α} (hf : Function.Injective f) {used : List α}
    {numbers : List Nat} (hnodup : numbers.Nodup) (h : ∀ i ∈ numbers, f i ∈ used) :
    numbers.length ≤ used.length := by
  have hsub : numbers.map f ⊆ used := by
    intro a ha
    obtain ⟨i, hi, rfl⟩ := List.mem_map.1 ha
    exact h i hi
  calc
    numbers.length = (numbers.map f).length := (List.length_map f).symm
    _ ≤ used.length := ((hnodup.map hf).subperm hsub).length_le

/-- The first free name is the one with the smallest number that is free, if there are at most as
many taken names as there is fuel: `f` tells the taken ones apart. -/
theorem firstFree_eq {α : Type} {taken : String → Bool} {base : String} {fuel : Nat} (f : Nat → α)
    (used : List α) (hf : Function.Injective f)
    (hused : ∀ i, taken (suffixed base i) = true → f i ∈ used) (hfuel : used.length ≤ fuel)
    (k : Nat) : ∃ j, k ≤ j ∧ firstFree taken base fuel k = suffixed base j ∧
      taken (suffixed base j) = false ∧ ∀ i, k ≤ i → i < j → taken (suffixed base i) = true := by
  obtain ⟨j, hk, hj, heq, hbefore, hfree⟩ := firstFree_search taken base fuel k
  refine ⟨j, hk, heq, ?_, hbefore⟩
  rcases Nat.lt_or_ge j (k + fuel) with hlt | hge
  · exact hfree hlt
  -- Otherwise there would be more taken names than names in use.
  · rw [Bool.eq_false_iff]
    intro ht
    obtain rfl : j = k + fuel := Nat.le_antisymm hj hge
    have hmem : ∀ i ∈ List.range' k (fuel + 1), f i ∈ used := by
      intro i hi
      obtain ⟨hki, hlt⟩ := List.mem_range'_1.1 hi
      refine hused i ?_
      rcases Nat.eq_or_lt_of_le (Nat.le_of_lt_succ hlt) with rfl | hlt
      · exact ht
      · exact hbefore i hki hlt
    have hlen := length_le_of_mem hf List.nodup_range' hmem
    rw [List.length_range'] at hlen
    omega

/-- `name` is the candidate or, if that is taken, the candidate followed by the smallest positive
number that makes it free. -/
structure IsFresh (taken : String → Bool) (candidate name : String) : Prop where
  first : taken candidate = false → name = candidate
  later : taken candidate = true → ∃ k, name = suffixed candidate k ∧
    IsLeast {k | 0 < k ∧ taken (suffixed candidate k) = false} k

/-- From `name` on, with the number `k` to be tried next, the search for a free name comes to its
end with `result`. -/
inductive NameSearch (taken : String → Bool) (candidate : String) : String → Nat → String → Prop
  | free {name : String} {k : Nat} (hfree : taken name = false) :
    NameSearch taken candidate name k name
  | next {name result : String} {k : Nat} (htaken : taken name = true)
    (hrest : NameSearch taken candidate (suffixed candidate k) (k + 1) result) :
    NameSearch taken candidate name k result

section
variable {taken : String → Bool} {candidate name result result' : String} {k : Nat}

/-- With as much fuel as there are taken names a fresh name is found. -/
theorem fresh_isFresh {α : Type} {limit : Nat} (f : Nat → α) (used : List α)
    (hf : Function.Injective f)
    (hused : ∀ i, taken (suffixed candidate i) = true → f i ∈ used)
    (hlimit : used.length ≤ limit) : IsFresh taken candidate (fresh taken limit candidate) where
  first hfree := by rw [fresh, if_neg (Bool.eq_false_iff.1 hfree)]
  later htaken := by
    obtain ⟨j, hj, heq, hfree, hbefore⟩ := firstFree_eq f used hf hused hlimit 1
    refine ⟨j, by rw [fresh, if_pos htaken, heq], ⟨hj, hfree⟩, fun i ⟨hi, hifree⟩ => ?_⟩
    by_contra hlt
    rw [hbefore i hi (Nat.lt_of_not_le hlt)] at hifree
    cases hifree

/-- A number before the smallest that makes a name free makes one that is taken. -/
theorem taken_of_lt (h : IsLeast {k | 0 < k ∧ taken (suffixed candidate k) = false} k) {i : Nat}
    (hpos : 0 < i) (hlt : i < k) : taken (suffixed candidate i) = true := by
  rw [← Bool.not_eq_false]
  exact fun hfree => Nat.not_le_of_lt hlt (h.2 ⟨hpos, hfree⟩)

theorem IsFresh.free (h : IsFresh taken candidate name) : taken name = false := by
  cases hcandidate : taken candidate with
  | false => rw [h.first hcandidate, hcandidate]
  | true =>
    obtain ⟨k, rfl, hleast⟩ := h.later hcandidate
    exact hleast.1.2

/-- Where a search for a name ends is determined. -/
theorem NameSearch.unique (h : NameSearch taken candidate name k result)
    (h' : NameSearch taken candidate name k result') : result = result' := by
  induction h with
  | free hfree =>
    cases h' with
    | free => rfl
    | next htaken => exact absurd (hfree.symm.trans htaken) Bool.noConfusion
  | next htaken _ ih =>
    cases h' with
    | free hfree => exact absurd (hfree.symm.trans htaken) Bool.noConfusion
    | next _ hrest => exact ih hrest

/-- The search from the candidate on ends with the fresh name. -/
theorem IsFresh.search (h : IsFresh taken candidate name) :
    NameSearch taken candidate candidate 1 name := by
  cases hcandidate : taken candidate with
  | false =>
    rw [h.first hcandidate]
    exact .free hcandidate
  | true =>
    obtain ⟨k, rfl, hleast⟩ := h.later hcandidate
    have hfrom (d : Nat) : ∀ j, 0 < j → j + d = k →
        NameSearch taken candidate (suffixed candidate j) (j + 1) (suffixed candidate k) := by
      induction d with
      | zero =>
        rintro j - rfl
        exact .free hleast.1.2
      | succ d ih =>
        intro j hj hk
        have htaken := taken_of_lt hleast hj (by omega)
        exact .next htaken (ih (j + 1) (Nat.succ_pos j) (by omega))
    have hk : 0 < k := hleast.1.1
    exact .next hcandidate (hfrom (k - 1) 1 Nat.one_pos (by omega))

theorem IsFresh.search_iff (h : IsFresh taken candidate name) :
    NameSearch taken candidate candidate 1 result ↔ result = name :=
  ⟨fun hsearch => hsearch.unique h.search, fun heq => heq ▸ h.search⟩

end

/-! ## Names of types -/

namespace Build.Reserved

/-- The names that are reserved for constructs of the namespace, in lower case. -/
def namesIn (r : Reserved) (uri : Option String) : List String :=
  (r.names.filter fun e => e.1 = uri.getD "").map (·.2)

theorem contains_iff {r : Reserved} {uri : Option String} {name : String} :
    r.contains uri name = true ↔ Text.lower name ∈ r.namesIn uri := by
  simp [contains, namesIn]

end Build.Reserved

namespace Graph

open Build

/-- The nodes of an output namespace by name. -/
def typesIn (g : Graph) (space : String) : Table String NodeId :=
  ((g.namespaces.get? space).map fun ns => ns.types).getD {}

theorem get?_typesIn (g : Graph) (space name : String) :
    (g.typesIn space).get? name = g.find? space name := by
  rw [typesIn, find?]
  cases g.namespaces.get? space <;> rfl

section
variable (g : Graph) (reserved : Reserved) (space candidate : String) (uri : Option String)
  (anonymous : Bool)

/-- Whether a name cannot be given to a new node. -/
def isTaken (name : String) : Bool :=
  (g.typesIn space).contains name || (anonymous && reserved.contains uri name)

theorem uniqueTypeName_eq : g.uniqueTypeName reserved space candidate uri anonymous =
    fresh (g.isTaken reserved space uri anonymous)
      ((g.typesIn space).size + reserved.names.length) candidate := rfl

/-- In lower case, the names in the way of a new node. -/
def obstacles : List String :=
  (g.typesIn space).keys.map Text.lower ++ if anonymous then reserved.namesIn uri else []

theorem lower_mem_obstacles {name : String}
    (h : g.isTaken reserved space uri anonymous name = true) :
    Text.lower name ∈ g.obstacles reserved space uri anonymous := by
  rw [isTaken, Bool.or_eq_true, Bool.and_eq_true] at h
  rcases h with htable | ⟨rfl, hreserved⟩
  · exact List.mem_append_left _ (List.mem_map_of_mem (Table.contains_iff_mem_keys.1 htable))
  · exact List.mem_append_right _ (Reserved.contains_iff.1 hreserved)

theorem length_obstacles_le : (g.obstacles reserved space uri anonymous).length ≤
    (g.typesIn space).size + reserved.names.length := by
  have hnames : (if anonymous then reserved.namesIn uri else []).length ≤
      reserved.names.length := by
    split
    · rw [Reserved.namesIn, List.length_map]
      exact List.length_filter_le _ _
    · exact Nat.zero_le _
  simpa [obstacles, Table.keys, Table.size] using hnames

/-- The name of a new type is found by the search for one that is not taken. -/
theorem uniqueTypeName_isFresh : IsFresh (g.isTaken reserved space uri anonymous) candidate
    (g.uniqueTypeName reserved space candidate uri anonymous) := by
  rw [uniqueTypeName_eq]
  exact fresh_isFresh (fun i => Text.lower (suffixed candidate i)) _
    (Text.lower_suffixed_injective candidate) (fun _ => g.lower_mem_obstacles reserved space uri _)
    (g.length_obstacles_le reserved space uri anonymous)

/-- The name of a new type is free in its namespace, and not reserved if the type has no name in
the schema. -/
theorem uniqueTypeName_free : g.isTaken reserved space uri anonymous
    (g.uniqueTypeName reserved space candidate uri anonymous) = false :=
  (g.uniqueTypeName_isFresh reserved space candidate uri anonymous).free

/-- The name is the candidate unless that is taken. -/
theorem uniqueTypeName_of_free (h : g.isTaken reserved space uri anonymous candidate = false) :
    g.uniqueTypeName reserved space candidate uri anonymous = candidate :=
  (g.uniqueTypeName_isFresh reserved space candidate uri anonymous).first h

end

end Graph

end XmlTypes
