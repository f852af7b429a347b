import XmlTypes.Proofs.FreshNames
import XmlTypes.Proofs.UpperCase
/-!
# Plain names

The names that the conventional naming gives hold no point, and do not begin with a small letter of
ASCII: words begin with a letter or number in upper case, and no upper case is or has such a letter.
What is put together from plain names, and a plain name with a number behind it, is plain.
-/

namespace XmlTypes

namespace Text

/-! ## Upper case -/

/-- A character that a plain name may begin with: no point, and no small letter of ASCII. -/
def isPlain (c : Char) : Bool := c ≠ '.' && !(0x61 ≤ c.toNat && c.toNat ≤ 0x7a)

theorem isPlain_of_ge {c : Char} (h : 0x80 ≤ c.toNat) : isPlain c = true := by
  have hne : c ≠ '.' := by
    rintro rfl
    exact absurd h (by decide)
  simp only [isPlain, hne, Bool.and_eq_true, Bool.not_eq_true', Bool.and_eq_false_iff,
    decide_eq_false_iff_not, ne_eq, not_false_eq_true, decide_true, true_and]
  omega

theorem isPlain_ofNat {n : Nat} (h : 0x2e < n) (h' : n < 0x61 ∨ 0x7a < n) :
    isPlain (Char.ofNat n) = true := by
  by_cases hn : n.isValidChar
  · have hto : (Char.ofNat n).toNat = n := toNat_ofNat hn
    have hne : Char.ofNat n ≠ '.' := by
      intro heq
      have : '.'.toNat = n := heq ▸ hto
      have hpoint : '.'.toNat = 0x2e := rfl
      omega
    simp only [isPlain, hne, hto, Bool.and_eq_true, Bool.not_eq_true', Bool.and_eq_false_iff,
      decide_eq_false_iff_not, ne_eq, not_false_eq_true, decide_true, true_and]
    omega
  · -- What is no character is written as the null character.
    rw [Char.ofNat, dif_neg hn]
    decide

theorem isPlain_image {r : CaseRun} (hr : r ∈ upperRuns) {n m : Nat} (h : r.image? n = some m) :
    isPlain (Char.ofNat m) = true := by
  have hruns : upperRuns.all (fun r => decide (0x2e < (r.first : Int) + r.shift) &&
      (decide ((r.last : Int) + r.shift < 0x61) || decide (0x7a < (r.first : Int) + r.shift))) =
      true := by decide
  have hrun := List.all_eq_true.1 hruns r hr
  simp only [Bool.and_eq_true, Bool.or_eq_true, decide_eq_true_eq] at hrun
  obtain ⟨hfirst, hlast, -, rfl⟩ := CaseRun.image?_eq_some h
  unfold CaseRun.moved
  exact isPlain_ofNat (by omega) (by omega)

theorem isPlain_of_expansion {e : Nat × List Nat} (he : e ∈ upperExpansions) :
    e.2 ≠ [] ∧ ∀ n ∈ e.2, isPlain (Char.ofNat n) = true := by
  have hall : upperExpansions.all (fun e => !e.2.isEmpty &&
      e.2.all fun n => isPlain (Char.ofNat n)) = true := by decide
  have h := List.all_eq_true.1 hall e he
  simpa using h

theorem ne_point_of_isPlain {c : Char} (h : isPlain c = true) : c ≠ '.' := by
  simp only [isPlain, Bool.and_eq_true, decide_eq_true_eq] at h
  exact h.1

theorem ne_point_of_isWordChar {c : Char} (h : isWordChar c = true) : c ≠ '.' := by
  rintro rfl
  exact absurd h (by decide)

theorem isPlain_toUpper {c : Char} (hc : c.toNat < 0x80) (hne : c ≠ '.') :
    isPlain c.toUpper = true :=
  ascii_forall (P := fun c => c ≠ '.' → isPlain c.toUpper = true) (by decide) hc hne

/-- The upper case of a letter or number is plain, and there is one. -/
theorem upper_plain {c : Char} (h : isWordChar c = true) :
    upper c ≠ [] ∧ ∀ x ∈ upper c, isPlain x = true := by
  rcases upper_cases c with
    ⟨hc, hupper⟩ | ⟨hc, ⟨e, he, -, hupper⟩ | ⟨r, hr, m, hm, hupper⟩ | hupper⟩
  · rw [hupper]
    simpa using isPlain_toUpper hc (ne_point_of_isWordChar h)
  · rw [hupper]
    simpa using isPlain_of_expansion he
  · rw [hupper]
    simpa using isPlain_image hr hm
  · rw [hupper]
    simpa using isPlain_of_ge hc

end Text

/-! ## Plain names -/

/-- A name without points that does not begin with a small letter of ASCII. -/
def Plain (s : String) : Prop :=
  '.' ∉ s.toList ∧ ∀ c ∈ s.toList.head?, Text.isPlain c = true

theorem plain_of_head {s : String} (hpoint : '.' ∉ s.toList)
    (h : s.toList.head?.all Text.isPlain = true) : Plain s :=
  ⟨hpoint, (Option.all_eq_true _ _).1 h⟩

theorem plain_empty : Plain "" := plain_of_head (by simp) rfl

theorem Plain.append {a b : String} (ha : Plain a) (hb : Plain b) : Plain (a ++ b) := by
  refine ⟨?_, ?_⟩
  · rw [String.toList_append, List.mem_append, not_or]
    exact ⟨ha.1, hb.1⟩
  · rw [String.toList_append, List.head?_append]
    intro c hc
    cases hhead : a.toList.head? with
    | none =>
      rw [hhead] at hc
      exact hb.2 c hc
    | some d =>
      rw [hhead] at hc
      exact ha.2 c (hhead ▸ hc)

/-- Names of plain characters are plain. -/
theorem plain_of_forall {s : String} (h : ∀ c ∈ s.toList, Text.isPlain c = true) : Plain s :=
  ⟨fun hc => Text.ne_point_of_isPlain (h '.' hc) rfl, fun c hc => h c (List.mem_of_mem_head? hc)⟩

theorem plain_number (k : Nat) : Plain (toString k) := by
  refine plain_of_forall fun c hc => ?_
  rw [Nat.toString_eq_ofList_toDigits, String.toList_ofList] at hc
  exact Text.forall_digit (P := fun c => Text.isPlain c = true) (by decide)
    (Nat.isDigit_of_mem_toDigits (by decide) (by decide) hc)

theorem Plain.suffixed {base : String} (h : Plain base) (k : Nat) : Plain (suffixed base k) :=
  h.append (plain_number k)

/-- Words begin in upper case, and hold letters and numbers only. -/
theorem pascalFrom_plain (atStart : Bool) (cs : List Char) :
    '.' ∉ pascalFrom atStart cs ∧
      (atStart = true → ∀ c ∈ (pascalFrom atStart cs).head?, Text.isPlain c = true) := by
  induction cs generalizing atStart with
  | nil => simp [pascalFrom]
  | cons c cs ih =>
    unfold pascalFrom
    split
    · rename_i hc
      obtain ⟨hne, hplain⟩ := Text.upper_plain hc
      have hword : '.' ∉ if atStart then Text.upper c else [c] := by
        split
        · exact fun h => Text.ne_point_of_isPlain (hplain '.' h) rfl
        · exact fun h => Text.ne_point_of_isWordChar hc (List.mem_singleton.1 h).symm
      refine ⟨List.not_mem_append hword (ih false).1, ?_⟩
      rintro rfl d hd
      rw [if_pos rfl, List.head?_append_of_ne_nil _ hne] at hd
      exact hplain d (List.mem_of_mem_head? hd)
    · exact ⟨(ih true).1, fun _ => (ih true).2 rfl⟩

theorem plain_pascalCase (s : String) : Plain (pascalCase s) := by
  obtain ⟨hpoint, hhead⟩ := pascalFrom_plain true s.toList
  unfold Plain pascalCase
  dsimp only
  rw [String.toList_ofList]
  split
  · exact ⟨by simpa using hpoint, fun c hc => by
      rw [List.head?_cons, Option.mem_some_iff] at hc
      exact hc ▸ by decide⟩
  · exact ⟨hpoint, hhead rfl⟩

end XmlTypes
