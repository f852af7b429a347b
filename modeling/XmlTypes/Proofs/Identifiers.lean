import XmlTypes.Proofs.PlainNames
/-!
# Identifiers of capitalised words

A text in capitalised words has the form of an identifier, as far as the capitals of its letters
have (`pascalCase_hasForm`): a capital of several characters may bring in marks, and two capitals
are no letters of the tables. An underscore is put before digits of ASCII only, so another number
stays in front if it is the first.
-/

namespace XmlTypes

open Text

/-! ## Capitalised words -/

/-- There are no words exactly in a text without letters and numbers. -/
theorem pascalFrom_eq_nil_iff (atStart : Bool) (cs : List Char) :
    pascalFrom atStart cs = [] ↔ ∀ c ∈ cs, isWordChar c = false := by
  induction cs generalizing atStart with
  | nil => simp [pascalFrom]
  | cons c cs ih =>
    rw [pascalFrom, List.forall_mem_cons]
    by_cases hc : isWordChar c = true
    · have hne : (if atStart then upper c else [c]) ≠ [] := by
        split
        · exact (upper_plain hc).1
        · exact List.cons_ne_nil c []
      rw [if_pos hc]
      simp [hc, hne]
    · rw [if_neg hc, ih]
      simp [hc]

/-- The first character of the words begins the upper case of the first letter or number. -/
theorem head?_pascalFrom (cs : List Char) :
    (pascalFrom true cs).head? = (cs.find? isWordChar).bind fun c => (upper c).head? := by
  induction cs with
  | nil => rfl
  | cons c cs ih =>
    rw [pascalFrom, List.find?_cons]
    by_cases hc : isWordChar c = true
    · rw [if_pos hc, if_pos rfl, List.head?_append_of_ne_nil _ (upper_plain hc).1, hc]
      rfl
    · rw [if_neg hc, ih, Bool.eq_false_iff.2 hc]

/-- A character of the words is a letter or number of the text, or in the upper case of one. -/
theorem mem_pascalFrom {atStart : Bool} {cs : List Char} {x : Char}
    (hx : x ∈ pascalFrom atStart cs) :
    ∃ c ∈ cs, isWordChar c = true ∧ (x = c ∨ x ∈ upper c) := by
  induction cs generalizing atStart with
  | nil => cases hx
  | cons c cs ih =>
    rw [pascalFrom] at hx
    split at hx
    · rename_i hc
      rcases List.mem_append.1 hx with hword | hrest
      · refine ⟨c, List.mem_cons_self, hc, ?_⟩
        split at hword
        · exact .inr hword
        · exact .inl (List.mem_singleton.1 hword)
      · obtain ⟨d, hd, h⟩ := ih hrest
        exact ⟨d, List.mem_cons_of_mem c hd, h⟩
    · obtain ⟨d, hd, h⟩ := ih hx
      exact ⟨d, List.mem_cons_of_mem c hd, h⟩

/-! ## Identifiers -/

/-- An underscore or a character that may begin an identifier comes first, if any does, and behind
at most one leading underscore there are inner characters only. -/
def HasForm (initial inner : Char → Prop) (name : String) : Prop :=
  (∀ c ∈ name.toList.head?, c = '_' ∨ initial c) ∧
    ∃ body, (name.toList = body ∨ name.toList = '_' :: body) ∧ ∀ c ∈ body, inner c

/-- The characters that upper-casing brings into a text besides letters and numbers: marks and new
capitals, from a letter of the text. -/
def RaisedIn (s : String) (x : Char) : Prop :=
  x ∈ capitalMarks ++ newCapitals ∧ ∃ c ∈ s.toList, isLetter c = true ∧ x ∈ upper c

/-- The first letter or number of the text is a number outside of ASCII. -/
def ForeignNumberFirst (s : String) : Prop :=
  ∃ c ∈ s.toList.find? isWordChar, isNumber c = true ∧ 0x80 ≤ c.toNat

theorem isDigit_of_isNumber {c : Char} (h : isNumber c = true) (hc : c.toNat < 0x80) :
    c.isDigit = true := by
  rwa [isNumber, if_pos hc] at h

/-- Whatever begins the words is a letter, one of the new capitals, a digit of ASCII, or the upper
case of a number outside of ASCII. -/
theorem initial_pascalFrom {s : String} {x : Char}
    (hx : x ∈ (pascalFrom true s.toList).head?) :
    isNumber x = false ∧ (isLetter x = true ∨ x ∈ newCapitals) ∨ x.isDigit = true ∨
      ForeignNumberFirst s := by
  rw [head?_pascalFrom, Option.mem_def, Option.bind_eq_some_iff] at hx
  obtain ⟨c, hfind, hx⟩ := hx
  have hc := List.find?_some hfind
  rw [isWordChar, Bool.or_eq_true] at hc
  rcases hc with hletter | hnumber
  · obtain ⟨y, ys, hupper, hy, -⟩ := upper_letter hletter
    rw [hupper, List.head?_cons, Option.some.injEq] at hx
    subst hx
    refine .inl ⟨?_, hy⟩
    rcases hy with hy | hy
    · exact isNumber_of_isLetter hy
    · have hnew : newCapitals.all (fun y => !isNumber y) = true := by decide +kernel
      simpa using List.all_eq_true.1 hnew y hy
  · obtain ⟨y, hupper, hy, hsame⟩ := upper_number hnumber
    rw [hupper, List.head?_cons, Option.some.injEq] at hx
    subst hx
    by_cases hlow : c.toNat < 0x80
    · rw [hsame hlow]
      exact .inr (.inl (isDigit_of_isNumber hnumber hlow))
    · exact .inr (.inr ⟨c, hfind, hnumber, by omega⟩)

/-- The words hold letters and numbers, and what upper-casing brings in. -/
theorem inner_pascalFrom {s : String} {x : Char} (hx : x ∈ pascalFrom true s.toList) :
    isWordChar x = true ∨ RaisedIn s x := by
  obtain ⟨c, hcs, hc, rfl | hx⟩ := mem_pascalFrom hx
  · exact .inl hc
  · rw [isWordChar, Bool.or_eq_true] at hc
    rcases hc with hletter | hnumber
    · obtain ⟨y, ys, hupper, hy, hys⟩ := upper_letter hletter
      have hform : isLetter x = true ∨ x ∈ capitalMarks ++ newCapitals := by
        rw [hupper, List.mem_cons] at hx
        rw [List.mem_append]
        rcases hx with rfl | hx
        · exact hy.imp_right .inr
        · exact (hys x hx).imp_right .inl
      refine hform.imp (fun h => ?_) fun h => ⟨h, c, hcs, hletter, hx⟩
      rw [isWordChar, h, Bool.true_or]
    · obtain ⟨y, hupper, hy, -⟩ := upper_number hnumber
      rw [hupper, List.mem_singleton] at hx
      rw [isWordChar, hx, hy, Bool.or_true]
      exact .inl rfl

/-- An underscore stands in front of the words exactly where they begin with a digit of ASCII. -/
theorem toList_pascalCase (s : String) :
    (∃ x ∈ (pascalFrom true s.toList).head?, x.isDigit = true ∧
      (pascalCase s).toList = '_' :: pascalFrom true s.toList) ∨
    (∀ x ∈ (pascalFrom true s.toList).head?, x.isDigit = false) ∧
      (pascalCase s).toList = pascalFrom true s.toList := by
  unfold pascalCase
  dsimp only
  rw [String.toList_ofList]
  split
  · rename_i hdigit
    obtain ⟨x, hx, hdigit⟩ := (Option.any_eq_true _ _).1 hdigit
    exact .inl ⟨x, hx, hdigit, rfl⟩
  · rename_i hdigit
    rw [Bool.not_eq_true, Option.any_eq_false] at hdigit
    exact .inr ⟨fun x hx => by simpa using hdigit x hx, rfl⟩

/-- A text in capitalised words is empty exactly when the text has no letter and no number.
Otherwise it begins with an underscore or a letter, unless a number outside of ASCII is the first
of the letters and numbers, and in no case with a digit of ASCII; behind at most one leading
underscore come letters, numbers, and what the capitals of letters have besides. -/
theorem pascalCase_hasForm (s : String) :
    (pascalCase s = "" ↔ ∀ c ∈ s.toList, isWordChar c = false) ∧
    HasForm (fun x => isLetter x = true ∨ x ∈ newCapitals ∨ ForeignNumberFirst s)
      (fun x => isWordChar x = true ∨ RaisedIn s x) (pascalCase s) ∧
    ∀ x ∈ (pascalCase s).toList.head?, isNumber x = true →
      x.isDigit = false ∧ ForeignNumberFirst s := by
  rw [← pascalFrom_eq_nil_iff true, ← String.toList_eq_nil_iff]
  unfold HasForm
  rcases toList_pascalCase s with ⟨x, hx, -, hlist⟩ | ⟨hdigit, hlist⟩
  · have hne : pascalFrom true s.toList ≠ [] := by
      intro hnil
      rw [hnil] at hx
      cases hx
    rw [hlist, List.head?_cons]
    refine ⟨by simp [hne], ⟨fun y hy => .inl (Option.some.inj hy).symm,
      _, .inr rfl, fun y => inner_pascalFrom⟩, ?_⟩
    intro y hy hnumber
    obtain rfl := Option.some.inj hy
    exact absurd hnumber (by decide +kernel)
  · rw [hlist]
    refine ⟨Iff.rfl, ⟨fun y hy => .inr ?_, _, .inl rfl, fun y => inner_pascalFrom⟩, ?_⟩
    · rcases initial_pascalFrom hy with ⟨-, hletter | hnew⟩ | hascii | hforeign
      · exact .inl hletter
      · exact .inr (.inl hnew)
      · rw [hdigit y hy] at hascii
        cases hascii
      · exact .inr (.inr hforeign)
    · intro y hy hnumber
      refine ⟨hdigit y hy, ?_⟩
      rcases initial_pascalFrom hy with ⟨hno, -⟩ | hascii | hforeign
      · rw [hno] at hnumber
        cases hnumber
      · rw [hdigit y hy] at hascii
        cases hascii
      · exact hforeign

/-- The capital of `ǰ` has a mark behind it, an Arabic digit keeps its place at the beginning, and
the capital of `ꟓ` is no letter yet: none of the three texts becomes an identifier of letters and
numbers only that a letter or an underscore begins. -/
theorem not_hasForm_pascalCase : ¬ HasForm (isLetter ·) (isWordChar ·) (pascalCase "ǰ") ∧
    ¬ HasForm (isLetter ·) (isWordChar ·) (pascalCase "٣") ∧
    ¬ HasForm (isLetter ·) (isWordChar ·) (pascalCase "ꟓ") := by
  have hmark : (pascalCase "ǰ").toList = ['J', '\u030c'] := by decide +kernel
  have hdigit : (pascalCase "٣").toList = ['٣'] := by decide +kernel
  have hnew : (pascalCase "ꟓ").toList = ['\ua7d2'] := by decide +kernel
  unfold HasForm
  rw [hmark, hdigit, hnew]
  refine ⟨?_, ?_, ?_⟩
  · rintro ⟨-, body, rfl | hbody, hall⟩
    · exact absurd (hall '\u030c' (by simp)) (by decide +kernel)
    · cases hbody
  · rintro ⟨hhead, -⟩
    exact absurd (hhead '٣' rfl) (by decide +kernel)
  · rintro ⟨hhead, -⟩
    exact absurd (hhead '\ua7d2' rfl) (by decide +kernel)

end XmlTypes
