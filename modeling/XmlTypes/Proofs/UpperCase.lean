import XmlTypes.Text.Case
import XmlTypes.Text.Letters
/-!
# The upper case of letters and numbers

The upper case of a letter begins with a letter, and what may follow it are letters and a few
marks; the upper case of a number is one number. Both are read off the tables range by range: a
run of the upper-case mapping has its image inside one range of letters, or holds no letter at all,
and only two runs that jump over code points are followed point by point.

Two capitals are letters of a later edition of the character database than the sets of letters
here are drawn from, although their small forms are letters already.
-/

namespace XmlTypes.Text

/-! ## Cases of the upper-case mapping -/

theorem toNat_ofNat {n : Nat} (h : n.isValidChar) : (Char.ofNat n).toNat = n := by
  rw [Char.ofNat, dif_pos h]
  rfl

/-- What holds of all code points below U+0080 holds of their characters. -/
theorem ascii_forall {P : Char → Prop} (h : ∀ n < 0x80, P (Char.ofNat n)) {c : Char}
    (hc : c.toNat < 0x80) : P c := by
  have hP := h c.toNat hc
  rwa [Char.ofNat_toNat] at hP

/-- A character of ASCII is raised there; another is listed with an expansion, moved by a run, or
its own upper case. -/
theorem upper_cases (c : Char) :
    (c.toNat < 0x80 ∧ upper c = [c.toUpper]) ∨ 0x80 ≤ c.toNat ∧
      ((∃ e ∈ upperExpansions, e.1 = c.toNat ∧ upper c = e.2.map Char.ofNat) ∨
        (∃ r ∈ upperRuns, ∃ m, r.image? c.toNat = some m ∧ upper c = [Char.ofNat m]) ∨
        upper c = [c]) := by
  unfold upper
  split
  · rename_i hc
    exact .inl ⟨hc, rfl⟩
  · rename_i hc
    refine .inr ⟨by omega, ?_⟩
    split
    · rename_i e he
      have hkey := List.find?_some he
      rw [beq_iff_eq] at hkey
      exact .inl ⟨e, List.mem_of_find?_eq_some he, hkey, rfl⟩
    · unfold mapRuns
      split
      · rename_i m hm
        obtain ⟨r, hr, hm⟩ := List.exists_of_findSome?_eq_some hm
        exact .inr (.inl ⟨r, hr, m, hm, rfl⟩)
      · exact .inr (.inr rfl)

/-! ## Sets of characters by their ranges -/

namespace Ranges

/-- Whether one range of `rs` holds all code points from `low` to `high`. The bounds are compared
by `Nat.ble`, which evaluates fast on whole tables. -/
def covers (rs : Ranges) (low high : Nat) : Bool :=
  rs.any fun r => r.1.ble low && high.ble r.2

/-- Whether no range of `rs` holds a code point from `low` to `high`. -/
def misses (rs : Ranges) (low high : Nat) : Bool :=
  rs.all fun r => high.blt r.1 || r.2.blt low

variable {rs : Ranges} {low high : Nat} {c : Char}

theorem contains_iff : rs.contains c = true ↔ ∃ r ∈ rs, r.1 ≤ c.toNat ∧ c.toNat ≤ r.2 := by
  simp only [contains, List.any_eq_true, Bool.and_eq_true, decide_eq_true_eq]

theorem contains_of_covers (h : rs.covers low high = true) (hlow : low ≤ c.toNat)
    (hhigh : c.toNat ≤ high) : rs.contains c = true := by
  obtain ⟨r, hr, hin⟩ := List.any_eq_true.1 h
  simp only [Bool.and_eq_true, Nat.ble_eq] at hin
  exact contains_iff.2 ⟨r, hr, by omega, by omega⟩

theorem contains_append (rs rs' : Ranges) (c : Char) :
    contains (rs ++ rs') c = (rs.contains c || rs'.contains c) :=
  List.any_append

theorem contains_eq_false (rs : Ranges) (h : ∀ r ∈ rs, c.toNat < r.1 ∨ r.2 < c.toNat) :
    rs.contains c = false := by
  rw [← Bool.not_eq_true, contains_iff]
  rintro ⟨r, hr, hin⟩
  have hout := h r hr
  omega

theorem not_contains_of_misses (h : rs.misses low high = true) (hlow : low ≤ c.toNat)
    (hhigh : c.toNat ≤ high) : rs.contains c = false := by
  refine contains_eq_false rs fun r hr => ?_
  have hout := List.all_eq_true.1 h r hr
  simp only [Bool.or_eq_true, Nat.blt_eq] at hout
  omega

/-- A set in three blocks is looked up in the block of the code point, and a character of ASCII
may as well be tested by what the set has of ASCII. -/
theorem contains_blocks {ascii : Char → Bool} {first second third : Ranges}
    (hascii : ∀ n < 0x80, ascii (Char.ofNat n) = first.contains (Char.ofNat n))
    (hfirst : ∀ r ∈ first, r.2 < 0x1000) (hsecond : ∀ r ∈ second, 0x1000 ≤ r.1 ∧ r.2 < 0x10000)
    (hthird : ∀ r ∈ third, 0x10000 ≤ r.1) (c : Char) :
    (first ++ second ++ third).contains c =
      if c.toNat < 0x80 then ascii c
      else if c.toNat < 0x1000 then first.contains c
      else if c.toNat < 0x10000 then second.contains c
      else third.contains c := by
  -- In each case the blocks on the other sides of the code point are left out.
  rw [contains_append, contains_append]
  by_cases hc : c.toNat < 0x1000
  · rw [contains_eq_false second fun r hr => .inl (by have := hsecond r hr; omega),
      contains_eq_false third fun r hr => .inl (by have := hthird r hr; omega), Bool.or_false,
      Bool.or_false, if_pos hc]
    split
    · rename_i hlow
      exact (ascii_forall (P := fun c => ascii c = first.contains c) hascii hlow).symm
    · rfl
  · rw [contains_eq_false first fun r hr => .inr (by have := hfirst r hr; omega), Bool.false_or,
      if_neg (by omega), if_neg hc]
    split
    · rw [contains_eq_false third fun r hr => .inl (by have := hthird r hr; omega), Bool.or_false]
    · rw [contains_eq_false second fun r hr => .inr (by have := hsecond r hr; omega), Bool.false_or]

end Ranges

/-- All ranges of letters. -/
def letters : Ranges := lettersLow ++ lettersMiddle ++ lettersHigh

/-- All ranges of digits and other numbers. -/
def numbers : Ranges := numbersLow ++ numbersMiddle ++ numbersHigh

theorem isLetter_eq (c : Char) : isLetter c = letters.contains c :=
  (Ranges.contains_blocks (by decide +kernel) (by decide +kernel) (by decide +kernel)
    (by decide +kernel) c).symm

theorem isNumber_eq (c : Char) : isNumber c = numbers.contains c :=
  (Ranges.contains_blocks (by decide +kernel) (by decide +kernel) (by decide +kernel)
    (by decide +kernel) c).symm

/-- No letter is a number. -/
theorem isNumber_of_isLetter {c : Char} (h : isLetter c = true) : isNumber c = false := by
  have hdisjoint : ∀ {rs rs' : Ranges}, rs.all (fun r => rs'.misses r.1 r.2) = true →
      rs.contains c = true → rs'.contains c = false := by
    intro rs rs' hall hc
    obtain ⟨r, hr, hlow, hhigh⟩ := Ranges.contains_iff.1 hc
    exact Ranges.not_contains_of_misses (List.all_eq_true.1 hall r hr) hlow hhigh
  unfold isLetter at h
  unfold isNumber
  split at h
  · rename_i hascii
    rw [if_pos hascii]
    exact ascii_forall (P := fun c => c.isAlpha = true → c.isDigit = false) (by decide) hascii h
  · rename_i hascii
    rw [if_neg hascii]
    split at h
    · rename_i hlow
      rw [if_pos hlow]
      exact hdisjoint (by decide +kernel) h
    · rename_i hlow
      rw [if_neg hlow]
      split at h
      · rename_i hmiddle
        rw [if_pos hmiddle]
        exact hdisjoint (by decide +kernel) h
      · rename_i hmiddle
        rw [if_neg hmiddle]
        exact hdisjoint (by decide +kernel) h

/-! ## Letters -/

/-- The marks that the upper case of a letter may have behind a letter. -/
def capitalMarks : List Char :=
  ['\u0300', '\u0301', '\u0308', '\u030a', '\u030c', '\u0313', '\u0331', '\u0342']

/-- The capitals that are letters of a later edition only. -/
def newCapitals : List Char := ['\ua7d2', '\ua7d4']

namespace CaseRun

/-- The code point that the run moves `n` to. -/
def moved (r : CaseRun) (n : Nat) : Nat := ((n : Int) + r.shift).toNat

/-- Whether the upper case of a code point of the run is a letter or one of the new capitals, where
the code point is a letter. -/
def keepsLetter (r : CaseRun) (n : Nat) : Bool :=
  letters.covers (r.moved n) (r.moved n) || letters.misses n n ||
    newCapitals.contains (Char.ofNat (r.moved n))

/-- The run holds what it has an image of. -/
theorem image?_eq_some {r : CaseRun} {n m : Nat} (h : r.image? n = some m) :
    r.first ≤ n ∧ n ≤ r.last ∧ (n - r.first) % r.step = 0 ∧ m = r.moved n := by
  unfold image? at h
  split at h
  · rename_i hn
    simp only [Bool.and_eq_true, decide_eq_true_eq, beq_iff_eq] at hn
    exact ⟨hn.1.1, hn.1.2, hn.2, (Option.some.inj h).symm⟩
  · cases h

/-- The images of a run are characters, between the images of its ends. -/
theorem toNat_moved {r : CaseRun} (hr : r ∈ upperRuns) {n : Nat} (hfirst : r.first ≤ n)
    (hlast : n ≤ r.last) : (Char.ofNat (r.moved n)).toNat = r.moved n ∧
      r.moved r.first ≤ (Char.ofNat (r.moved n)).toNat ∧
      (Char.ofNat (r.moved n)).toNat ≤ r.moved r.last := by
  have hruns : ∀ r ∈ upperRuns, r.moved r.last < 0xd800 ∨
      0xdfff < r.moved r.first ∧ r.moved r.last < 0x110000 := by
    decide +kernel
  have hends := hruns r hr
  have hbetween : r.moved r.first ≤ r.moved n ∧ r.moved n ≤ r.moved r.last := by
    unfold moved
    omega
  have hvalid : (r.moved n).isValidChar := by
    unfold Nat.isValidChar
    omega
  rw [toNat_ofNat hvalid]
  exact ⟨rfl, hbetween⟩

/-- The upper case of a letter under a run is a letter or one of the new capitals. -/
theorem keeps_letters {r : CaseRun} (hr : r ∈ upperRuns) {c : Char} {m : Nat}
    (hm : r.image? c.toNat = some m) (hc : isLetter c = true) :
    isLetter (Char.ofNat m) = true ∨ Char.ofNat m ∈ newCapitals := by
  have hruns : upperRuns.all (fun r => letters.covers (r.moved r.first) (r.moved r.last) ||
      letters.misses r.first r.last || (List.range (r.last + 1 - r.first)).all fun k =>
        k % r.step != 0 || r.keepsLetter (r.first + k)) = true := by
    decide +kernel
  have hrun := List.all_eq_true.1 hruns r hr
  simp only [Bool.or_eq_true, List.all_eq_true, List.mem_range, bne_iff_ne, or_assoc] at hrun
  obtain ⟨hfirst, hlast, hstep, rfl⟩ := image?_eq_some hm
  obtain ⟨hmoved, hleast, hgreatest⟩ := toNat_moved hr hfirst hlast
  rw [isLetter_eq] at hc ⊢
  rcases hrun with hcovers | hmisses | hpoints
  · exact .inl (Ranges.contains_of_covers hcovers hleast hgreatest)
  · rw [Ranges.not_contains_of_misses hmisses hfirst hlast] at hc
    cases hc
  · -- The run jumps over code points that are no letters, so it is followed point by point.
    have hpoint := (hpoints (c.toNat - r.first) (by omega)).resolve_left fun h => h hstep
    rw [Nat.add_sub_cancel' hfirst] at hpoint
    simp only [keepsLetter, Bool.or_eq_true, List.contains_iff_mem, or_assoc] at hpoint
    rcases hpoint with hcovers | hmisses | hnew
    · exact .inl (Ranges.contains_of_covers hcovers (Nat.le_of_eq hmoved.symm)
        (Nat.le_of_eq hmoved))
    · rw [Ranges.not_contains_of_misses hmisses (Nat.le_refl _) (Nat.le_refl _)] at hc
      cases hc
    · exact .inr hnew

/-- The upper case of a number under a run is a number. -/
theorem keeps_numbers {r : CaseRun} (hr : r ∈ upperRuns) {c : Char} {m : Nat}
    (hm : r.image? c.toNat = some m) (hc : isNumber c = true) :
    isNumber (Char.ofNat m) = true := by
  have hruns : upperRuns.all (fun r => numbers.misses r.first r.last ||
      numbers.covers (r.moved r.first) (r.moved r.last)) = true := by
    decide +kernel
  have hrun := List.all_eq_true.1 hruns r hr
  rw [Bool.or_eq_true] at hrun
  obtain ⟨hfirst, hlast, -, rfl⟩ := image?_eq_some hm
  obtain ⟨hmoved, hleast, hgreatest⟩ := toNat_moved hr hfirst hlast
  rw [isNumber_eq] at hc ⊢
  rcases hrun with hmisses | hcovers
  · rw [Ranges.not_contains_of_misses hmisses hfirst hlast] at hc
    cases hc
  · exact Ranges.contains_of_covers hcovers hleast hgreatest

end CaseRun

/-! ## The upper case of a word character -/

/-- An expansion is a letter with letters and marks behind it, and no number has one. -/
theorem expansion_form {e : Nat × List Nat} (he : e ∈ upperExpansions) :
    isNumber (Char.ofNat e.1) = false ∧ ∃ x xs, e.2.map Char.ofNat = x :: xs ∧
      isLetter x = true ∧ ∀ y ∈ xs, isLetter y = true ∨ y ∈ capitalMarks := by
  have hall : upperExpansions.all (fun e => !isNumber (Char.ofNat e.1) &&
      ((e.2.map Char.ofNat).head?.any isLetter && (e.2.map Char.ofNat).tail.all fun y =>
        isLetter y || capitalMarks.contains y)) = true := by
    decide +kernel
  have hform := List.all_eq_true.1 hall e he
  rw [Bool.and_eq_true, Bool.not_eq_true'] at hform
  refine ⟨hform.1, ?_⟩
  cases hx : e.2.map Char.ofNat with
  | nil => simp [hx] at hform
  | cons x xs =>
    rw [hx, List.head?_cons, Option.any_some, List.tail_cons] at hform
    simp only [Bool.and_eq_true, List.all_eq_true, Bool.or_eq_true,
      List.contains_iff_mem] at hform
    exact ⟨x, xs, rfl, hform.2⟩

/-- The upper case of a letter begins with a letter or a new capital, and has letters and marks
behind it. -/
theorem upper_letter {c : Char} (h : isLetter c = true) :
    ∃ x xs, upper c = x :: xs ∧ (isLetter x = true ∨ x ∈ newCapitals) ∧
      ∀ y ∈ xs, isLetter y = true ∨ y ∈ capitalMarks := by
  rcases upper_cases c with
    ⟨hc, hupper⟩ | ⟨-, ⟨e, he, -, hupper⟩ | ⟨r, hr, m, hm, hupper⟩ | hupper⟩
  · have hascii := ascii_forall (P := fun c => isLetter c = true → isLetter c.toUpper = true)
      (by decide +kernel) hc
    exact ⟨_, [], hupper, .inl (hascii h), by simp⟩
  · obtain ⟨-, x, xs, hform, hx, hxs⟩ := expansion_form he
    exact ⟨x, xs, hupper.trans hform, .inl hx, hxs⟩
  · exact ⟨_, [], hupper, CaseRun.keeps_letters hr hm h, by simp⟩
  · exact ⟨c, [], hupper, .inl h, by simp⟩

/-- The upper case of a number is one number; a digit of ASCII is its own. -/
theorem upper_number {c : Char} (h : isNumber c = true) :
    ∃ x, upper c = [x] ∧ isNumber x = true ∧ (c.toNat < 0x80 → x = c) := by
  rcases upper_cases c with
    ⟨hc, hupper⟩ | ⟨hc, ⟨e, he, hkey, -⟩ | ⟨r, hr, m, hm, hupper⟩ | hupper⟩
  · have hascii := ascii_forall (P := fun c => isNumber c = true → c.toUpper = c)
      (by decide +kernel) hc
    rw [hascii h] at hupper
    exact ⟨c, hupper, h, fun _ => rfl⟩
  · have hno := (expansion_form he).1
    rw [hkey, Char.ofNat_toNat, h] at hno
    cases hno
  · exact ⟨_, hupper, CaseRun.keeps_numbers hr hm h, fun hlow => absurd hc (by omega)⟩
  · exact ⟨c, hupper, h, fun _ => rfl⟩

end XmlTypes.Text
