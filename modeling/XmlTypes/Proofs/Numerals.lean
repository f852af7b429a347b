import Mathlib.Data.Rat.Lemmas
import XmlTypes.Number.Decimal
import XmlTypes.Proofs.FreshNames
import XmlTypes.Proofs.Spelling
import XmlTypes.Text.Blank
/-!
# Decimal numerals

An optional sign, digits, and an optional fraction, of any length: the written form of a rational
number. A text that is such a numeral with white space around it denotes one number only.
-/

namespace XmlTypes

/-! ## White space around a text -/

namespace Text

/-- White space around a text without white space is trimmed. -/
theorem trim_append {before cs after : List Char} (hbefore : ∀ c ∈ before, isBlank c = true)
    (hcs : ∀ c ∈ cs, isBlank c = false) (hafter : ∀ c ∈ after, isBlank c = true) :
    trim (before ++ cs ++ after) = cs := by
  unfold trim
  by_cases hnil : cs = []
  · subst hnil
    have hall : ∀ c ∈ before ++ [] ++ after, isBlank c = true := by
      simpa [or_imp, forall_and] using ⟨hbefore, hafter⟩
    have hdrop : (before ++ [] ++ after).dropWhile isBlank = [] := by simpa using hall
    rw [hdrop]
    rfl
  · have hfront : (before ++ cs ++ after).dropWhile isBlank = cs ++ after := by
      rw [List.append_assoc]
      refine Json.dropWhile_append_head hbefore fun c hc => hcs c ?_
      rw [List.head?_append_of_ne_nil _ hnil] at hc
      exact List.mem_of_mem_head? hc
    rw [hfront, List.reverse_append, Json.dropWhile_append_head (by simpa using hafter),
      List.reverse_reverse]
    intro c hc
    exact hcs c (List.mem_reverse.1 (List.mem_of_mem_head? hc))

/-- Where a text is parted by a class of characters, both parts are determined. -/
theorem parts_eq_of_append_eq {p : Char → Bool} {xs xs' ys ys' : List Char}
    (hxs : ∀ c ∈ xs, p c = true) (hxs' : ∀ c ∈ xs', p c = true)
    (hys : ∀ c ∈ ys.head?, p c = false) (hys' : ∀ c ∈ ys'.head?, p c = false)
    (h : xs ++ ys = xs' ++ ys') : xs = xs' ∧ ys = ys' := by
  have hfirst : xs = xs' := by
    rw [← Json.takeWhile_append_head hxs hys, h, Json.takeWhile_append_head hxs' hys']
  subst hfirst
  exact ⟨rfl, List.append_cancel_left h⟩

end Text

namespace Number

/-! ## Digits -/

/-- The number that decimal digits give. -/
def ofDigits (ds : List Char) : Nat := Nat.ofDigitChars 10 ds 0

@[simp]
theorem ofDigits_nil : ofDigits [] = 0 := rfl

theorem ofDigits_append (ds es : List Char) :
    ofDigits (ds ++ es) = ofDigits ds * 10 ^ es.length + ofDigits es := by
  unfold ofDigits
  rw [Nat.ofDigitChars_append, Nat.ofDigitChars_eq_ofDigitChars_zero, Nat.mul_comm]

theorem ofDigits_cons (c : Char) (cs : List Char) :
    ofDigits (c :: cs) = digitValue c * 10 ^ cs.length + ofDigits cs := by
  unfold ofDigits digitValue
  rw [Nat.ofDigitChars_cons, Nat.ofDigitChars_eq_ofDigitChars_zero, Nat.mul_zero, Nat.zero_add,
    Nat.mul_comm]

theorem ofDigits_le_append (ds es : List Char) : ofDigits ds ≤ ofDigits (ds ++ es) := by
  rw [ofDigits_append]
  exact Nat.le_add_right_of_le (Nat.le_mul_of_pos_right _ (Nat.pow_pos (by decide)))

theorem digitValue_lt {c : Char} (h : c.isDigit = true) : digitValue c < 10 := by
  rw [Char.isDigit_iff_toNat] at h
  unfold digitValue
  have h0 : '0'.toNat = 48 := rfl
  have h9 : '9'.toNat = 57 := rfl
  omega

theorem ofDigits_lt {ds : List Char} (h : ∀ c ∈ ds, c.isDigit = true) :
    ofDigits ds < 10 ^ ds.length := by
  induction ds with
  | nil => simp
  | cons c cs ih =>
    have hc := digitValue_lt (h c List.mem_cons_self)
    have hcs := ih fun d hd => h d (List.mem_cons_of_mem c hd)
    calc ofDigits (c :: cs) < (digitValue c + 1) * 10 ^ cs.length := by
          rw [ofDigits_cons, Nat.succ_mul]
          omega
      _ ≤ 10 * 10 ^ cs.length := Nat.mul_le_mul_right _ (by omega)
      _ = 10 ^ (c :: cs).length := by rw [List.length_cons, Nat.pow_succ, Nat.mul_comm]

theorem isDigit_padded (width n : Nat) : ∀ c ∈ padded width n, c.isDigit = true := by
  intro c hc
  unfold padded at hc
  rcases List.mem_append.1 hc with hzeros | hdigits
  · rw [List.eq_of_mem_replicate hzeros]
    rfl
  · rw [Json.toList_toString_nat] at hdigits
    exact Json.isDigit_of_mem_decimal hdigits

theorem ofDigits_toDigits (n : Nat) : ofDigits (Nat.toDigits 10 n) = n :=
  Nat.ofDigitChars_ten_toDigits

theorem ofDigits_padded (width n : Nat) : ofDigits (padded width n) = n := by
  unfold padded
  dsimp only
  rw [ofDigits_append, Json.toList_toString_nat, ofDigits_toDigits]
  have hzeros : ∀ k, ofDigits (List.replicate k '0') = 0 := fun k =>
    Nat.ofDigitChars_replicate_zero.trans (Nat.mul_zero _)
  rw [hzeros, Nat.zero_mul, Nat.zero_add]

theorem le_length_padded (width n : Nat) : width ≤ (padded width n).length := by
  unfold padded
  dsimp only
  rw [List.length_append, List.length_replicate]
  omega

/-! ## Signed and scaled numbers -/

/-- The number `± coefficient / 10 ^ scale`. -/
def scaled (negative : Bool) (coefficient scale : Nat) : ℚ :=
  (if negative then -1 else 1) * coefficient / 10 ^ scale

theorem scaled_eq_scaled_iff (negative : Bool) (a b i j : Nat) :
    scaled negative a i = scaled negative b j ↔ a * 10 ^ j = b * 10 ^ i := by
  have hsign : (if negative then (-1 : ℚ) else 1) ≠ 0 := by
    cases negative <;> simp
  have hpow : ∀ k : Nat, (10 : ℚ) ^ k ≠ 0 := fun k => pow_ne_zero k (by decide)
  unfold scaled
  rw [div_eq_div_iff (hpow i) (hpow j), mul_assoc, mul_assoc, mul_right_inj' hsign]
  exact_mod_cast Iff.rfl

theorem scaled_zero (negative : Bool) (scale : Nat) : scaled negative 0 scale = 0 := by
  simp [scaled]

/-! ## Numerals -/

/-- What may stand before the digits. -/
inductive Sign
  | absent | plus | minus
deriving DecidableEq, Repr

namespace Sign

def text : Sign → List Char
  | absent => []
  | plus => ['+']
  | minus => ['-']

def isMinus : Sign → Bool
  | minus => true
  | _ => false

theorem text_injective : Function.Injective text := by
  intro a b h
  cases a <;> cases b <;> first | rfl | cases h

theorem of_mem_text {P : Char → Prop} (hplus : P '+') (hminus : P '-') (sign : Sign) :
    ∀ c ∈ sign.text, P c := by
  cases sign <;> simp [text, hplus, hminus]

/-- The sign that is written for a negative number and for another. -/
def ofNegative (negative : Bool) : Sign := if negative then minus else absent

@[simp]
theorem isMinus_ofNegative (negative : Bool) : (ofNegative negative).isMinus = negative := by
  cases negative <;> rfl

theorem text_ofNegative (negative : Bool) :
    (ofNegative negative).text = if negative then ['-'] else [] := by
  cases negative <;> rfl

end Sign

/-- A decimal numeral: there is a digit before or behind the point. -/
@[ext]
structure Numeral where
  sign : Sign
  /-- The digits before the point. -/
  whole : List Char
  /-- The digits behind the point, if there is one. -/
  fraction : Option (List Char)
  whole_digits : ∀ c ∈ whole, c.isDigit = true
  fraction_digits : ∀ ds ∈ fraction, ∀ c ∈ ds, c.isDigit = true
  ne_nil : whole ++ fraction.getD [] ≠ []

namespace Numeral

variable (n : Numeral)

/-- The digits behind the point. -/
def places : List Char := n.fraction.getD []

/-- The point and what is behind it. -/
def tail : List Char := n.fraction.elim [] ('.' :: ·)

/-- The numeral as it is written. -/
def text : List Char := n.sign.text ++ (n.whole ++ n.tail)

/-- The number that the numeral stands for. -/
def number : ℚ := scaled n.sign.isMinus (ofDigits (n.whole ++ n.places)) n.places.length

/-- The text is the numeral with white space around it. -/
def WrittenIn (literal : String) : Prop :=
  ∃ before after, (∀ c ∈ before, Text.isBlank c = true) ∧ (∀ c ∈ after, Text.isBlank c = true) ∧
    literal.toList = before ++ n.text ++ after

theorem isDigit_of_mem_places : ∀ c ∈ n.places, c.isDigit = true := by
  have h := n.fraction_digits
  unfold places
  cases hfraction : n.fraction with
  | none => simp
  | some ds => exact h ds hfraction

theorem head?_tail : ∀ c ∈ n.tail.head?, c.isDigit = false := by
  unfold tail
  cases n.fraction <;> simp

/-- Behind the sign there are digits and points only. -/
theorem of_mem_body {P : Char → Prop} [DecidablePred P] (hpoint : P '.')
    (hdigits : "0123456789".toList.all (fun c => P c) = true) : ∀ c ∈ n.whole ++ n.tail, P c := by
  intro c hc
  rcases List.mem_append.1 hc with hwhole | htail
  · exact Text.forall_digit hdigits (n.whole_digits c hwhole)
  · have h := n.fraction_digits
    unfold tail at htail
    cases hfraction : n.fraction with
    | none => simp [hfraction] at htail
    | some ds =>
      rw [hfraction, Option.elim_some, List.mem_cons] at htail
      rcases htail with rfl | hds
      · exact hpoint
      · exact Text.forall_digit hdigits (h ds hfraction c hds)

theorem of_mem_text {P : Char → Prop} [DecidablePred P] (hplus : P '+') (hminus : P '-')
    (hpoint : P '.') (hdigits : "0123456789".toList.all (fun c => P c) = true) :
    ∀ c ∈ n.text, P c := by
  intro c hc
  rcases List.mem_append.1 hc with hsign | hbody
  · exact Sign.of_mem_text hplus hminus n.sign c hsign
  · exact n.of_mem_body hpoint hdigits c hbody

/-- There is one sign only. -/
theorem body_ne_cons {c : Char} (hc : c = '-' ∨ c = '+') (cs : List Char) :
    n.whole ++ n.tail ≠ c :: cs := by
  intro h
  have hno := n.of_mem_body (P := fun d => ¬ (d = '-' ∨ d = '+')) (by decide) (by decide) c
    (by rw [h]; exact List.mem_cons_self)
  exact hno hc

theorem not_isBlank : ∀ c ∈ n.text, Text.isBlank c = false :=
  n.of_mem_text (P := fun c => Text.isBlank c = false) (by decide) (by decide) (by decide)
    (by decide)

/-- Numerals are written differently. -/
theorem text_injective : Function.Injective text := by
  intro m n h
  have hsigns : ∀ sign : Sign, ∀ c ∈ sign.text, (c == '+' || c == '-') = true :=
    Sign.of_mem_text (by decide) (by decide)
  have hbodies : ∀ n : Numeral, ∀ c ∈ (n.whole ++ n.tail).head?,
      (c == '+' || c == '-') = false := fun n c hc =>
    n.of_mem_body (P := fun c => (c == '+' || c == '-') = false) (by decide) (by decide) c
      (List.mem_of_mem_head? hc)
  -- A sign ends at the first digit or point, and the whole part at the point.
  obtain ⟨hsign, hbody⟩ := Text.parts_eq_of_append_eq (hsigns m.sign) (hsigns n.sign) (hbodies m)
    (hbodies n) h
  obtain ⟨hwhole, htail⟩ := Text.parts_eq_of_append_eq m.whole_digits n.whole_digits m.head?_tail
    n.head?_tail hbody
  refine Numeral.ext (Sign.text_injective hsign) hwhole ?_
  unfold tail at htail
  cases hm : m.fraction <;> cases hn : n.fraction <;> simp_all

theorem trim_of_writtenIn {n : Numeral} {literal : String} (h : n.WrittenIn literal) :
    Text.trim literal.toList = n.text := by
  obtain ⟨before, after, hbefore, hafter, hliteral⟩ := h
  rw [hliteral]
  exact Text.trim_append hbefore n.not_isBlank hafter

end Numeral

/-- The text denotes the number: it is a numeral for it, with white space around it. -/
def Denotes (literal : String) (x : ℚ) : Prop :=
  ∃ n : Numeral, n.WrittenIn literal ∧ n.number = x

theorem Denotes.unique {literal : String} {x y : ℚ} (hx : Denotes literal x)
    (hy : Denotes literal y) : x = y := by
  obtain ⟨m, hm, rfl⟩ := hx
  obtain ⟨n, hn, rfl⟩ := hy
  have htext : m.text = n.text := by
    rw [← Numeral.trim_of_writtenIn hm, Numeral.trim_of_writtenIn hn]
  rw [Numeral.text_injective htext]

theorem Numeral.denotes_text (n : Numeral) : Denotes (String.ofList n.text) n.number :=
  ⟨n, ⟨[], [], by simp, by simp, by simp⟩, rfl⟩

theorem denotes_whole (negative : Bool) (ds : List Char) (hds : ∀ c ∈ ds, c.isDigit = true)
    (hne : ds ≠ []) :
    Denotes (String.ofList ((Sign.ofNegative negative).text ++ ds))
      (scaled negative (ofDigits ds) 0) := by
  have h := Numeral.denotes_text ⟨.ofNegative negative, ds, none, hds, by simp, by simpa using hne⟩
  simpa [Numeral.text, Numeral.tail, Numeral.number, Numeral.places] using h

theorem denotes_pointed (negative : Bool) (ws ps : List Char) (hws : ∀ c ∈ ws, c.isDigit = true)
    (hps : ∀ c ∈ ps, c.isDigit = true) (hne : ws ≠ []) :
    Denotes (String.ofList ((Sign.ofNegative negative).text ++ (ws ++ '.' :: ps)))
      (scaled negative (ofDigits (ws ++ ps)) ps.length) := by
  have h := Numeral.denotes_text ⟨.ofNegative negative, ws, some ps, hws, by simpa using hps,
    by simp [hne]⟩
  simpa [Numeral.text, Numeral.tail, Numeral.number, Numeral.places] using h

end Number

end XmlTypes
