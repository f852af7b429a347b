import XmlTypes.Proofs.DecimalReading
import XmlTypes.Restriction.Layer
/-!
# Numeric bounds

A bound of whole numbers or decimals is read as a number of 64 bits or as a decimal, and stays
verbatim otherwise. So its literal denotes a number in any case. It is the number that is written
in the schema where a decimal has this number, and where the number is too large for all decimals;
the places that there is no room for are lost in between (`bound_keeps_value_iff`).
-/

namespace XmlTypes

namespace Number

/-! ## Whole numbers of 64 bits -/

theorem all_digits_of_continueDigits? {k m : Nat} {cs : List Char}
    (h : continueDigits? k cs = some m) : ∀ c ∈ cs, c.isDigit = true := by
  induction cs generalizing k with
  | nil => simp
  | cons c cs ih =>
    rw [continueDigits?] at h
    split at h
    · rename_i hc
      exact List.forall_mem_cons.2 ⟨hc, ih h⟩
    · cases h

theorem signed?_text (n : Numeral) :
    signed? n.text = (digits? (n.whole ++ n.tail)).map fun k : Nat =>
      if n.sign.isMinus then -(k : Int) else k := by
  unfold Numeral.text
  cases n.sign with
  | absent =>
    rw [Sign.text, List.nil_append, signed?, unsigned?]
    · cases digits? (n.whole ++ n.tail) <;> rfl
    · exact n.body_ne_cons (.inr rfl)
    · exact n.body_ne_cons (.inl rfl)
  | plus =>
    show signed? ('+' :: (n.whole ++ n.tail)) = _
    rw [signed?, unsigned?]
    · cases digits? (n.whole ++ n.tail) <;> rfl
    · rintro cs ⟨⟩
  | minus =>
    show signed? ('-' :: (n.whole ++ n.tail)) = _
    rw [signed?]
    cases digits? (n.whole ++ n.tail) <;> rfl

/-- Only a numeral without a point is read as a whole number, and as its number. -/
theorem number_of_signed? {n : Numeral} {i : Int} (h : signed? n.text = some i) :
    n.number = i := by
  rw [signed?_text, Option.map_eq_some_iff] at h
  obtain ⟨k, hk, rfl⟩ := h
  have hcontinue : continueDigits? 0 (n.whole ++ n.tail) = some k := by
    unfold digits? at hk
    split at hk
    · cases hk
    · exact hk
  have hall := all_digits_of_continueDigits? hcontinue
  -- A point is no digit.
  have htail : n.fraction = none := by
    cases hfraction : n.fraction with
    | none => rfl
    | some ds =>
      have hpoint := hall '.' (by simp [Numeral.tail, hfraction])
      cases hpoint
  rw [Json.continueDigits?_eq _ _ hall, Option.some.injEq] at hcontinue
  have hvalue : ofDigits n.whole = k := by
    rw [← hcontinue]
    simp [ofDigits, Numeral.tail, htail]
  rw [Numeral.number, Numeral.places, htail]
  cases n.sign.isMinus <;> simp [scaled, hvalue]

theorem scaled_int (i : Int) : scaled (decide (i < 0)) i.natAbs 0 = i := by
  unfold scaled
  rw [pow_zero, div_one]
  by_cases hneg : i < 0
  · have habs : (i.natAbs : Int) = -i := by omega
    rw [if_pos (decide_eq_true hneg), neg_one_mul, ← Int.cast_natCast, habs, Int.cast_neg, neg_neg]
  · have habs : (i.natAbs : Int) = i := by omega
    rw [if_neg (by simpa using hneg), one_mul, ← Int.cast_natCast, habs]

theorem denotes_toString (i : Int) : Denotes (toString i) i := by
  have hdigits := denotes_whole (decide (i < 0)) (Nat.toDigits 10 i.natAbs)
    (fun c => Json.isDigit_of_mem_decimal) Nat.toDigits_ne_nil
  have htext : toString i =
      String.ofList ((Sign.ofNegative (decide (i < 0))).text ++ Nat.toDigits 10 i.natAbs) := by
    rw [← String.toList_inj, Json.toList_toString_int, String.toList_ofList, Sign.text_ofNegative]
    simp
  rwa [ofDigits_toDigits, scaled_int, ← htext] at hdigits

/-- Whole numbers of 64 bits are read as they are, and they are numbers of decimals. -/
theorem int64?_text {n : Numeral} {i : Int} (h : int64? n.text = some i) :
    n.number = i ∧ Decimal.Exact n.number := by
  unfold int64? at h
  rw [Option.bind_eq_bind, Option.bind_eq_some_iff] at h
  obtain ⟨j, hj, h⟩ := h
  split at h
  · rename_i hrange
    obtain rfl := Option.some.inj h
    have hnumber := number_of_signed? hj
    refine ⟨hnumber, ⟨⟨decide (j < 0), j.natAbs, 0⟩, ?_, Nat.zero_le _, ?_⟩⟩
    · have hbound : 0x8000000000000000 < Decimal.coefficientBound := by decide
      dsimp only
      omega
    · rw [hnumber]
      exact scaled_int j
  · cases h

end Number

namespace BoundValue

open Number

/-- The text is a number again, which is the number `x` exactly where `x` is the number of a decimal
or beyond the limit of decimals. -/
def KeepsValue (text : String) (x : ℚ) : Prop :=
  ∃ y, Denotes text y ∧ (y = x ↔ Decimal.Exact x ∨ Decimal.limit ≤ |x|)

/-- As a decimal, the text of a numeral has a value up to the limit of decimals. -/
theorem keepsValue_decimal (n : Numeral) :
    (Decimal.read? n.text = none ∧ Decimal.limit ≤ |n.number|) ∨
    ∃ d, Decimal.read? n.text = some d ∧ KeepsValue (decimal d).toText n.number := by
  rcases Decimal.read?_text n with hnone | ⟨d, hread, hlimit, hvalue⟩
  · exact .inl hnone
  · refine .inr ⟨d, hread, d.value, d.denotes_toText, ?_⟩
    rw [hvalue, or_iff_left hlimit]

/-- The trimmed text of a numeric bound has a value, unless it is beyond the limit of decimals. -/
theorem keepsValue_read? {type : Schema.Primitive}
    (htype : type.isIntegral = true ∨ type = .decimal) (n : Numeral) :
    (read? type n.text = none ∧ Decimal.limit ≤ |n.number|) ∨
    ∃ v, read? type n.text = some v ∧ KeepsValue v.toText n.number := by
  have hdecimal : ((Decimal.read? n.text).map decimal = none ∧ Decimal.limit ≤ |n.number|) ∨
      ∃ v, (Decimal.read? n.text).map decimal = some v ∧ KeepsValue v.toText n.number := by
    rcases keepsValue_decimal n with ⟨hread, hlimit⟩ | ⟨d, hread, hkeeps⟩
    · exact .inl ⟨by rw [hread]; rfl, hlimit⟩
    · exact .inr ⟨decimal d, by rw [hread]; rfl, hkeeps⟩
  unfold read?
  rcases htype with hintegral | rfl
  · rw [if_pos hintegral]
    cases hint : int64? n.text with
    | none => exact hdecimal
    | some i =>
      obtain ⟨hnumber, hexact⟩ := int64?_text hint
      refine .inr ⟨integer i, rfl, i, denotes_toString i, ?_⟩
      exact iff_of_true hnumber.symm (.inl hexact)
  · exact hdecimal

/-- What is not read stays as it is written. -/
theorem keepsValue_ofLiteral {type : Schema.Primitive}
    (htype : type.isIntegral = true ∨ type = .decimal) {n : Numeral} {literal : String}
    (h : n.WrittenIn literal) : KeepsValue (ofLiteral type literal).toText n.number := by
  unfold ofLiteral
  rw [Numeral.trim_of_writtenIn h]
  rcases keepsValue_read? htype n with ⟨hread, hlimit⟩ | ⟨v, hread, hkeeps⟩
  · rw [hread]
    exact ⟨n.number, ⟨n, h, rfl⟩, iff_of_true rfl (.inr hlimit)⟩
  · rw [hread]
    exact hkeeps

end BoundValue

open Number

/-- The literal of a numeric bound denotes a number again, and it is the same number exactly where
this is the number of a decimal, or beyond the limit of decimals, where the literal is kept as it
is. -/
theorem bound_keeps_value_iff {type : Schema.Primitive}
    (htype : type.isIntegral = true ∨ type = .decimal) {n : Numeral} {literal : String}
    (h : n.WrittenIn literal) {facet : Schema.Facet}
    (hfacet : facet ∈ [.minInclusive literal, .minExclusive literal, .maxInclusive literal,
      .maxExclusive literal]) :
    ∃ r, facet.restriction? type = some r ∧ (∃ y, Denotes r.literal y) ∧
      (Denotes r.literal n.number ↔ Decimal.Exact n.number ∨ Decimal.limit ≤ |n.number|) := by
  obtain ⟨y, hy, hsame⟩ := BoundValue.keepsValue_ofLiteral htype h
  have hdenotes : Denotes (BoundValue.ofLiteral type literal).toText n.number ↔ y = n.number := by
    constructor
    · exact fun hnumber => hy.unique hnumber
    · rintro rfl
      exact hy
  rw [← hdenotes] at hsame
  simp only [List.mem_cons, List.not_mem_nil, or_false] at hfacet
  rcases hfacet with rfl | rfl | rfl | rfl <;> exact ⟨_, rfl, ⟨y, hy⟩, hsame⟩

/-- A bound of minus one half, with white space around it, keeps its value. -/
theorem bound_keeps_value_half :
    ∃ n : Numeral, n.WrittenIn " -0.50\n" ∧ n.number = -1 / 2 ∧
      ∃ r, (Schema.Facet.minInclusive " -0.50\n").restriction? .decimal = some r ∧
        Denotes r.literal n.number := by
  let n : Numeral := ⟨.minus, ['0'], some ['5', '0'], by simp, by simp, by simp⟩
  have hblank : Text.isBlank ' ' = true ∧ Text.isBlank '\n' = true := by decide
  have hn : n.WrittenIn " -0.50\n" :=
    ⟨[' '], ['\n'], by simp [hblank], by simp [hblank], by decide⟩
  have hexact : Decimal.Exact n.number := ⟨⟨true, 50, 2⟩, by decide, by decide, rfl⟩
  obtain ⟨r, hr, -, hsame⟩ := bound_keeps_value_iff (.inr rfl) hn List.mem_cons_self
  refine ⟨n, hn, ?_, r, hr, hsame.2 (.inl hexact)⟩
  show scaled true 50 2 = -1 / 2
  norm_num [scaled]

/-- A bound of one unit in the twenty-ninth place of the fraction becomes zero. -/
theorem least_bound_becomes_zero :
    ∃ n : Numeral, n.WrittenIn "0.00000000000000000000000000001" ∧ n.number = 1 / 10 ^ 29 ∧
      ∃ r, (Schema.Facet.minExclusive "0.00000000000000000000000000001").restriction? .decimal =
          some r ∧
        Denotes r.literal 0 ∧ ¬ Denotes r.literal n.number := by
  let n : Numeral := ⟨.absent, ['0'], some (List.replicate 28 '0' ++ ['1']), by simp,
    by simp [or_imp, forall_and], by simp⟩
  have hnumber : n.number = 1 / 10 ^ 29 := by
    show scaled false 1 29 = 1 / 10 ^ 29
    simp [scaled]
  have hzero : Denotes "0.0000000000000000000000000000" 0 := by
    have h := denotes_pointed false ['0'] (List.replicate 28 '0') (by simp) (by simp) (by simp)
    exact scaled_zero false 28 ▸ h
  have hdiffers : (0 : ℚ) ≠ 1 / 10 ^ 29 := by norm_num
  refine ⟨n, ⟨[], [], by simp, by simp, by decide⟩, hnumber, _, rfl, hzero, ?_⟩
  intro hsame
  exact hdiffers ((hzero.unique hsame).trans hnumber)

end XmlTypes
