import Mathlib.Algebra.Order.Field.Rat
import Mathlib.Tactic.Linarith
import XmlTypes.Proofs.Numerals
/-!
# Reading decimals

A numeral is read as a decimal digit by digit: all digits before the point, which have to fit the
coefficient, and behind it as many as there is room for; the digit after them rounds. What a
reading holds on the way is `Reading.Holds`. How the reading ends is told by the number alone
(`Decimal.read?_text`): it gives nothing from a limit on, and below it gives the number itself
exactly where a decimal has that number.
-/

namespace XmlTypes

namespace Number

namespace Decimal

/-! ## Decimals as texts -/

/-- The number that a decimal stands for. -/
def value (d : Decimal) : ℚ := scaled d.negative d.coefficient d.scale

/-- The text of a decimal is a numeral for its value. -/
theorem denotes_toText (d : Decimal) : Denotes d.toText d.value := by
  unfold toText placePoint value
  rw [← Sign.text_ofNegative]
  split
  · rename_i hscale
    have h := denotes_whole d.negative (Nat.toDigits 10 d.coefficient)
      (fun c => Json.isDigit_of_mem_decimal) Nat.toDigits_ne_nil
    rwa [ofDigits_toDigits, ← hscale, ← Json.toList_toString_nat] at h
  · rename_i hscale
    have hlength := le_length_padded (d.scale + 1) d.coefficient
    have hdigits := isDigit_padded (d.scale + 1) d.coefficient
    have hvalue := ofDigits_padded (d.scale + 1) d.coefficient
    generalize padded (d.scale + 1) d.coefficient = ds at hlength hdigits hvalue ⊢
    have h := denotes_pointed d.negative (ds.take (ds.length - d.scale))
      (ds.drop (ds.length - d.scale)) (fun c hc => hdigits c (List.mem_of_mem_take hc))
      (fun c hc => hdigits c (List.mem_of_mem_drop hc))
      (List.ne_nil_of_length_pos (by rw [List.length_take]; omega))
    have hplaces : ds.length - (ds.length - d.scale) = d.scale := by omega
    rwa [List.take_append_drop, hvalue, List.length_drop, hplaces] at h

/-! ## Reading digits -/

namespace Reading

/-- What a reading has after the digits `whole` before the point and `kept` behind it. -/
structure Holds (r : Reading) (whole kept : List Char) : Prop where
  coefficient : r.coefficient = ofDigits (whole ++ kept)
  scale : r.scale = kept.length
  started : r.started = !(whole ++ kept).isEmpty
  full : r.full = (r.point && decide (maxScale ≤ kept.length))
  fits : r.coefficient < coefficientBound
  room : kept.length ≤ maxScale

/-- There is no room for the next digit: the scale is used up, or the coefficient would be. -/
def NoRoom (whole kept rest : List Char) : Prop :=
  ∀ c ∈ rest.head?, kept.length = maxScale ∨ coefficientBound ≤ ofDigits (whole ++ kept ++ [c])

theorem holds_start : ({} : Reading).Holds [] [] := by
  refine ⟨rfl, rfl, rfl, rfl, ?_, Nat.zero_le _⟩
  exact Nat.pow_pos (by decide)

theorem Holds.next {r : Reading} {whole kept : List Char} (h : r.Holds whole kept) (c : Char) :
    r.coefficient * 10 + digitValue c = ofDigits (whole ++ kept ++ [c]) := by
  rw [ofDigits_append, h.coefficient, ofDigits_cons]
  simp

variable {r : Reading} {whole kept : List Char} {c : Char}

theorem Holds.push_whole (h : r.Holds whole []) (hpoint : r.point = false)
    (hfits : r.coefficient * 10 + digitValue c < coefficientBound) :
    (r.push (r.coefficient * 10 + digitValue c)).Holds (whole ++ [c]) [] := by
  refine ⟨?_, ?_, ?_, ?_, hfits, Nat.zero_le _⟩
  · simpa [push] using h.next c
  · simp [push, hpoint]
  · simp [push]
  · simp [push, hpoint]

theorem Holds.push_kept (h : r.Holds whole kept) (hpoint : r.point = true)
    (hfits : r.coefficient * 10 + digitValue c < coefficientBound)
    (hroom : kept.length < maxScale) :
    (r.push (r.coefficient * 10 + digitValue c)).Holds whole (kept ++ [c]) := by
  refine ⟨?_, ?_, ?_, ?_, hfits, ?_⟩
  · simpa [push] using h.next c
  · simp [push, hpoint, h.scale]
  · simp [push]
  · simp [push, hpoint, h.scale]
  · rw [List.length_append]
    exact hroom

theorem Holds.behind_point (h : r.Holds whole []) (hpoint : r.point = false) :
    { r with point := true : Reading }.Holds whole [] := by
  have hfull : r.full = false := by rw [h.full, hpoint, Bool.false_and]
  exact ⟨h.coefficient, h.scale, h.started, hfull, h.fits, h.room⟩

end Reading

open Reading

/-- The reader takes in the digits before the point, unless they make a coefficient out of
bounds. -/
theorem readFrom?_whole {negative : Bool} {r : Reading} {before ds : List Char} (rest : List Char)
    (h : r.Holds before []) (hpoint : r.point = false) (hds : ∀ c ∈ ds, c.isDigit = true) :
    (coefficientBound ≤ ofDigits (before ++ ds) ∧ readFrom? negative r (ds ++ rest) = none) ∨
    ∃ r' : Reading, r'.Holds (before ++ ds) [] ∧ r'.point = false ∧
      readFrom? negative r (ds ++ rest) = readFrom? negative r' rest := by
  -- Before the point no reading is full, so only the coefficient decides whether a digit fits.
  induction ds generalizing r before with
  | nil => exact .inr ⟨r, by rwa [List.append_nil], hpoint, rfl⟩
  | cons c cs ih =>
    have hfull : r.full = false := by rw [h.full, hpoint, Bool.false_and]
    have hassoc : before ++ c :: cs = before ++ [c] ++ cs := by simp
    rw [List.cons_append, readFrom?, hfull, Bool.false_and, if_neg Bool.false_ne_true,
      if_pos (hds c List.mem_cons_self), hassoc]
    dsimp only
    by_cases hfits : r.coefficient * 10 + digitValue c < coefficientBound
    · rw [if_pos hfits]
      have hpoint' : (r.push (r.coefficient * 10 + digitValue c)).point = false := hpoint
      exact ih (h.push_whole hpoint hfits) hpoint' fun d hd => hds d (List.mem_cons_of_mem c hd)
    · rw [if_neg hfits, if_neg (by rw [hpoint]; exact Bool.false_ne_true)]
      refine .inl ⟨?_, rfl⟩
      have hnext := h.next c
      rw [List.append_nil] at hnext
      have hmono := ofDigits_le_append (before ++ [c]) cs
      omega

/-- Behind the point the reader takes in the digits that there is room for, and rounds by the
rest. -/
theorem readFrom?_places (negative : Bool) {r : Reading} {whole kept ds : List Char}
    (h : r.Holds whole kept) (hpoint : r.point = true) (hds : ∀ c ∈ ds, c.isDigit = true)
    (hne : whole ++ kept ++ ds ≠ []) :
    ∃ (taken rest : List Char) (r' : Reading), ds = taken ++ rest ∧
      r'.Holds whole (kept ++ taken) ∧ NoRoom whole (kept ++ taken) rest ∧
      readFrom? negative r ds = r'.round? negative rest := by
  induction ds generalizing r kept with
  | nil =>
    have hstarted : r.started = true := by
      rw [h.started]
      simpa using hne
    refine ⟨[], [], r, rfl, by rwa [List.append_nil], by simp [NoRoom], ?_⟩
    rw [readFrom?, if_pos hstarted]
    rfl
  | cons c cs ih =>
    have hc := hds c List.mem_cons_self
    have hcs : ∀ d ∈ cs, d.isDigit = true := fun d hd => hds d (List.mem_cons_of_mem c hd)
    have hsep : c ≠ '_' := by
      rintro rfl
      exact absurd hc (by decide)
    -- Where the reader stops at `c`, for one reason or the other, nothing more is taken.
    have hstop : readFrom? negative r (c :: cs) = r.round? negative (c :: cs) →
        (kept.length = maxScale ∨ coefficientBound ≤ ofDigits (whole ++ kept ++ [c])) →
        ∃ (taken rest : List Char) (r' : Reading), c :: cs = taken ++ rest ∧
          r'.Holds whole (kept ++ taken) ∧ NoRoom whole (kept ++ taken) rest ∧
          readFrom? negative r (c :: cs) = r'.round? negative rest := by
      intro hround hno
      refine ⟨[], c :: cs, r, rfl, by rwa [List.append_nil], ?_, hround⟩
      simpa [NoRoom] using hno
    by_cases hroom : kept.length < maxScale
    · have hfull : r.full = false := by
        rw [h.full, hpoint, Bool.true_and]
        exact decide_eq_false (by omega)
      have hread : readFrom? negative r (c :: cs) =
          if r.coefficient * 10 + digitValue c < coefficientBound then
            readFrom? negative (r.push (r.coefficient * 10 + digitValue c)) cs
          else r.round? negative (c :: cs) := by
        rw [readFrom?, hfull, Bool.false_and, if_neg Bool.false_ne_true, if_pos hc]
        dsimp only
        rw [if_pos hpoint]
      by_cases hfits : r.coefficient * 10 + digitValue c < coefficientBound
      · rw [if_pos hfits] at hread
        have hpoint' : (r.push (r.coefficient * 10 + digitValue c)).point = true := hpoint
        obtain ⟨taken, rest, r', hcs', hholds, hno, hround⟩ :=
          ih (h.push_kept hpoint hfits hroom) hpoint' hcs (by simp)
        rw [List.append_assoc] at hholds hno
        exact ⟨c :: taken, rest, r', by rw [hcs', List.cons_append], hholds, hno,
          hread.trans hround⟩
      · rw [if_neg hfits] at hread
        refine hstop hread (.inr ?_)
        rw [← h.next c]
        exact Nat.le_of_not_lt hfits
    · -- All places are taken, and a digit is no separator that would be passed over.
      have hlength : kept.length = maxScale := Nat.le_antisymm h.room (Nat.le_of_not_lt hroom)
      have hfull : (r.full && !(r.wide && c = '_')) = true := by
        rw [h.full, hpoint]
        simp [hlength, hsep]
      refine hstop ?_ (.inl hlength)
      rw [readFrom?, if_pos hfull]

/-- A numeral is read up to the digit that there is no room for; its whole part has to fit. -/
theorem readFrom?_body (n : Numeral) (negative : Bool) :
    (coefficientBound ≤ ofDigits n.whole ∧ readFrom? negative {} (n.whole ++ n.tail) = none) ∨
    ∃ (kept rest : List Char) (r : Reading), n.places = kept ++ rest ∧ r.Holds n.whole kept ∧
      NoRoom n.whole kept rest ∧
      readFrom? negative {} (n.whole ++ n.tail) = r.round? negative rest := by
  rcases readFrom?_whole n.tail holds_start rfl n.whole_digits with hover | ⟨r, hr, hpoint, hread⟩
  · exact .inl hover
  · rw [List.nil_append] at hr
    refine .inr ?_
    have hne := n.ne_nil
    have hplaces := n.isDigit_of_mem_places
    rw [hread]
    unfold Numeral.places Numeral.tail at *
    cases hfraction : n.fraction with
    | none =>
      have hstarted : r.started = true := by
        rw [hr.started]
        simpa [hfraction] using hne
      refine ⟨[], [], r, rfl, hr, by simp [NoRoom], ?_⟩
      rw [Option.elim_none, readFrom?, if_pos hstarted]
      rfl
    | some ds =>
      rw [hfraction] at hne hplaces
      have hfull : r.full = false := by rw [hr.full, hpoint, Bool.false_and]
      have hstep : readFrom? negative r ('.' :: ds) =
          readFrom? negative { r with point := true } ds := by
        rw [readFrom?, hfull, Bool.false_and, if_neg Bool.false_ne_true, if_neg (by decide),
          if_pos rfl, if_neg (by rw [hpoint]; exact Bool.false_ne_true)]
      obtain ⟨taken, rest, r', hds, hholds, hno, hround⟩ :=
        readFrom?_places negative (hr.behind_point hpoint) rfl hplaces (by simpa using hne)
      exact ⟨taken, rest, r', hds, hholds, hno, hstep.trans hround⟩

/-! ## Numbers that decimals are -/

/-- The number is that of a decimal. -/
def Exact (x : ℚ) : Prop :=
  ∃ d : Decimal, d.coefficient < coefficientBound ∧ d.scale ≤ maxScale ∧ d.value = x

/-- The least number that rounds to a coefficient out of bounds. -/
def limit : ℚ := coefficientBound - 1 / 2

theorem abs_scaled (negative : Bool) (coefficient scale : Nat) :
    |scaled negative coefficient scale| = scaled false coefficient scale := by
  have hpos : (0 : ℚ) ≤ coefficient / 10 ^ scale :=
    div_nonneg (Nat.cast_nonneg coefficient) (pow_nonneg (by decide) scale)
  unfold scaled
  cases negative with
  | true => rw [if_pos rfl, neg_one_mul, neg_div, abs_neg, abs_of_nonneg hpos]; simp
  | false => simp [abs_of_nonneg hpos]

theorem limit_le_iff (negative : Bool) (coefficient scale : Nat) :
    limit ≤ |scaled negative coefficient scale| ↔
      2 * coefficientBound * 10 ^ scale ≤ 2 * coefficient + 10 ^ scale := by
  have hpow : (0 : ℚ) < 10 ^ scale := pow_pos (by decide) scale
  have hcast : (2 * coefficientBound * 10 ^ scale ≤ 2 * coefficient + 10 ^ scale) ↔
      (2 * coefficientBound * 10 ^ scale : ℚ) ≤ 2 * coefficient + 10 ^ scale := by
    exact_mod_cast Iff.rfl
  rw [abs_scaled, hcast, limit, scaled, if_neg Bool.false_ne_true, one_mul, le_div_iff₀ hpow]
  constructor <;> intro h <;> linarith

theorem value_make (negative : Bool) (coefficient : Nat) {scale : Nat} (h : scale ≤ maxScale) :
    (make negative coefficient scale).value = scaled negative coefficient scale := by
  unfold value make
  dsimp only
  rw [Nat.mod_eq_of_lt (Nat.lt_succ_of_le h)]
  by_cases hzero : coefficient = 0
  · rw [hzero, scaled_zero, scaled_zero]
  · rw [bne_iff_ne.2 hzero, Bool.and_true]

theorem exact_make (negative : Bool) {coefficient : Nat} (h : coefficient < coefficientBound)
    (scale : Nat) : Exact (make negative coefficient scale).value :=
  ⟨_, h, Nat.le_of_lt_succ (Nat.mod_lt _ (Nat.succ_pos _)), rfl⟩

/-- Where a decimal has the number of all digits, those that there is no room for are zeros. -/
theorem ofDigits_rest_of_exact {r : Reading} {whole kept rest : List Char} {negative : Bool}
    (h : r.Holds whole kept) (hno : NoRoom whole kept rest) (hrest : ∀ c ∈ rest, c.isDigit = true)
    (hexact : Exact (scaled negative (r.coefficient * 10 ^ rest.length + ofDigits rest)
      (r.scale + rest.length))) :
    ofDigits rest = 0 := by
  obtain ⟨⟨negative', a, j⟩, ha, hj, hvalue⟩ := hexact
  dsimp only at ha hj
  have hscaled : a * 10 ^ (r.scale + rest.length) =
      (r.coefficient * 10 ^ rest.length + ofDigits rest) * 10 ^ j := by
    have habs := congrArg abs hvalue
    rw [value, abs_scaled, abs_scaled] at habs
    exact (scaled_eq_scaled_iff false _ _ _ _).1 habs
  by_cases hplaces : j ≤ r.scale
  · -- The decimal has no more places than are kept, so the rest is a multiple of its unit.
    obtain ⟨i, hi⟩ := Nat.exists_eq_add_of_le hplaces
    have hunit : 0 < 10 ^ j := Nat.pow_pos (by decide)
    have hmul : a * 10 ^ i * 10 ^ rest.length =
        r.coefficient * 10 ^ rest.length + ofDigits rest := by
      refine Nat.eq_of_mul_eq_mul_right hunit ?_
      rw [← hscaled, hi, pow_add, pow_add]
      ac_rfl
    have hdvd : 10 ^ rest.length ∣ ofDigits rest :=
      (Nat.dvd_add_right (Nat.dvd_mul_left _ _)).1 (hmul ▸ Nat.dvd_mul_left _ _)
    exact Nat.eq_zero_of_dvd_of_lt hdvd (ofDigits_lt hrest)
  · -- The next place would take the coefficient out of bounds, so no decimal has it.
    cases rest with
    | nil => rfl
    | cons c cs =>
      exfalso
      have hbound : coefficientBound ≤ r.coefficient * 10 + digitValue c := by
        rw [h.next c]
        refine (hno c rfl).resolve_left ?_
        have hscale := h.scale
        omega
      have hlarge : coefficientBound * 10 ^ cs.length ≤
          r.coefficient * 10 ^ (c :: cs).length + ofDigits (c :: cs) := by
        have hmul := Nat.mul_le_mul_right (10 ^ cs.length) hbound
        rw [Nat.add_mul, Nat.mul_assoc, ← pow_succ'] at hmul
        rw [ofDigits_cons, List.length_cons]
        omega
      have hpow : 10 ^ (r.scale + 1) ≤ 10 ^ j := Nat.pow_le_pow_right (by decide) (by omega)
      have hunit : 0 < 10 ^ (r.scale + (c :: cs).length) := Nat.pow_pos (by decide)
      have hless : a * 10 ^ (r.scale + (c :: cs).length) <
          a * 10 ^ (r.scale + (c :: cs).length) :=
        calc a * 10 ^ (r.scale + (c :: cs).length)
            < coefficientBound * 10 ^ (r.scale + (c :: cs).length) :=
              Nat.mul_lt_mul_of_pos_right ha hunit
          _ = coefficientBound * 10 ^ cs.length * 10 ^ (r.scale + 1) := by
              rw [List.length_cons, Nat.mul_assoc, ← pow_add]
              congr 2
              omega
          _ ≤ (r.coefficient * 10 ^ (c :: cs).length + ofDigits (c :: cs)) * 10 ^ j :=
              Nat.mul_le_mul hlarge hpow
          _ = a * 10 ^ (r.scale + (c :: cs).length) := hscaled.symm
      exact Nat.lt_irrefl _ hless

/-! ## Rounding -/

/-- Digits end a reading by the first of them alone. -/
theorem round?_digits (r : Reading) (negative : Bool) {rest : List Char}
    (hrest : ∀ c ∈ rest, c.isDigit = true) :
    (r.round? negative rest = r.roundedUp? negative ∧ 10 ^ rest.length ≤ 2 * ofDigits rest) ∨
    (r.round? negative rest = some (r.decimal negative) ∧
      2 * ofDigits rest < 10 ^ rest.length) := by
  have hall : rest.all (fun c => c.isDigit || c = '_') = true := by
    rw [List.all_eq_true]
    intro c hc
    rw [hrest c hc, Bool.true_or]
  unfold round?
  rw [hall, Bool.not_true, if_neg Bool.false_ne_true]
  cases rest with
  | nil => exact .inr ⟨rfl, by decide⟩
  | cons c cs =>
    have hc := hrest c List.mem_cons_self
    have hlt := ofDigits_lt fun d hd => hrest d (List.mem_cons_of_mem c hd)
    rw [List.head?_cons, Option.any_some, hc, Bool.true_and, ofDigits_cons, List.length_cons,
      Nat.pow_succ]
    by_cases hfive : 5 ≤ digitValue c
    · have hmul := Nat.mul_le_mul_right (10 ^ cs.length) hfive
      rw [if_pos (decide_eq_true hfive)]
      exact .inl ⟨rfl, by omega⟩
    · have hfour : digitValue c ≤ 4 := Nat.le_of_lt_succ (Nat.lt_of_not_le hfive)
      have hmul := Nat.mul_le_mul_right (10 ^ cs.length) hfour
      rw [if_neg (by rwa [decide_eq_true_eq])]
      exact .inr ⟨rfl, by omega⟩

/-- A number of `c` units `p` and `t` more is below the limit of `b` units `q * p`, when it rounds
down, or there is a coefficient or a place to spare. -/
theorem lt_limit {b c t p q : Nat} (hc : c < b) (ht : t < p) (hq : 0 < q)
    (h : 2 * t < p ∨ c + 1 < b ∨ 2 ≤ q) : 2 * (c * p + t) + q * p < 2 * b * (q * p) := by
  have hcq : c ≤ c * q := Nat.le_mul_of_pos_right c hq
  have hproduct : c * q + q ≤ b * q := by
    rw [← Nat.succ_mul]
    exact Nat.mul_le_mul_right q hc
  obtain ⟨k, hk, hunits⟩ : ∃ k, 2 * t < k * p ∧ 2 * c + k + q ≤ 2 * (b * q) := by
    rcases h with hdown | hspare | hplace
    · exact ⟨1, by omega, by omega⟩
    · have hproduct' := Nat.mul_le_mul_right q hspare
      rw [Nat.succ_mul, Nat.add_mul c] at hproduct'
      exact ⟨2, by omega, by omega⟩
    · exact ⟨2, by omega, by omega⟩
  calc 2 * (c * p + t) + q * p < (2 * c + k + q) * p := by
        rw [Nat.add_mul, Nat.add_mul, Nat.mul_assoc]
        omega
    _ ≤ 2 * (b * q) * p := Nat.mul_le_mul_right p hunits
    _ = 2 * b * (q * p) := by ac_rfl

/-- Where the reading of digits is rounded, it gives nothing exactly from the limit on; what it
gives is the number that is written exactly where this is the number of a decimal. -/
theorem round?_spec {r : Reading} {whole kept rest : List Char} (h : r.Holds whole kept)
    (hno : NoRoom whole kept rest) (hrest : ∀ c ∈ rest, c.isDigit = true) (negative : Bool) {x : ℚ}
    (hx : x = scaled negative (r.coefficient * 10 ^ rest.length + ofDigits rest)
      (r.scale + rest.length)) :
    (r.round? negative rest = none ∧ limit ≤ |x|) ∨
    ∃ d, r.round? negative rest = some d ∧ ¬ limit ≤ |x| ∧ (d.value = x ↔ Exact x) := by
  have hlimit : limit ≤ |x| ↔ 2 * coefficientBound * (10 ^ r.scale * 10 ^ rest.length) ≤
      2 * (r.coefficient * 10 ^ rest.length + ofDigits rest) +
        10 ^ r.scale * 10 ^ rest.length := by
    rw [hx, limit_le_iff, pow_add]
  have hzero : Exact x → ofDigits rest = 0 := by
    rintro hexact
    exact ofDigits_rest_of_exact h hno hrest (hx ▸ hexact)
  have hlt := ofDigits_lt hrest
  have hbelow : (2 * ofDigits rest < 10 ^ rest.length ∨ r.coefficient + 1 < coefficientBound ∨
      2 ≤ 10 ^ r.scale) → ¬ limit ≤ |x| := by
    intro hspare hle
    have hpow : 0 < 10 ^ r.scale := Nat.pow_pos (by decide)
    exact Nat.not_le_of_lt (lt_limit h.fits hlt hpow hspare) (hlimit.1 hle)
  rcases round?_digits r negative hrest with ⟨hround, hfive⟩ | ⟨hround, hfive⟩
  · -- The rest is no zero, so no decimal has the number.
    have hinexact : ¬ Exact x := by
      intro hexact
      have hrest0 := hzero hexact
      have hpos : 0 < 10 ^ rest.length := Nat.pow_pos (by decide)
      omega
    rw [hround, roundedUp?]
    by_cases hup : r.coefficient + 1 < coefficientBound
    · rw [if_pos hup]
      refine .inr ⟨_, rfl, hbelow (.inr (.inl hup)), iff_of_false ?_ hinexact⟩
      rintro rfl
      exact hinexact (exact_make _ hup _)
    · -- The greatest coefficient: it gives up its last place, and fails where it has none.
      have hlast : coefficientBound = r.coefficient + 1 :=
        Nat.le_antisymm (Nat.le_of_not_lt hup) h.fits
      rw [if_neg hup]
      by_cases hscale : r.scale = 0
      · rw [if_pos hscale]
        refine .inl ⟨rfl, hlimit.2 ?_⟩
        rw [hlast, hscale, pow_zero, Nat.one_mul, Nat.mul_assoc, Nat.add_mul r.coefficient]
        omega
      · rw [if_neg hscale]
        have hdown : (r.coefficient + 5) / 10 < coefficientBound := by
          have hlarge : 5 ≤ coefficientBound := by decide
          omega
        have hplace : 2 ≤ 10 ^ r.scale :=
          Nat.le_trans (by decide) (Nat.pow_le_pow_right (by decide) (Nat.pos_of_ne_zero hscale))
        refine .inr ⟨_, rfl, hbelow (.inr (.inr hplace)), iff_of_false ?_ hinexact⟩
        rintro rfl
        exact hinexact (exact_make _ hdown _)
  · have hvalue : (r.decimal negative).value = scaled negative r.coefficient r.scale := by
      refine value_make _ _ ?_
      rw [h.scale]
      exact h.room
    refine .inr ⟨_, hround, hbelow (.inl hfive), ?_⟩
    constructor
    · rintro rfl
      exact exact_make _ h.fits _
    · intro hexact
      rw [hvalue, hx, hzero hexact, Nat.add_zero, scaled_eq_scaled_iff, pow_add]
      ac_rfl

/-! ## Reading numerals -/

/-- Behind its sign, a numeral is read as nothing exactly from the limit on, and otherwise as its
number exactly where this is the number of a decimal. -/
theorem readFrom?_spec (n : Numeral) :
    (readFrom? n.sign.isMinus {} (n.whole ++ n.tail) = none ∧ limit ≤ |n.number|) ∨
    ∃ d, readFrom? n.sign.isMinus {} (n.whole ++ n.tail) = some d ∧ ¬ limit ≤ |n.number| ∧
      (d.value = n.number ↔ Exact n.number) := by
  rcases readFrom?_body n n.sign.isMinus with
    ⟨hover, hread⟩ | ⟨kept, rest, r, hplaces, hr, hno, hread⟩
  · refine .inl ⟨hread, ?_⟩
    rw [Numeral.number, limit_le_iff, ofDigits_append, Nat.mul_assoc]
    calc 2 * (coefficientBound * 10 ^ n.places.length)
        ≤ 2 * (ofDigits n.whole * 10 ^ n.places.length) :=
          Nat.mul_le_mul_left 2 (Nat.mul_le_mul_right _ hover)
      _ ≤ 2 * (ofDigits n.whole * 10 ^ n.places.length + ofDigits n.places) :=
          Nat.mul_le_mul_left 2 (Nat.le_add_right _ _)
      _ ≤ _ := Nat.le_add_right _ _
  · have hrest : ∀ c ∈ rest, c.isDigit = true := by
      intro c hc
      refine n.isDigit_of_mem_places c ?_
      rw [hplaces]
      exact List.mem_append_right kept hc
    rw [hread]
    refine round?_spec hr hno hrest n.sign.isMinus ?_
    rw [Numeral.number, hplaces, ← List.append_assoc, ofDigits_append, hr.coefficient, hr.scale,
      List.length_append]

theorem plain?_text (n : Numeral) :
    plain? n.text = readFrom? n.sign.isMinus {} (n.whole ++ n.tail) := by
  unfold Numeral.text
  cases n.sign with
  | absent =>
    rw [Sign.text, List.nil_append, plain?]
    · rfl
    · exact n.body_ne_cons (.inl rfl)
    · exact n.body_ne_cons (.inr rfl)
  | plus => rfl
  | minus => rfl

/-- There is no exponent in a numeral. -/
theorem scientific?_text (n : Numeral) : scientific? n.text = none := by
  have hmark : ∀ c ∈ n.text, (!isExponentMark c) = true :=
    n.of_mem_text (P := fun c => (!isExponentMark c) = true) (by decide) (by decide) (by decide)
      (by decide)
  have hdrop : n.text.dropWhile (!isExponentMark ·) = [] := List.dropWhile_eq_nil_iff.2 hmark
  unfold scientific?
  rw [hdrop]

theorem read?_text (n : Numeral) :
    (read? n.text = none ∧ limit ≤ |n.number|) ∨
    ∃ d, read? n.text = some d ∧ ¬ limit ≤ |n.number| ∧ (d.value = n.number ↔ Exact n.number) := by
  unfold read?
  rw [plain?_text, scientific?_text]
  rcases readFrom?_spec n with ⟨hread, hlimit⟩ | ⟨d, hread, hspec⟩
  · rw [hread]
    exact .inl ⟨rfl, hlimit⟩
  · rw [hread]
    exact .inr ⟨d, rfl, hspec⟩

end Decimal

end Number

end XmlTypes
