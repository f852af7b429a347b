import Mathlib.Data.List.DropRight
import XmlTypes.Json.Printer
import XmlTypes.Json.Reader
/-!
# Written values are read back

A text *spells* a value if a reader that is given the text, and whatever may follow it, takes the
value and leaves what follows. Blanks before it do not matter. Spelled items in brackets spell an
array and spelled members in braces an object, so both printers spell the value they are given, at
every depth and for every string.
-/

namespace XmlTypes.Json

/-! ## Strings -/

theorem hex_below_0x10 : ∀ n < 0x10, ∃ d, Text.hex n = [d] ∧ hexWord? '0' '0' '0' d = some n := by
  intro n hn
  refine ⟨Nat.digitChar n, ?_⟩
  revert n
  decide

theorem hex_below_0x20 : ∀ n < 0x20, ¬ n < 0x10 →
    ∃ d, Text.hex n = ['1', d] ∧ hexWord? '0' '0' '1' d = some n := by
  intro n hn h
  refine ⟨Nat.digitChar (n - 0x10), ?_⟩
  revert n
  decide

/-- A character is escaped by a letter or by its code point, or it stands for itself. -/
theorem escape_cases (c : Char) :
    (∃ e, escape c = ['\\', e] ∧ e ≠ 'u' ∧ shortEscape? e = some c) ∨
    (∃ d₁ d₂ d₃ d₄, escape c = ['\\', 'u', d₁, d₂, d₃, d₄] ∧
      hexWord? d₁ d₂ d₃ d₄ = some c.toNat) ∨
    (escape c = [c] ∧ c ≠ '"' ∧ c ≠ '\\' ∧ ¬ c.toNat < 0x20) := by
  by_cases hshort : c ∈ ['"', '\\', '\n', '\r', '\t', '\x08', '\x0c']
  · refine .inl ?_
    simp only [List.mem_cons, List.not_mem_nil, or_false] at hshort
    rcases hshort with rfl | rfl | rfl | rfl | rfl | rfl | rfl <;>
      exact ⟨_, rfl, by decide, rfl⟩
  · simp only [List.mem_cons, List.not_mem_nil, or_false, not_or] at hshort
    obtain ⟨h1, h2, h3, h4, h5, h6, h7⟩ := hshort
    simp only [escape, h1, h2, h3, h4, h5, h6, h7, if_false]
    by_cases hlow : c.toNat < 0x10
    · obtain ⟨d, hhex, hword⟩ := hex_below_0x10 _ hlow
      exact .inr (.inl ⟨_, _, _, d, by simp [hlow, hhex], hword⟩)
    by_cases hhigh : c.toNat < 0x20
    · obtain ⟨d, hhex, hword⟩ := hex_below_0x20 _ hhigh hlow
      exact .inr (.inl ⟨_, _, _, d, by simp [hlow, hhigh, hhex], hword⟩)
    · exact .inr (.inr ⟨by simp [hlow, hhigh], h1, h2, hhigh⟩)

/-- Whatever way a character is escaped, its code point is read. -/
theorem readUnits_escape (c : Char) (rest : List Char) :
    readUnits (escape c ++ rest) = (readUnits rest).map fun p => (c.toNat :: p.1, p.2) := by
  rcases escape_cases c with ⟨e, heq, hu, he⟩ | ⟨d₁, d₂, d₃, d₄, heq, hword⟩ |
    ⟨heq, hquote, hslash, hcontrol⟩
  · rw [heq]
    show readUnits ('\\' :: e :: rest) = _
    rw [readUnits, he]
    · cases readUnits rest <;> rfl
    · intro _ _ _ _ _ h _
      exact hu h
  · rw [heq]
    show readUnits ('\\' :: 'u' :: d₁ :: d₂ :: d₃ :: d₄ :: rest) = _
    rw [readUnits, hword]
    cases readUnits rest <;> rfl
  · rw [heq]
    show readUnits (c :: rest) = _
    rw [readUnits]
    · cases readUnits rest <;> simp [hcontrol, hslash]
    · exact hquote
    · simp [hslash]
    · simp [hslash]

/-- The code points of a string are read up to its closing quote. -/
theorem readUnits_escapes (cs rest : List Char) :
    readUnits (cs.flatMap escape ++ '"' :: rest) = some (cs.map Char.toNat, rest) := by
  induction cs with
  | nil => simp [readUnits]
  | cons c cs ih => rw [List.flatMap_cons, List.append_assoc, readUnits_escape, ih]; rfl

/-- No character is half of a surrogate pair. -/
theorem not_half (c : Char) : (isHighHalf c.toNat || isLowHalf c.toNat) = false := by
  have hvalid := c.valid
  simp only [UInt32.isValidChar, Nat.isValidChar] at hvalid
  have htoNat : c.toNat = c.val.toNat := rfl
  simp only [isHighHalf, isLowHalf, Bool.or_eq_false_iff, Bool.and_eq_false_iff,
    decide_eq_false_iff_not]
  omega

/-- Code points of characters give these characters. -/
theorem joinHalves?_map (cs : List Char) : joinHalves? (cs.map Char.toNat) = some cs := by
  induction cs with
  | nil => simp [joinHalves?]
  | cons c cs ih =>
    have hc := not_half c
    -- Two code points are joined only where the first one is half of a pair.
    cases cs with
    | nil =>
      rw [List.map_cons, List.map_nil, joinHalves?, hc]
      simp
    | cons d ds =>
      rw [List.map_cons, List.map_cons, joinHalves?, ← List.map_cons, ih]
      simp only [Bool.or_eq_false_iff] at hc
      simp [hc.1, hc.2]

theorem readString_escapes (s : String) (rest : List Char) :
    readString (s.toList.flatMap escape ++ '"' :: rest) = some (some s, rest) := by
  simp [readString, readUnits_escapes, joinHalves?_map]

/-! ## Numbers -/

/-- The text after a number: no digit, no fraction and no exponent that would belong to it. -/
def EndsNumber (rest : List Char) : Prop :=
  ∀ c ∈ rest.head?, c.isDigit = false ∧ c ≠ '.' ∧ c ≠ 'e' ∧ c ≠ 'E'

theorem endsNumber_nil : EndsNumber [] := by simp [EndsNumber]

theorem continueDigits?_eq (n : Nat) (cs : List Char) (h : ∀ c ∈ cs, c.isDigit = true) :
    Number.continueDigits? n cs = some (Nat.ofDigitChars 10 cs n) := by
  induction cs generalizing n with
  | nil => rfl
  | cons c cs ih =>
    rw [Number.continueDigits?, if_pos (h c (by simp)), ih _ fun d hd => h d (by simp [hd]),
      Nat.ofDigitChars_cons, Nat.mul_comm]
    rfl

theorem isDigit_of_mem_decimal {n : Nat} {c : Char} (h : c ∈ Nat.toDigits 10 n) :
    c.isDigit = true :=
  Nat.isDigit_of_mem_toDigits (by decide) (by decide) h

theorem digits?_toDigits (n : Nat) : Number.digits? (Nat.toDigits 10 n) = some n := by
  cases hds : Nat.toDigits 10 n with
  | nil => exact absurd hds Nat.toDigits_ne_nil
  | cons d ds =>
    rw [Number.digits?, ← hds, continueDigits?_eq _ _ fun c => isDigit_of_mem_decimal,
      Nat.ofDigitChars_ten_toDigits]
    simp

/-- Only zero is written with a leading zero. -/
theorem eq_zero_of_head?_toDigits (n : Nat) (h : (Nat.toDigits 10 n).head? = some '0') : n = 0 := by
  induction n using Nat.strongRecOn with
  | ind n ih =>
    by_cases hlt : n < 10
    · have hdigit : ∀ d < 10, [Nat.digitChar d].head? = some '0' → d = 0 := by decide
      rw [Nat.toDigits_of_lt_base hlt] at h
      exact hdigit n hlt h
    · rw [Nat.toDigits_of_base_le (by decide) (by omega)] at h
      cases hds : Nat.toDigits 10 (n / 10) with
      | nil => exact absurd hds Nat.toDigits_ne_nil
      | cons d ds =>
        have hzero := ih (n / 10) (by omega) (by rw [hds] at h ⊢; exact h)
        omega

/-- A text is taken up to where a class of characters ends. -/
theorem takeWhile_append_head {p : Char → Bool} {cs rest : List Char} (hcs : ∀ c ∈ cs, p c = true)
    (hrest : ∀ c ∈ rest.head?, p c = false) : (cs ++ rest).takeWhile p = cs := by
  rw [List.takeWhile_append_of_pos hcs]
  cases rest with
  | nil => simp
  | cons c cs => simp [hrest c rfl]

theorem dropWhile_append_head {p : Char → Bool} {cs rest : List Char} (hcs : ∀ c ∈ cs, p c = true)
    (hrest : ∀ c ∈ rest.head?, p c = false) : (cs ++ rest).dropWhile p = rest := by
  rw [List.dropWhile_append_of_pos hcs]
  cases rest with
  | nil => rfl
  | cons c cs => simp [hrest c rfl]

theorem takeWhile_digits (n : Nat) (rest : List Char)
    (h : ∀ c ∈ rest.head?, c.isDigit = false) :
    (Nat.toDigits 10 n ++ rest).takeWhile Char.isDigit = Nat.toDigits 10 n :=
  takeWhile_append_head (fun _ => isDigit_of_mem_decimal) h

theorem dropWhile_digits (n : Nat) (rest : List Char)
    (h : ∀ c ∈ rest.head?, c.isDigit = false) :
    (Nat.toDigits 10 n ++ rest).dropWhile Char.isDigit = rest :=
  dropWhile_append_head (fun _ => isDigit_of_mem_decimal) h

/-- The digits of a number are read as its whole part, and the rest as what follows it. -/
theorem readUnsigned_toDigits (negative : Bool) (n : Nat) {rest rest' rest'' : List Char}
    {fraction : Option (List Char)} {exponent : Option Int} {v : Value}
    (h : ∀ c ∈ rest.head?, c.isDigit = false)
    (hfraction : readFraction rest = some (fraction, rest'))
    (hexponent : readExponent rest' = some (exponent, rest''))
    (hv : number negative (Nat.toDigits 10 n) fraction exponent = some v) :
    readUnsigned negative (Nat.toDigits 10 n ++ rest) = some (v, rest'') := by
  have hrest : rest.head?.any Char.isDigit = false := by
    cases rest with
    | nil => rfl
    | cons c cs => simpa using h c rfl
  -- A reader takes a leading zero for the whole part, so zero is a case of its own.
  by_cases hzero : n = 0
  · subst hzero
    show readUnsigned negative ('0' :: rest) = _
    have hdigits : Nat.toDigits 10 0 = ['0'] := rfl
    rw [hdigits] at hv
    simp [readUnsigned, hrest, hfraction, hexponent, hv]
  · have hhead : ∀ ds, Nat.toDigits 10 n ++ rest ≠ '0' :: ds := by
      intro ds heq
      cases hds : Nat.toDigits 10 n with
      | nil => exact Nat.toDigits_ne_nil hds
      | cons d _ =>
        rw [hds] at heq
        exact hzero (eq_zero_of_head?_toDigits n (by simp_all))
    have hwhole := takeWhile_digits n rest h
    have htail := dropWhile_digits n rest h
    have hne : (Nat.toDigits 10 n).isEmpty = false := by simp [Nat.toDigits_ne_nil]
    unfold readUnsigned
    split
    · rename_i ds whole tail heq
      split at heq
      · exact absurd ‹_› (hhead _)
      · obtain ⟨rfl, rfl⟩ := Prod.mk.inj heq
        simp [hwhole, htail, hne, hrest, hfraction, hexponent, hv]

/-- A negative integer is written after a minus sign. -/
theorem toList_toString_int (n : Int) :
    (toString n).toList = (if n < 0 then ['-'] else []) ++ Nat.toDigits 10 n.natAbs := by
  cases n with
  | ofNat m => simp [toString, Int.repr]
  | negSucc m => simp [toString, Int.repr]

theorem toList_toString_nat (n : Nat) : (toString n).toList = Nat.toDigits 10 n := by
  rw [Nat.toString_eq_ofList_toDigits, String.toList_ofList]

theorem readFraction_of_ends {rest : List Char} (h : ∀ c ∈ rest.head?, c ≠ '.') :
    readFraction rest = some (none, rest) := by
  unfold readFraction
  split
  · exact absurd rfl (h '.' rfl)
  · rfl

theorem readExponent_of_ends {rest : List Char} (h : ∀ c ∈ rest.head?, c ≠ 'e' ∧ c ≠ 'E') :
    readExponent rest = some (none, rest) := by
  cases rest with
  | nil => rfl
  | cons c cs => simp [readExponent, h c rfl]

theorem toDigits_append_ne {n : Nat} {c : Char} (hc : c.isDigit = false) (rest cs : List Char) :
    Nat.toDigits 10 n ++ rest ≠ c :: cs := by
  intro heq
  cases hds : Nat.toDigits 10 n with
  | nil => exact Nat.toDigits_ne_nil hds
  | cons d ds =>
    have hd : d.isDigit = true := isDigit_of_mem_decimal (n := n) (by simp [hds])
    rw [hds, List.cons_append] at heq
    rw [(List.cons.inj heq).1, hc] at hd
    cases hd

/-- An exponent is read back. -/
theorem readExponent_toString (e : Int) {rest : List Char} (h : EndsNumber rest) :
    readExponent ('e' :: ((toString e).toList ++ rest)) = some (some e, rest) := by
  have hrest : ∀ c ∈ rest.head?, c.isDigit = false := fun c hc => (h c hc).1
  rw [toList_toString_int]
  obtain ⟨m, hm⟩ : ∃ m, e.natAbs = m := ⟨_, rfl⟩
  rw [hm]
  have htake := takeWhile_digits m rest hrest
  have hdrop := dropWhile_digits m rest hrest
  by_cases hneg : e < 0
  · obtain rfl : e = -m := by omega
    rw [if_pos hneg]
    show readExponent ('e' :: '-' :: (Nat.toDigits 10 m ++ rest)) = _
    simp [readExponent, htake, hdrop, digits?_toDigits]
  · obtain rfl : e = m := by omega
    rw [if_neg hneg, List.nil_append, readExponent, if_pos (by rfl)]
    · simp [htake, hdrop, digits?_toDigits]
    · exact fun ds heq => toDigits_append_ne (by decide) _ _ heq
    · exact fun ds heq => toDigits_append_ne (by decide) _ _ heq

/-- An integer is read back: its sign tells whether the digits are negated. -/
theorem readNumber_integer (n : Int) {rest : List Char} (h : EndsNumber rest) :
    readNumber ((toString n).toList ++ rest) = some (.integer n, rest) := by
  have hdigits (negative : Bool) (m : Nat)
      (hn : number negative (Nat.toDigits 10 m) none none = some (.integer n)) :
      readUnsigned negative (Nat.toDigits 10 m ++ rest) = some (.integer n, rest) :=
    readUnsigned_toDigits negative _ (fun c hc => (h c hc).1)
      (readFraction_of_ends fun c hc => (h c hc).2.1)
      (readExponent_of_ends fun c hc => (h c hc).2.2) hn
  rw [toList_toString_int]
  obtain ⟨m, hm⟩ : ∃ m, n.natAbs = m := ⟨_, rfl⟩
  rw [hm]
  by_cases hneg : n < 0
  · obtain rfl : n = -m := by omega
    have hzero : m ≠ 0 := by omega
    rw [if_pos hneg]
    exact hdigits true m (by simp [number, digits?_toDigits, hzero])
  · obtain rfl : n = m := by omega
    rw [if_neg hneg, List.nil_append, readNumber]
    · exact hdigits false m (by simp [number, digits?_toDigits])
    · exact fun ds heq => toDigits_append_ne (by decide) _ _ heq

/-- A decimal is read back with its sign, coefficient and exponent. -/
theorem readNumber_decimal (negative : Bool) (c : Nat) (e : Int) {rest : List Char}
    (h : EndsNumber rest) :
    readNumber (scalar (.decimal negative c e) ++ rest) = some (.decimal negative c e, rest) := by
  have hdigits (negative : Bool) :
      readUnsigned negative (Nat.toDigits 10 c ++ 'e' :: ((toString e).toList ++ rest)) =
        some (.decimal negative c e, rest) :=
    readUnsigned_toDigits negative c (by simp) (readFraction_of_ends (by simp))
      (readExponent_toString e h) (by simp [number, digits?_toDigits])
  have htext : scalar (.decimal negative c e) ++ rest = (if negative then ['-'] else []) ++
      (Nat.toDigits 10 c ++ 'e' :: ((toString e).toList ++ rest)) := by
    rw [scalar, toList_toString_nat]
    simp only [List.append_assoc, List.cons_append]
  rw [htext]
  cases negative with
  | true => exact hdigits true
  | false =>
    show readNumber (Nat.toDigits 10 c ++ _) = _
    rw [readNumber, hdigits]
    exact fun ds heq => toDigits_append_ne (by decide) _ _ heq

/-! ## Spellings -/

/-- Whether there are only blanks in `cs`. -/
def Blanks (cs : List Char) : Prop := ∀ c ∈ cs, isBlank c = true

theorem blanks_nil : Blanks [] := by simp [Blanks]

theorem blanks_space : Blanks [' '] := by simp [Blanks, isBlank]

theorem blanks_newLine (level : Nat) : Blanks (newLine level) := by
  intro c hc
  simp only [newLine, List.mem_cons, List.mem_replicate] at hc
  rcases hc with rfl | ⟨-, rfl⟩ <;> rfl

theorem skipBlanks_append {ws : List Char} (h : Blanks ws) (cs : List Char) :
    skipBlanks (ws ++ cs) = skipBlanks cs :=
  List.dropWhile_append_of_pos h

theorem skipBlanks_cons {c : Char} (h : isBlank c = false) (cs : List Char) :
    skipBlanks (c :: cs) = c :: cs := by
  simp [skipBlanks, h]

theorem skipBlanks_skipBlanks (cs : List Char) : skipBlanks (skipBlanks cs) = skipBlanks cs :=
  List.dropWhile_idempotent _ cs

/-- A number ends where a blank, a comma or a closing bracket follows. -/
theorem endsNumber_blanks {ws cs : List Char} (hws : Blanks ws) (h : EndsNumber cs) :
    EndsNumber (ws ++ cs) := by
  cases ws with
  | nil => exact h
  | cons w ws =>
    have hw := hws w (by simp)
    simp only [isBlank, Bool.or_eq_true, decide_eq_true_eq] at hw
    rcases hw with ((rfl | rfl) | rfl) | rfl <;> simp [EndsNumber]

/-- `cs` spells `v`: whatever follows `cs`, a value is read and it is `v`. Each character takes at
most two nested steps. -/
def Spells (cs : List Char) (v : Value) : Prop :=
  ∀ fuel rest, 2 * cs.length < fuel → EndsNumber rest → readValue fuel (cs ++ rest) = some (v, rest)

/-- `cs` spells the items `vs` of an array and its closing bracket. -/
def SpellsItems (cs : List Char) (vs : List Value) : Prop :=
  ∀ fuel rest, 2 * cs.length ≤ fuel → readItems fuel (cs ++ rest) = some (vs, rest)

/-- `cs` spells the members `ms` of an object and its closing brace. -/
def SpellsMembers (cs : List Char) (ms : Members) : Prop :=
  ∀ fuel rest, 2 * cs.length ≤ fuel →
    readMembers fuel (cs ++ rest) = some (ms.map fun m => (some m.1, m.2), rest)

-- The readers are opened wherever their fuel is known to be a successor.
attribute [local simp] readValue readItems readMembers

theorem readValue_skipBlanks (fuel : Nat) (cs : List Char) :
    readValue fuel (skipBlanks cs) = readValue fuel cs := by
  cases fuel with
  | zero => simp
  | succ fuel => simp only [readValue, skipBlanks_skipBlanks]

theorem readItems_skipBlanks (fuel : Nat) (cs : List Char) :
    readItems fuel (skipBlanks cs) = readItems fuel cs := by
  cases fuel with
  | zero => simp
  | succ fuel => simp only [readItems, readValue_skipBlanks]

theorem readMembers_skipBlanks (fuel : Nat) (cs : List Char) :
    readMembers fuel (skipBlanks cs) = readMembers fuel cs := by
  cases fuel with
  | zero => simp
  | succ fuel => simp only [readMembers, skipBlanks_skipBlanks]

variable {ws cs cs' : List Char} {v : Value} {vs : List Value} {ms : Members}

/-- Blanks before a value belong to its spelling. -/
theorem Spells.after_blanks (hws : Blanks ws) (h : Spells cs v) : Spells (ws ++ cs) v := by
  intro fuel rest hfuel hrest
  rw [List.length_append] at hfuel
  rw [← readValue_skipBlanks, List.append_assoc, skipBlanks_append hws, readValue_skipBlanks]
  exact h fuel rest (by omega) hrest

theorem SpellsItems.after_blanks (hws : Blanks ws) (h : SpellsItems cs vs) :
    SpellsItems (ws ++ cs) vs := by
  intro fuel rest hfuel
  rw [List.length_append] at hfuel
  rw [← readItems_skipBlanks, List.append_assoc, skipBlanks_append hws, readItems_skipBlanks]
  exact h fuel rest (by omega)

theorem SpellsMembers.after_blanks (hws : Blanks ws) (h : SpellsMembers cs ms) :
    SpellsMembers (ws ++ cs) ms := by
  intro fuel rest hfuel
  rw [List.length_append] at hfuel
  rw [← readMembers_skipBlanks, List.append_assoc, skipBlanks_append hws, readMembers_skipBlanks]
  exact h fuel rest (by omega)

/-- The last item, and blanks before the closing bracket. -/
theorem Spells.last_item (h : Spells cs v) (ws : List Char) (hws : Blanks ws) :
    SpellsItems (cs ++ (ws ++ [']'])) [v] := by
  intro fuel rest hfuel
  simp only [List.length_append, List.length_cons, List.length_nil] at hfuel
  obtain ⟨fuel, rfl⟩ := Nat.exists_eq_add_one_of_ne_zero (by omega : fuel ≠ 0)
  have hv := h fuel (ws ++ ']' :: rest) (by omega)
    (endsNumber_blanks hws (by simp [EndsNumber]))
  simp [hv, skipBlanks_append hws, skipBlanks_cons, isBlank]

/-- An item, a comma and the items after it. -/
theorem Spells.item (h : Spells cs v) (hs : SpellsItems cs' vs) :
    SpellsItems (cs ++ ',' :: cs') (v :: vs) := by
  intro fuel rest hfuel
  simp only [List.length_append, List.length_cons] at hfuel
  obtain ⟨fuel, rfl⟩ := Nat.exists_eq_add_one_of_ne_zero (by omega : fuel ≠ 0)
  have hv := h fuel (',' :: (cs' ++ rest)) (by omega) (by simp [EndsNumber])
  have hvs := hs fuel rest (by omega)
  simp [hv, hvs, skipBlanks_cons, isBlank]

/-- The last member, and blanks before the closing brace. -/
theorem Spells.last_member (h : Spells cs v) (key : String) (ws : List Char) (hws : Blanks ws) :
    SpellsMembers (quoted key ++ ':' :: (cs ++ (ws ++ ['\x7d']))) [(key, v)] := by
  intro fuel rest hfuel
  simp only [List.length_append, List.length_cons, List.length_nil] at hfuel
  obtain ⟨fuel, rfl⟩ := Nat.exists_eq_add_one_of_ne_zero (by omega : fuel ≠ 0)
  have hv := h fuel (ws ++ '\x7d' :: rest) (by omega)
    (endsNumber_blanks hws (by simp [EndsNumber]))
  simp [quoted, readString_escapes, hv, skipBlanks_append hws, skipBlanks_cons,
    isBlank]

/-- A member, a comma and the members after it. -/
theorem Spells.member (h : Spells cs v) (key : String) (hs : SpellsMembers cs' ms) :
    SpellsMembers (quoted key ++ ':' :: (cs ++ ',' :: cs')) ((key, v) :: ms) := by
  intro fuel rest hfuel
  simp only [List.length_append, List.length_cons] at hfuel
  obtain ⟨fuel, rfl⟩ := Nat.exists_eq_add_one_of_ne_zero (by omega : fuel ≠ 0)
  have hv := h fuel (',' :: (cs' ++ rest)) (by omega) (by simp [EndsNumber])
  have hms := hs fuel rest (by omega)
  simp [quoted, readString_escapes, hv, hms, skipBlanks_cons, isBlank]

/-- A closing bracket begins no value. -/
theorem readValue_of_bracket {fuel : Nat} {cs rest : List Char} (h : skipBlanks cs = ']' :: rest) :
    readValue fuel cs = none := by
  cases fuel with
  | zero => simp
  | succ fuel => simp [h, readNumber, readUnsigned]

/-- Items in brackets spell an array. -/
theorem SpellsItems.array (h : SpellsItems cs vs) : Spells ('[' :: cs) (.array vs) := by
  intro fuel rest hfuel _
  rw [List.length_cons] at hfuel
  obtain ⟨fuel, rfl⟩ := Nat.exists_eq_add_one_of_ne_zero (by omega : fuel ≠ 0)
  have hvs := h fuel rest (by omega)
  -- A reader looks for an empty array first. There is none here: an item can be read.
  have hitem : ∀ tail, skipBlanks (cs ++ rest) ≠ ']' :: tail := by
    intro tail heq
    obtain ⟨fuel, rfl⟩ := Nat.exists_eq_add_one_of_ne_zero (by omega : fuel ≠ 0)
    simp [readValue_of_bracket heq] at hvs
  rw [← readItems_skipBlanks] at hvs
  simp [skipBlanks_cons, isBlank, hvs]

theorem objectOf_map (ms : Members) : objectOf (ms.map fun m => (some m.1, m.2)) = .object ms := by
  have hkeys : (ms.map fun m => (some m.1, m.2)).mapM (fun m => m.1.map fun k => (k, m.2)) =
      some ms := by
    induction ms with
    | nil => rfl
    | cons m ms ih => simp [List.mapM_cons, ih]
  rw [objectOf, hkeys]

/-- Members in braces spell an object. -/
theorem SpellsMembers.object (h : SpellsMembers cs ms) :
    Spells ('\x7b' :: cs) (.object ms) := by
  intro fuel rest hfuel _
  rw [List.length_cons] at hfuel
  obtain ⟨fuel, rfl⟩ := Nat.exists_eq_add_one_of_ne_zero (by omega : fuel ≠ 0)
  have hms := h fuel rest (by omega)
  have hmember : ∀ tail, skipBlanks (cs ++ rest) ≠ '\x7d' :: tail := by
    intro tail heq
    obtain ⟨fuel, rfl⟩ := Nat.exists_eq_add_one_of_ne_zero (by omega : fuel ≠ 0)
    simp [heq] at hms
  rw [← readMembers_skipBlanks] at hms
  simp [skipBlanks_cons, isBlank, hms, objectOf_map]

theorem spells_nil_array : Spells ['[', ']'] (.array []) := by
  intro fuel rest hfuel _
  obtain ⟨fuel, rfl⟩ := Nat.exists_eq_add_one_of_ne_zero (by omega : fuel ≠ 0)
  simp [skipBlanks_cons, isBlank]

theorem spells_nil_object : Spells ['\x7b', '\x7d'] (.object []) := by
  intro fuel rest hfuel _
  obtain ⟨fuel, rfl⟩ := Nat.exists_eq_add_one_of_ne_zero (by omega : fuel ≠ 0)
  simp [skipBlanks_cons, isBlank]

theorem spells_quoted (s : String) : Spells (quoted s) (.string s) := by
  intro fuel rest hfuel _
  obtain ⟨fuel, rfl⟩ := Nat.exists_eq_add_one_of_ne_zero (by omega : fuel ≠ 0)
  simp [quoted, skipBlanks_cons, isBlank, readString_escapes]

/-- A text that begins like a number is read as one. -/
theorem readValue_of_number {fuel : Nat} {c : Char} (hc : c = '-' ∨ c.isDigit = true)
    (cs : List Char) : readValue (fuel + 1) (c :: cs) = readNumber (c :: cs) := by
  have hblank : isBlank c = false := by
    rcases hc with rfl | hc
    · rfl
    · simp only [isBlank, Bool.or_eq_false_iff, decide_eq_false_iff_not]
      refine ⟨⟨⟨?_, ?_⟩, ?_⟩, ?_⟩ <;> rintro rfl <;> cases hc
  rw [readValue, skipBlanks_cons hblank]
  split <;> simp_all [Char.isDigit]

/-- The text of a number spells it. -/
theorem spells_of_readNumber (hhead : ∀ c ∈ cs.head?, c = '-' ∨ c.isDigit = true)
    (h : ∀ rest, EndsNumber rest → readNumber (cs ++ rest) = some (v, rest)) : Spells cs v := by
  intro fuel rest hfuel hrest
  obtain ⟨fuel, rfl⟩ := Nat.exists_eq_add_one_of_ne_zero (by omega : fuel ≠ 0)
  cases cs with
  | nil =>
    have hnone := h [] endsNumber_nil
    simp [readNumber, readUnsigned] at hnone
  | cons c cs =>
    rw [← h rest hrest]
    exact readValue_of_number (hhead c rfl) _

theorem head?_numeral (n : Nat) (rest : List Char) :
    ∀ c ∈ (Nat.toDigits 10 n ++ rest).head?, c.isDigit = true := by
  intro c hc
  cases hds : Nat.toDigits 10 n with
  | nil => exact absurd hds Nat.toDigits_ne_nil
  | cons d ds =>
    rw [hds] at hc
    obtain rfl : d = c := Option.some.inj hc
    exact isDigit_of_mem_decimal (n := n) (by simp [hds])

theorem spells_integer (n : Int) : Spells (toString n).toList (.integer n) := by
  apply spells_of_readNumber
  · rw [toList_toString_int]
    intro c hc
    split at hc
    · exact .inl (Option.some.inj hc).symm
    · exact .inr (head?_numeral _ [] c (by simpa using hc))
  · exact fun rest hrest => readNumber_integer n hrest

theorem spells_decimal (negative : Bool) (c : Nat) (e : Int) :
    Spells (scalar (.decimal negative c e)) (.decimal negative c e) := by
  apply spells_of_readNumber
  · intro d hd
    cases negative with
    | true => exact .inl (Option.some.inj hd).symm
    | false =>
      refine .inr (head?_numeral c ('e' :: (toString e).toList) d ?_)
      rw [← toList_toString_nat]
      exact hd
  · exact fun rest hrest => readNumber_decimal negative c e hrest

/-! ## Printed values -/

mutual

/-- Whether no part of the value is ill-formed. -/
def Value.isWellFormed : Value → Bool
  | .array items => Value.itemsWellFormed items
  | .object members => Value.membersWellFormed members
  | .illFormed => false
  | _ => true

/-- Whether all items are well-formed. -/
def Value.itemsWellFormed : List Value → Bool
  | [] => true
  | v :: vs => v.isWellFormed && Value.itemsWellFormed vs

/-- Whether the values of all members are well-formed. -/
def Value.membersWellFormed : List (String × Value) → Bool
  | [] => true
  | m :: ms => m.2.isWellFormed && Value.membersWellFormed ms

end

@[simp]
theorem Value.itemsWellFormed_iff (vs : List Value) :
    Value.itemsWellFormed vs = true ↔ ∀ v ∈ vs, v.isWellFormed = true := by
  induction vs with
  | nil => simp [Value.itemsWellFormed]
  | cons v vs ih => simp [Value.itemsWellFormed, ih]

@[simp]
theorem Value.membersWellFormed_iff (ms : Members) :
    Value.membersWellFormed ms = true ↔ ∀ m ∈ ms, m.2.isWellFormed = true := by
  induction ms with
  | nil => simp [Value.membersWellFormed]
  | cons m ms ih => simp [Value.membersWellFormed, ih]

mutual

/-- What is printed without blanks is read back. -/
theorem spells_compact : ∀ v : Value, v.isWellFormed = true → Spells (compact v) v
  | .null, _ => by
    intro fuel rest hfuel _
    obtain ⟨fuel, rfl⟩ := Nat.exists_eq_add_one_of_ne_zero (by omega : fuel ≠ 0)
    simp [compact, scalar, skipBlanks_cons, isBlank]
  | .bool b, _ => by
    intro fuel rest hfuel _
    obtain ⟨fuel, rfl⟩ := Nat.exists_eq_add_one_of_ne_zero (by omega : fuel ≠ 0)
    cases b <;> simp [compact, scalar, skipBlanks_cons, isBlank]
  | .integer n, _ => spells_integer n
  | .decimal negative c e, _ => spells_decimal negative c e
  | .string s, _ => spells_quoted s
  | .array [], _ => spells_nil_array
  | .array (v :: vs), h => (spells_compactItems (v :: vs) (by simp) h).array
  | .object [], _ => spells_nil_object
  | .object (m :: ms), h => (spells_compactMembers (m :: ms) (by simp) h).object
  | .illFormed, h => by cases h

theorem spells_compactItems : ∀ vs : List Value, vs ≠ [] → Value.itemsWellFormed vs = true →
    SpellsItems (compactItems vs) vs
  | [], hne, _ => absurd rfl hne
  | [v], _, h => by
    rw [Value.itemsWellFormed, Bool.and_eq_true] at h
    simpa [compactItems] using (spells_compact v h.1).last_item [] blanks_nil
  | v :: w :: vs, _, h => by
    rw [Value.itemsWellFormed, Bool.and_eq_true] at h
    exact (spells_compact v h.1).item (spells_compactItems (w :: vs) (by simp) h.2)

theorem spells_compactMembers : ∀ ms : List (String × Value), ms ≠ [] →
    Value.membersWellFormed ms = true → SpellsMembers (compactMembers ms) ms
  | [], hne, _ => absurd rfl hne
  | [(k, v)], _, h => by
    rw [Value.membersWellFormed, Bool.and_eq_true] at h
    simpa [compactMembers] using
      (spells_compact v h.1).last_member k [] blanks_nil
  | (k, v) :: m :: ms, _, h => by
    rw [Value.membersWellFormed, Bool.and_eq_true] at h
    simpa [compactMembers] using
      (spells_compact v h.1).member k (spells_compactMembers (m :: ms) (by simp) h.2)

end

mutual

/-- What is printed with one item or member a line is read back, at every level. -/
theorem spells_indented : ∀ (v : Value) (level : Nat), v.isWellFormed = true →
    Spells (indented level v) v
  | .null, _, h => spells_compact .null h
  | .bool b, _, h => spells_compact (.bool b) h
  | .integer n, _, _ => spells_integer n
  | .decimal negative c e, _, _ => spells_decimal negative c e
  | .string s, _, _ => spells_quoted s
  | .array [], _, _ => spells_nil_array
  | .array (v :: vs), level, h =>
    ((spells_indentedItems (v :: vs) level (by simp) h).after_blanks (blanks_newLine _)).array
  | .object [], _, _ => spells_nil_object
  | .object (m :: ms), level, h =>
    ((spells_indentedMembers (m :: ms) level (by simp) h).after_blanks (blanks_newLine _)).object
  | .illFormed, _, h => by cases h

theorem spells_indentedItems : ∀ (vs : List Value) (level : Nat), vs ≠ [] →
    Value.itemsWellFormed vs = true → SpellsItems (indentedItems level vs) vs
  | [], _, hne, _ => absurd rfl hne
  | [v], level, _, h => by
    rw [Value.itemsWellFormed, Bool.and_eq_true] at h
    simpa [indentedItems] using
      (spells_indented v (level + 1) h.1).last_item _ (blanks_newLine level)
  | v :: w :: vs, level, _, h => by
    rw [Value.itemsWellFormed, Bool.and_eq_true] at h
    have htail := (spells_indentedItems (w :: vs) level (by simp) h.2).after_blanks
      (blanks_newLine (level + 1))
    simpa [indentedItems] using (spells_indented v (level + 1) h.1).item htail

theorem spells_indentedMembers : ∀ (ms : List (String × Value)) (level : Nat), ms ≠ [] →
    Value.membersWellFormed ms = true → SpellsMembers (indentedMembers level ms) ms
  | [], _, hne, _ => absurd rfl hne
  | [(k, v)], level, _, h => by
    rw [Value.membersWellFormed, Bool.and_eq_true] at h
    have hv := (spells_indented v (level + 1) h.1).after_blanks blanks_space
    simpa [indentedMembers] using hv.last_member k _ (blanks_newLine level)
  | (k, v) :: m :: ms, level, _, h => by
    rw [Value.membersWellFormed, Bool.and_eq_true] at h
    have hv := (spells_indented v (level + 1) h.1).after_blanks blanks_space
    have htail := (spells_indentedMembers (m :: ms) level (by simp) h.2).after_blanks
      (blanks_newLine (level + 1))
    simpa [indentedMembers] using hv.member k htail

end

namespace Value

theorem read?_of_spells {cs : List Char} {v : Value} (h : Spells cs v) :
    Value.read? (String.ofList cs) = some v := by
  have hread := h (2 * cs.length + 2) [] (by omega) endsNumber_nil
  rw [List.append_nil] at hread
  simp only [Value.read?, String.toList_ofList, hread]
  rfl

/-- The text of a value without blanks is read back as the value. -/
theorem read?_toCompact {v : Value} (h : v.isWellFormed = true) :
    Value.read? v.toCompact = some v :=
  read?_of_spells (spells_compact v h)

/-- The text of a value with one item or member a line is read back as the value. -/
theorem read?_toIndented {v : Value} (h : v.isWellFormed = true) :
    Value.read? v.toIndented = some v :=
  read?_of_spells (spells_indented v 0 h)

end Value

end XmlTypes.Json
