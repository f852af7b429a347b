/-!
# Punycode

A label with characters beyond ASCII is carried in ASCII letters, digits and hyphens: first its
ASCII characters and a hyphen, then numbers that tell which other characters come where. A number
is written to the base 36 with the least digit first; how large its digits may be before it goes on
adapts to the numbers before it.
-/

namespace XmlTypes.Uri.Punycode

/-- The value of a digit: `a` to `z`, then `0` to `9`. -/
def digit? (c : Char) : Option Nat :=
  if 'a' ≤ c && c ≤ 'z' then some (c.toNat - 'a'.toNat)
  else if c.isDigit then some (c.toNat - '0'.toNat + 26)
  else none

/-- The least value with which a digit at `place`, counted in steps of 36, does not end its
number. -/
def threshold (bias place : Nat) : Nat := max 1 (min 26 (place - bias))

/-- Reads a number from its digits on, the first of which counts `weight`. -/
def readNumber? (bias : Nat) : (place weight : Nat) → List Char → Option (Nat × List Char)
  | _, _, [] => none
  | place, weight, c :: cs =>
    match digit? c with
    | none => none
    | some d =>
      if d < threshold bias place then some (d * weight, cs)
      else (readNumber? bias (place + 36) (weight * (36 - threshold bias place)) cs).map fun r =>
        (d * weight + r.1, r.2)

/-- Reading a number takes a digit at least. -/
theorem readNumber?_length {bias place weight n : Nat} {cs rest : List Char}
    (h : readNumber? bias place weight cs = some (n, rest)) : rest.length < cs.length := by
  induction cs generalizing place weight n with
  | nil => simp [readNumber?] at h
  | cons c cs ih =>
    rw [readNumber?] at h
    split at h
    · cases h
    · split at h
      · cases h; simp
      · obtain ⟨r, hr, heq⟩ := Option.map_eq_some_iff.1 h
        cases heq
        exact Nat.lt_succ_of_lt (ih hr)

/-- Divides by 35 down to 455 and tells by how many steps of 36 this raises the bias. -/
def damp (n : Nat) : Nat × Nat :=
  if 455 < n then
    let (m, k) := damp (n / 35)
    (m, k + 36)
  else (n, 0)
termination_by n
decreasing_by omega

/-- The bias after the number `n` has placed a character, with which there are `count`. -/
def adapt (n count : Nat) (first : Bool) : Nat :=
  let n := if first then n / 700 else n / 2
  let (m, k) := damp (n + n / count)
  k + 36 * m / (m + 38)

/-- Inserts characters into `label` as the numbers tell. Each number counts on from the last
character placed, `code` at the place before `place`: first through the places of the label, then
through the code points. -/
def insertFrom? (bias code place : Nat) (label cs : List Char) : Option (List Char) :=
  if cs.isEmpty then some label
  else match h : readNumber? bias 36 1 cs with
    | none => none
    | some (n, rest) =>
      let count := label.length + 1
      let code := code + (place + n) / count
      let i := (place + n) % count
      if Nat.isValidChar code then
        insertFrom? (adapt n count (place = 0)) code (i + 1)
          (label.insertIdx i (Char.ofNat code)) rest
      else none
termination_by cs.length
decreasing_by exact readNumber?_length h

/-- The ASCII characters before the last hyphen, and what follows it; without a hyphen there are
no ASCII characters. -/
def splitHyphen (cs : List Char) : List Char × List Char :=
  let numbers := (cs.reverse.takeWhile (· ≠ '-')).reverse
  (cs.take (cs.length - numbers.length - 1), numbers)

/-- The label that the text carries. -/
def decode? (cs : List Char) : Option (List Char) :=
  let (ascii, numbers) := splitHyphen cs
  insertFrom? 72 0x80 0 ascii numbers

end XmlTypes.Uri.Punycode
