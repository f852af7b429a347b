import XmlTypes.Text.CompositionTable
import XmlTypes.Text.Marks
/-!
# Composed text

Accented letters and Hangul syllables can be written as one character or as a sequence. The
composed form of a text takes every character apart, orders the marks after each character by
their combining class, and joins again what can be joined. Two texts that differ only in how they
are written have the same composed form.
-/

namespace XmlTypes.Text

/-! ## Hangul syllables

A syllable is a leading consonant, a vowel and, if it is not open, a trailing consonant. The
syllables are in the order of these three. -/

/-- The first leading consonant. -/
def leadBase : Nat := 0x1100

/-- The first vowel. -/
def vowelBase : Nat := 0x1161

/-- The place before the first trailing consonant, which stands for an open syllable. -/
def trailBase : Nat := 0x11a7

/-- The first syllable. -/
def syllableBase : Nat := 0xac00

/-- The number of leading consonants. -/
def leadCount : Nat := 19

/-- The number of vowels. -/
def vowelCount : Nat := 21

/-- The number of trailing consonants, counting none as one. -/
def trailCount : Nat := 28

/-- The letters of the syllable `c`, if it is one. -/
def syllableLetters? (c : Char) : Option (List Char) :=
  let n := c.toNat - syllableBase
  if syllableBase ≤ c.toNat && n < leadCount * vowelCount * trailCount then
    let trail := n % trailCount
    some (Char.ofNat (leadBase + n / trailCount / vowelCount)
      :: Char.ofNat (vowelBase + n / trailCount % vowelCount)
      :: if trail = 0 then [] else [Char.ofNat (trailBase + trail)])
  else none

/-- The syllable that `s` and `c` make: a leading consonant and a vowel, or an open syllable and a
trailing consonant. -/
def syllable? (s c : Char) : Option Char :=
  let lead := s.toNat - leadBase
  let vowel := c.toNat - vowelBase
  let offset := s.toNat - syllableBase
  let trail := c.toNat - trailBase
  if leadBase ≤ s.toNat && lead < leadCount && vowelBase ≤ c.toNat && vowel < vowelCount then
    some (Char.ofNat (syllableBase + (lead * vowelCount + vowel) * trailCount))
  else if syllableBase ≤ s.toNat && offset < leadCount * vowelCount * trailCount
      && offset % trailCount = 0 && trailBase < c.toNat && trail < trailCount then
    some (Char.ofNat (s.toNat + trail))
  else none

/-! ## Taking apart and joining -/

/-- The decompositions of composites. -/
def compositeImages : Images := .ofBlocks composites

/-- The decompositions of the other characters. -/
def replacedImages : Images := .ofBlocks replaced

/-- The full decomposition of `c`; most characters are their own. -/
def decompose (c : Char) : List Char :=
  if c.toNat < 0xc0 then [c]
  else (syllableLetters? c <|> compositeImages.image? c <|> replacedImages.image? c).getD [c]

/-- The character that `s` and a following `c` make, if there is one. -/
def composite? (s c : Char) : Option Char :=
  if c.toNat < 0x300 then none
  else syllable? s c <|> compositeImages.preimage? (decompose s ++ [c])

/-- Puts `c` after a text that is given backwards: a mark goes before the marks of a higher
class. -/
def insertMark (c : Char) : List Char → List Char
  | [] => [c]
  | d :: ds =>
    if 0 < combiningClass c && combiningClass c < combiningClass d then d :: insertMark c ds
    else c :: d :: ds

/-- The text with the marks after each character in the order of their classes. -/
def orderMarks (cs : List Char) : List Char :=
  (cs.foldl (fun before c => insertMark c before) []).reverse

/-- Joins the character `s` and the marks `marks` that have stayed after it, given backwards, with
what follows. A mark joins unless one of its class or a higher one stands between. -/
def joinFrom (s : Char) (marks : List Char) : List Char → List Char
  | [] => s :: marks.reverse
  | c :: cs =>
    let joined :=
      if marks.all fun m => combiningClass m < combiningClass c then composite? s c else none
    match joined with
    | some s => joinFrom s marks cs
    | none =>
      if combiningClass c = 0 then s :: marks.reverse ++ joinFrom c [] cs
      else joinFrom s (c :: marks) cs

/-- Joins each character with the marks after it; marks at the beginning stay as they are. -/
def join : List Char → List Char
  | [] => []
  | c :: cs => if combiningClass c = 0 then joinFrom c [] cs else c :: join cs

/-- The composed form of a text. -/
def composed (cs : List Char) : List Char := join (orderMarks (cs.flatMap decompose))

end XmlTypes.Text
