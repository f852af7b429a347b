import XmlTypes.Text.Case
import XmlTypes.Text.Composition
import XmlTypes.Text.Direction
import XmlTypes.Text.Joining
import XmlTypes.Text.Shown
import XmlTypes.Uri.DomainTable
import XmlTypes.Uri.Punycode
/-!
# Domains

A domain is read without regard to case and to the ways in which its characters may be written,
and its labels, between full stops, must be such that nobody is misled: no label begins with a
combining mark, joiners stand only where they join, and where anything runs from right to left,
each label keeps one direction.
-/

namespace XmlTypes.Uri

open Text (Direction)

/-! ## Characters -/

/-- The images of the characters that stand for others. -/
def domainImages : Text.Images := .ofBlocks images

/-- Whether `c` is a joiner or a non-joiner. -/
def isJoiner (c : Char) : Bool := c.toNat = 0x200c || c.toNat = 0x200d

/-- What `c` is read as in a domain; none if no domain may hold it. -/
def imageOf? (c : Char) : Option (List Char) :=
  if c.toNat < 0x80 then some [c.toLower]
  else if isJoiner c then some [c]
  else if passedOver.contains c then some []
  else match domainImages.image? c with
    | some cs => some cs
    | none =>
      if Text.isHidden c || excluded.contains c then none else some (Text.lowerChar c)

/-- The text of a domain as it is read. -/
def mapped? (cs : List Char) : Option (List Char) := do
  return Text.composed (← cs.mapM imageOf?).flatten

/-- ASCII characters that no domain may hold. -/
def isForbiddenInDomain (c : Char) : Bool :=
  c.toNat ≤ 0x20 || c.toNat = 0x7f || "#/:<>?@[\\]^|%".toList.contains c

/-! ## Labels -/

/-- The beginning of a label that carries another one. -/
def carrierMark : List Char := "xn--".toList

/-- The label that `carried` carries: it has characters beyond ASCII, and reading it as the text
of a domain gives itself. -/
def carriedLabel? (carried : List Char) : Option (List Char) :=
  if carried.any (fun c => 0x80 ≤ c.toNat) || carried.getLast?.all (· = '-') then none
  else do
    let label ← Punycode.decode? carried
    if label.any (fun c => isForbiddenInDomain c || c = '.') then none
    else if mapped? label = some label then return label
    else none

/-- Whether each joiner has a virama before it, or, for a non-joiner, stands between letters that
would join. The characters before `cs` are given backwards. -/
def joinersInPlace : (before cs : List Char) → Bool
  | _, [] => true
  | before, c :: cs =>
    (!isJoiner c
      || (match before with
        | [] => false
        | b :: bs =>
          Text.combiningClass b = Text.viramaClass
            || (c.toNat = 0x200c && Text.meetsJoining Text.joinsNext (b :: bs)
              && Text.meetsJoining Text.joinsPrevious cs)))
      && joinersInPlace (c :: before) cs

/-- The label that is read as `cs`, or that it carries. -/
def label? (cs : List Char) : Option (List Char) := do
  let label ← match Text.dropHead? carrierMark cs with
    | some carried => carriedLabel? carried
    | none => some cs
  if label.head?.any Text.isMark || !joinersInPlace [] label then none else return label

/-! ## Directions -/

/-- Whether the class belongs to text that runs from right to left. -/
def runsLeft (d : Direction) : Bool :=
  d = .rightToLeft || d = .arabicLetter || d = .arabicNumber

/-- Whether the class may stand in a label of either direction. -/
def isWeak (d : Direction) : Bool :=
  [.europeanNumber, .numberSign, .numberUnit, .numberDivider, .nonspacing, .invisible,
    .neutral].contains d

/-- Whether a label keeps one direction: it begins with a letter of the direction, ends with a
letter or number of it, apart from nonspacing marks, and does not mix the two kinds of numbers. -/
def keepsDirection (label : List Char) : Bool :=
  match label.map Direction.of with
  | [] => true
  | first :: ds =>
    let core := ((first :: ds).reverse.dropWhile (· = .nonspacing)).reverse
    if first = .leftToRight then
      core.all (fun d => d = .leftToRight || isWeak d)
        && core.getLast?.all (fun d => d = .leftToRight || d = .europeanNumber)
    else if first = .rightToLeft || first = .arabicLetter then
      core.all (fun d => runsLeft d || isWeak d)
        && core.getLast?.all (fun d => runsLeft d || d = .europeanNumber)
        && !(core.contains .europeanNumber && core.contains .arabicNumber)
    else false

/-! ## The whole -/

/-- The text of a domain as it is read, if it is one. -/
def domain? (cs : List Char) : Option (List Char) := do
  let text ← mapped? cs
  if text.any isForbiddenInDomain then none
  let labels ← (Text.splitOn (· = '.') text).mapM label?
  if labels.any (·.any fun c => runsLeft (.of c)) && !labels.all keepsDirection then none
  return text

end XmlTypes.Uri
