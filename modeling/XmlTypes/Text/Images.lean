import XmlTypes.Text.Segments
/-!
# Tables of images

A table that gives characters other texts is written in blocks: the images of consecutive
characters, between spaces.
-/

namespace XmlTypes.Text

/-- The images of the characters from `first` on. -/
structure ImageBlock where
  first : Nat
  words : String

/-- The images of some characters, as blocks of consecutive characters. -/
abbrev Images := List (Nat × List (List Char))

/-- The images that are written in the blocks. -/
def Images.ofBlocks (bs : List ImageBlock) : Images :=
  bs.map fun b => (b.first, splitOn (· = ' ') b.words.toList)

/-- The image of `c`, if the table gives one. -/
def Images.image? (t : Images) (c : Char) : Option (List Char) :=
  t.findSome? fun b => if b.1 ≤ c.toNat then b.2[c.toNat - b.1]? else none

/-- The character whose image is `cs`, if there is one. -/
def Images.preimage? (t : Images) (cs : List Char) : Option Char :=
  t.findSome? fun b => (b.2.findIdx? (· = cs)).map fun i => Char.ofNat (b.1 + i)

end XmlTypes.Text
