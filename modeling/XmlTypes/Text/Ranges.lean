/-!
# Sets of characters

A set of characters is written as a list of inclusive ranges of code points, which is how the
properties of the character database are tabulated in the modules beside this one.
-/

namespace XmlTypes.Text

/-- Inclusive ranges of code points. -/
abbrev Ranges := List (Nat × Nat)

/-- Whether some range of `rs` holds the code point of `c`. -/
def Ranges.contains (rs : Ranges) (c : Char) : Bool :=
  rs.any fun r => r.1 ≤ c.toNat && c.toNat ≤ r.2

end XmlTypes.Text
