import XmlTypes.Number.Digits
/-!
# Scaled decimals

A decimal is a coefficient of at most 96 bits and a scale, the number of its fraction digits, of
at most 28. Reading keeps the scale that is written: `1.50` has scale two. Fraction digits for
which there is no room are dropped, and the first of them rounds the coefficient half up; integer
digits for which there is no room make the text unreadable. A text that is no plain decimal may
still be one in scientific form.
-/

namespace XmlTypes.Number

/-- The number `± coefficient / 10 ^ scale`. -/
structure Decimal where
  negative : Bool
  coefficient : Nat
  scale : Nat
deriving DecidableEq, Repr, Inhabited

namespace Decimal

/-- Coefficients are below this bound. -/
def coefficientBound : Nat := Nat.pow 2 96

/-- The greatest number of fraction digits. -/
def maxScale : Nat := 28

/-- A decimal with the given parts; zero is never negative, and scales are counted modulo 29. -/
def make (negative : Bool) (coefficient scale : Nat) : Decimal :=
  ⟨negative && coefficient != 0, coefficient, scale % (maxScale + 1)⟩

/-- Coefficients from this bound on are wide: another digit may no longer fit 64 bits. -/
def wideBound : Nat := 1844674407370954906

/-- What has been read of a decimal. -/
structure Reading where
  coefficient : Nat := 0
  scale : Nat := 0
  /-- The decimal point is behind. -/
  point : Bool := false
  /-- A digit is behind. -/
  started : Bool := false
  /-- The last digit took the last place of the fraction. -/
  full : Bool := false
  /-- The coefficient was wide when the last digit came. -/
  wide : Bool := false

namespace Reading

/-- The reading after a digit that fits. -/
def push (r : Reading) (coefficient : Nat) : Reading :=
  let scale := if r.point then r.scale + 1 else 0
  { r with
    coefficient, scale
    started := true
    full := r.point && maxScale ≤ scale
    wide := wideBound ≤ r.coefficient }

/-- The decimal that has been read. -/
def decimal (r : Reading) (negative : Bool) : Decimal := make negative r.coefficient r.scale

/-- The decimal that has been read, with one added to its coefficient. If that takes the
coefficient beyond its bound, its last fraction digit is rounded half up. -/
def roundedUp? (r : Reading) (negative : Bool) : Option Decimal :=
  if r.coefficient + 1 < coefficientBound then some (make negative (r.coefficient + 1) r.scale)
  else if r.scale = 0 then none
  else some (make negative ((r.coefficient + 5) / 10) (r.scale - 1))

/-- Ends the reading where there is no room for what follows: digits and separators, the first of
which rounds. A separator counts as zero. -/
def round? (r : Reading) (negative : Bool) (cs : List Char) : Option Decimal :=
  if !cs.all fun c => c.isDigit || c = '_' then none
  else if cs.head?.any fun c => c.isDigit && 5 ≤ digitValue c then r.roundedUp? negative
  else some (r.decimal negative)

end Reading

/-- Reads on after `r`. Where the fraction is full, a separator is passed over in a wide decimal,
and the digit after it still counts if it fits. -/
def readFrom? (negative : Bool) : (r : Reading) → List Char → Option Decimal
  | r, [] => if r.started then some (r.decimal negative) else none
  | r, c :: cs =>
    if r.full && !(r.wide && c = '_') then r.round? negative (c :: cs)
    else if c.isDigit then
      let next := r.coefficient * 10 + digitValue c
      if next < coefficientBound then readFrom? negative (r.push next) cs
      else if r.point then r.round? negative (c :: cs)
      else none
    else if c = '.' then
      if r.point then none else readFrom? negative { r with point := true } cs
    else if c = '_' then
      if r.started then readFrom? negative { r with full := false } cs else none
    else none

/-- A plain decimal: an optional sign, digits with at most one point among or around them, and
underscores after the first digit. -/
def plain? : List Char → Option Decimal
  | '-' :: cs => readFrom? true {} cs
  | '+' :: cs => readFrom? false {} cs
  | cs => readFrom? false {} cs

/-- Whether `c` introduces an exponent. -/
def isExponentMark (c : Char) : Bool := c = 'e' || c = 'E'

/-- Moves the point of `d` to the right by `e` places. A point that leaves the digits is followed
by zeros, and no fraction digit is left then. -/
def shiftRight? (d : Decimal) (e : Nat) : Option Decimal :=
  if e ≤ d.scale then some { d with scale := d.scale - e }
  else
    let coefficient := d.coefficient * Nat.pow 10 (e - d.scale)
    if coefficient < coefficientBound then some { d with coefficient, scale := 0 } else none

/-- Moves the point of `d` to the left by `e` places. Fraction digits for which there is no room
are dropped, and the first of them rounds the coefficient half up; the sign stays. -/
def shiftLeft (d : Decimal) (e : Nat) : Decimal :=
  let scale := d.scale + e
  if scale ≤ maxScale then { d with scale }
  else
    let unit := Nat.pow 10 (scale - maxScale)
    { d with coefficient := (2 * d.coefficient + unit) / (2 * unit), scale := maxScale }

/-- The exponent that the digits give; it is at most 28. -/
def exponent? (cs : List Char) : Option Nat := do
  let e ← unsigned? cs
  if e ≤ maxScale then return e else none

/-- A plain decimal, an exponent mark and an exponent. -/
def scientific? (cs : List Char) : Option Decimal :=
  match cs.dropWhile (!isExponentMark ·) with
  | [] => none
  | _ :: exponent => do
    let d ← plain? (cs.takeWhile (!isExponentMark ·))
    match exponent with
    | '-' :: ds => return d.shiftLeft (← exponent? ds)
    | ds => d.shiftRight? (← exponent? ds)

/-- Reads a decimal, plain or scientific. -/
def read? (cs : List Char) : Option Decimal :=
  (plain? cs).orElse fun _ => scientific? cs

/-- The digits of `coefficient` with a point before the last `scale` of them, and at least one
digit before the point. -/
def placePoint (coefficient scale : Nat) : List Char :=
  if scale = 0 then (toString coefficient).toList
  else
    let ds := padded (scale + 1) coefficient
    ds.take (ds.length - scale) ++ '.' :: ds.drop (ds.length - scale)

/-- The decimal with all the fraction digits of its scale. -/
def toText (d : Decimal) : String :=
  String.ofList ((if d.negative then ['-'] else []) ++ placePoint d.coefficient d.scale)

end Decimal

end XmlTypes.Number
