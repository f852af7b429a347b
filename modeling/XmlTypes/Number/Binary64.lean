import XmlTypes.Number.Decimal
/-!
# Double precision numbers

A finite double is `± mantissa · 2 ^ exponent` with a mantissa below `2 ^ 53` and an exponent of
at least `-1074`. Reading rounds the decimal that is written to the nearest double, ties to the
even mantissa. Writing gives the fewest digits that read back, nearest to the value among those,
and never an exponent. All of it is exact arithmetic on natural numbers.
-/

namespace XmlTypes.Number

/-- A double precision number. -/
inductive Binary64
  | nan
  | infinite (negative : Bool)
  | finite (negative : Bool) (mantissa : Nat) (exponent : Int)
deriving DecidableEq, Repr, Inhabited

namespace Binary64

/-- `num / den` rounded to the nearest natural number, ties to even. -/
def roundQuotient (num den : Nat) : Nat :=
  let q := num / den
  let r := num % den
  if 2 * r < den || (2 * r == den && q % 2 == 0) then q else q + 1

/-- `num / (den · 2 ^ e)` as a fraction. -/
def scaleBinary (num den : Nat) (e : Int) : Nat × Nat :=
  match e with
  | .ofNat k => (num, den * Nat.pow 2 k)
  | .negSucc k => (num * Nat.pow 2 (k + 1), den)

/-- The double nearest to the positive number `num / den`. -/
def ofFraction (negative : Bool) (num den : Nat) : Binary64 :=
  let estimate : Int := (num.log2 : Int) - (den.log2 : Int) - 53
  let (n, d) := scaleBinary num den estimate
  let exponent := max (if n / d < Nat.pow 2 53 then estimate else estimate + 1) (-1074)
  let (n, d) := scaleBinary num den exponent
  let mantissa := roundQuotient n d
  let (mantissa, exponent) :=
    if mantissa < Nat.pow 2 53 then (mantissa, exponent) else (mantissa / 2, exponent + 1)
  if 971 < exponent then .infinite negative else .finite negative mantissa exponent

/-- The double nearest to `coefficient · 10 ^ exponent`. -/
def ofDecimal (negative : Bool) (coefficient : Nat) (exponent : Int) : Binary64 :=
  if coefficient = 0 then .finite negative 0 (-1074)
  else if 400 < exponent then .infinite negative
  else if ((toString coefficient).length : Int) + exponent < -400 then .finite negative 0 (-1074)
  else match exponent with
    | .ofNat k => ofFraction negative (coefficient * Nat.pow 10 k) 1
    | .negSucc k => ofFraction negative coefficient (Nat.pow 10 (k + 1))

/-- The product of two doubles of which neither is negative, as a double. -/
def mul : Binary64 → Binary64 → Binary64
  | .finite _ m e, .finite _ n f =>
    if m * n = 0 then .finite false 0 (-1074)
    else match e + f with
      | .ofNat k => ofFraction false (m * n * Nat.pow 2 k) 1
      | .negSucc k => ofFraction false (m * n) (Nat.pow 2 (k + 1))
  | .nan, _ | _, .nan => .nan
  | x, .finite .. => x
  | _, x => x

/-- Digits with at most one point among or around them, then an optional exponent. -/
def unsignedDecimal? (negative : Bool) (cs : List Char) : Option Binary64 := do
  let whole := cs.takeWhile Char.isDigit
  let rest := cs.dropWhile Char.isDigit
  let (fraction, rest) := match rest with
    | '.' :: ds => (ds.takeWhile Char.isDigit, ds.dropWhile Char.isDigit)
    | ds => ([], ds)
  let coefficient ← digits? (whole ++ fraction)
  let exponent ← match rest with
    | [] => some 0
    | c :: ds => if Decimal.isExponentMark c then signed? ds else none
  some (ofDecimal negative coefficient (exponent - fraction.length))

/-- A number, or one of the words for infinity and not-a-number in any case. -/
def unsigned? (negative : Bool) (cs : List Char) : Option Binary64 :=
  let word := String.ofList (cs.map Char.toLower)
  if word = "inf" || word = "infinity" then some (.infinite negative)
  else if word = "nan" then some .nan
  else unsignedDecimal? negative cs

/-- Reads a double after an optional sign. -/
def read? : List Char → Option Binary64
  | '-' :: cs => unsigned? true cs
  | '+' :: cs => unsigned? false cs
  | cs => unsigned? false cs

/-! ## The fewest digits that read back -/

/-- A positive number in units of a quarter of the last binary place, between the bounds within
which every number rounds to it. -/
structure Neighbourhood where
  low : Nat
  value : Nat
  high : Nat
  unit : Nat
  /-- The bounds themselves round to the value. -/
  closed : Bool

/-- The neighbourhood of `mantissa · 2 ^ exponent`; all its numbers are over `unit`. Below a power
of two the next double is only half as far. -/
def neighbourhood (mantissa : Nat) (exponent : Int) : Neighbourhood :=
  let below := if mantissa == Nat.pow 2 52 && exponent != -1074 then 1 else 2
  let m := 4 * mantissa
  let (num, den) := match exponent with
    | .ofNat k => (Nat.pow 2 k, 4)
    | .negSucc k => (1, 4 * Nat.pow 2 (k + 1))
  ⟨(m - below) * num, m * num, (m + 2) * num, den, mantissa % 2 == 0⟩

/-- Whether `digits · 10 ^ place` lies in the neighbourhood. -/
def Neighbourhood.holds (n : Neighbourhood) (digits : Nat) (place : Int) : Bool :=
  let (x, s) := match place with
    | .ofNat k => (digits * Nat.pow 10 k * n.unit, 1)
    | .negSucc k => (digits * n.unit, Nat.pow 10 (k + 1))
  if n.closed then n.low * s ≤ x && x ≤ n.high * s else n.low * s < x && x < n.high * s

/-- The number of digits before the point of `num / den`; it is zero or negative for numbers
below one tenth. -/
def leadingPlace (num den : Nat) : Int :=
  if den ≤ num then ((toString (num / den)).length : Int)
  else 1 - ((toString ((den + num - 1) / num - 1)).length : Int)

/-- The two multiples of `10 ^ place` around `num / den`, the lower one first, and whether the
upper one is at least as near. -/
def gridNeighbours (num den : Nat) (place : Int) : Nat × Nat × Bool :=
  let (n, d) := match place with
    | .ofNat k => (num, den * Nat.pow 10 k)
    | .negSucc k => (num * Nat.pow 10 (k + 1), den)
  (n / d, n / d + 1, d ≤ 2 * (n % d))

/-- The first grid, from coarse to fine, with a point in the neighbourhood, and that point. -/
def shortestFrom (n : Neighbourhood) (leading : Int) : (fuel count : Nat) → Nat × Int
  | 0, count => ((gridNeighbours n.value n.unit (leading - count)).1, leading - count)
  | fuel + 1, count =>
    let place := leading - count
    let (lower, upper, upperNearer) := gridNeighbours n.value n.unit place
    match n.holds lower place, n.holds upper place with
    | true, true => (if upperNearer then upper else lower, place)
    | true, false => (lower, place)
    | false, true => (upper, place)
    | false, false => shortestFrom n leading fuel (count + 1)

/-- The fewest digits that read back as `mantissa · 2 ^ exponent`, and the place of the last of
them. Seventeen are always enough; a single digit may be carried to the next power of ten. -/
def shortest (mantissa : Nat) (exponent : Int) : Nat × Int :=
  let n := neighbourhood mantissa exponent
  let (digits, place) := shortestFrom n (leadingPlace n.value n.unit) 17 1
  if digits = 10 then (1, place + 1) else (digits, place)

/-- `digits · 10 ^ place` without an exponent. -/
def positional (digits : Nat) (place : Int) : List Char :=
  match place with
  | .ofNat k => (toString (digits * Nat.pow 10 k)).toList
  | .negSucc k => Decimal.placePoint digits (k + 1)

/-- The double as a literal. -/
def toText : Binary64 → String
  | .nan => "NaN"
  | .infinite false => "INF"
  | .infinite true => "-INF"
  | .finite negative mantissa exponent =>
    let text :=
      if mantissa = 0 then ['0']
      else let (digits, place) := shortest mantissa exponent; positional digits place
    String.ofList ((if negative then ['-'] else []) ++ text)

end Binary64

end XmlTypes.Number
