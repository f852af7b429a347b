import XmlTypes.Number.Digits
import XmlTypes.Text.Segments
/-!
# Numeric host addresses

Which texts are addresses of the Internet Protocol, version 4 and 6, in the forms that URLs allow.
-/

namespace XmlTypes.Uri

open Text (splitOn)

/-- Whether `c` is a hexadecimal digit. -/
def isHexDigit (c : Char) : Bool :=
  c.isDigit || ('a' ≤ c && c ≤ 'f') || ('A' ≤ c && c ≤ 'F')

/-- The value of a hexadecimal digit. -/
def hexDigitValue (c : Char) : Nat :=
  if c.isDigit then c.toNat - '0'.toNat
  else if 'a' ≤ c then c.toNat - 'a'.toNat + 10
  else c.toNat - 'A'.toNat + 10

/-! ## Version 4 -/

/-- A number of an address: hexadecimal after `0x`, octal after another leading zero. None if it
is no number; a number with no digits after its mark is zero. -/
def addressNumber? (cs : List Char) : Option Nat :=
  let (base, digits) := match cs with
    | '0' :: 'x' :: ds => (16, ds)
    | '0' :: 'X' :: ds => (16, ds)
    | '0' :: d :: ds => (8, d :: ds)
    | ds => (10, ds)
  if cs.isEmpty then none
  else if digits.all fun c => isHexDigit c && hexDigitValue c < base then
    some (digits.foldl (fun n c => n * base + hexDigitValue c) 0)
  else none

/-- The parts of a dotted name, without the empty part after a final dot. -/
def dottedParts (cs : List Char) : List (List Char) :=
  let parts := splitOn (· = '.') cs
  if parts.getLast? = some [] then parts.dropLast else parts

/-- Whether the last part of a dotted name is a number, so that the name must be an address. -/
def endsInNumber (cs : List Char) : Bool :=
  match (dottedParts cs).getLast? with
  | none => false
  | some part => (!part.isEmpty && part.all Char.isDigit) || (addressNumber? part).isSome

/-- Whether the text is an address of version 4: at most four numbers, of which the last fills the
bytes that the others leave. -/
def isVersion4 (cs : List Char) : Bool :=
  match (dottedParts cs).mapM addressNumber? with
  | none => false
  | some ns =>
    match ns.getLast? with
    | none => false
    | some last => ns.length ≤ 4 && last < Nat.pow 256 (5 - ns.length) && ns.dropLast.all (· < 256)

/-! ## Version 6 -/

/-- Whether the text is a byte in decimal, without leading zeros. -/
def isByte (cs : List Char) : Bool :=
  match Number.digits? cs with
  | none => false
  | some n => n < 256 && (cs.length = 1 || cs.head? ≠ some '0')

/-- Whether the text is four dotted bytes. -/
def isDottedBytes (cs : List Char) : Bool :=
  let parts := splitOn (· = '.') cs
  parts.length = 4 && parts.all isByte

/-- The number of 16-bit pieces that colon-separated groups stand for; only the last may be four
dotted bytes, and only where that is allowed. -/
def pieces? (dotted : Bool) : List (List Char) → Option Nat
  | [] => some 0
  | [g] =>
    if 1 ≤ g.length && g.length ≤ 4 && g.all isHexDigit then some 1
    else if dotted && isDottedBytes g then some 2
    else none
  | g :: gs =>
    if 1 ≤ g.length && g.length ≤ 4 && g.all isHexDigit then (pieces? dotted gs).map (· + 1)
    else none

/-- The text before and after the first double colon. -/
def splitDoubleColon : List Char → Option (List Char × List Char)
  | [] => none
  | ':' :: ':' :: cs => some ([], cs)
  | c :: cs => (splitDoubleColon cs).map fun s => (c :: s.1, s.2)

/-- The groups of one side of a double colon. -/
def groups (cs : List Char) : List (List Char) := if cs.isEmpty then [] else splitOn (· = ':') cs

/-- Whether the text is an address of version 6: eight pieces, or fewer around a double colon. -/
def isVersion6 (cs : List Char) : Bool :=
  match splitDoubleColon cs with
  | none => pieces? true (splitOn (· = ':') cs) = some 8
  | some (left, right) =>
    match pieces? false (groups left), pieces? true (groups right) with
    | some m, some n => m + n ≤ 7
    | _, _ => false

end XmlTypes.Uri
