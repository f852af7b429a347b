import XmlTypes.Uri.Address
import XmlTypes.Uri.Domain
/-!
# Hosts

Which texts may stand for the host of a URL. The host of a URL with a well-known scheme is a
domain, written with percent escapes if need be, or a numeric address; other schemes have opaque
hosts, of which only some characters are excluded.
-/

namespace XmlTypes.Uri

/-- Decodes percent escapes to bytes. A percent sign without two hexadecimal digits stands for
itself. -/
def percentDecode : List Char → List UInt8
  | '%' :: a :: b :: cs =>
    if isHexDigit a && isHexDigit b then
      (hexDigitValue a * 16 + hexDigitValue b).toUInt8 :: percentDecode cs
    else '%'.toNat.toUInt8 :: percentDecode (a :: b :: cs)
  | c :: cs => (String.singleton c).toUTF8.toList ++ percentDecode cs
  | [] => []

/-- Characters that no opaque host may hold. -/
def isForbiddenInOpaque (c : Char) : Bool :=
  c = '\x00' || c = '\t' || c = '\n' || c = '\r' || " #/:<>?@[\\]^|".toList.contains c

/-- The address between square brackets, if the host begins with one. -/
def bracketed? : List Char → Option (Option (List Char))
  | '[' :: cs => if cs.getLast? = some ']' then some (some cs.dropLast) else none
  | _ => some none

/-- The domain or address that a host is read as; a domain that ends in a number must be an
address. -/
def domainOrAddress? (cs : List Char) : Option (List Char) := do
  match ← bracketed? cs with
  | some address => if isVersion6 address then return cs else none
  | none =>
    let text ← String.fromUTF8? ⟨(percentDecode cs).toArray⟩
    let domain ← domain? text.toList
    if domain.isEmpty || (endsInNumber domain && !isVersion4 domain) then none
    else return domain

/-- Whether the text is an opaque host. -/
def isOpaqueHost (cs : List Char) : Bool :=
  match bracketed? cs with
  | none => false
  | some (some address) => isVersion6 address
  | some none => !cs.any isForbiddenInOpaque

end XmlTypes.Uri
