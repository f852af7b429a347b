import XmlTypes.Text.Quoted
import XmlTypes.Text.Segments
/-!
# Segments of a path

The path of a URL is its segments between separators. The characters of a segment are escaped where
need be; a dot segment stands for a way through the path and leaves nothing of itself.
-/

namespace XmlTypes.Uri

/-- The kinds of schemes: files, the well-known schemes with a domain, and all others. -/
inductive SchemeKind
  | file | special | other
deriving DecidableEq, Repr, Inhabited

/-- The kind of a scheme in lower case. -/
def SchemeKind.of (scheme : String) : SchemeKind :=
  if scheme = "file" then .file
  else if ["http", "https", "ws", "wss", "ftp"].contains scheme then .special
  else .other

/-- Whether a backslash separates like a slash. -/
def SchemeKind.isSpecial : SchemeKind → Bool
  | .other => false
  | _ => true

/-- Whether `c` separates the segments of a path. -/
def isSlash (kind : SchemeKind) (c : Char) : Bool := c = '/' || (kind.isSpecial && c = '\\')

/-- Whether `c` ends a path. -/
def endsPath (c : Char) : Bool := c = '?' || c = '#'

/-- Whether a character of a path is escaped. -/
def isEscaped (c : Char) : Bool :=
  c.toNat ≤ 0x20 || 0x7f ≤ c.toNat || "\"<>`#?\x7b\x7d".toList.contains c

/-- A byte as a percent sign and two hexadecimal digits. -/
def percentByte (b : UInt8) : List Char :=
  '%' :: (if b < 16 then ['0'] else []) ++ (Text.hex b.toNat).map Char.toUpper

/-- One character of a path. -/
def percentEncode (c : Char) : List Char :=
  if isEscaped c then (String.singleton c).toUTF8.toList.flatMap percentByte else [c]

/-- The segment with escaped dots as dots. -/
def plainDots : List Char → List Char
  | '%' :: '2' :: 'e' :: cs => '.' :: plainDots cs
  | '%' :: '2' :: 'E' :: cs => '.' :: plainDots cs
  | c :: cs => c :: plainDots cs
  | [] => []

/-- Whether the segment leads nowhere else. -/
def isHere (s : List Char) : Bool := plainDots s = ['.']

/-- Whether the segment leads back by one. -/
def isBack (s : List Char) : Bool := plainDots s = ['.', '.']

/-- The last segment of a path as the URL keeps it. -/
def keptSegment (s : List Char) : List Char :=
  if isHere s || isBack s then [] else s.flatMap percentEncode

end XmlTypes.Uri
