import XmlTypes.Uri.Host
import XmlTypes.Uri.Segment
/-!
# Paths of files

The URL of a file may begin its path with a drive letter, whose colon may be written as a bar. The
segments before the last one matter only because they decide whether it begins the path. Tabs and
line ends are gaps: they are no part of the text, but one after a drive letter that begins the path
ends the segment.
-/

namespace XmlTypes.Uri

/-- Whether `c` is left out wherever it stands. -/
def isGap (c : Char) : Bool := c = '\t' || c = '\n' || c = '\r'

/-- The text that has the gaps left out. -/
def withoutGaps (cs : List Char) : List Char := cs.filter fun c => !isGap c

/-- Whether the segment is a drive letter with a colon or a bar. -/
def isDriveLike : List Char → Bool
  | [c, d] => c.isAlpha && (d = ':' || d = '|')
  | _ => false

/-- What follows a drive letter with a colon and a gap, if the segment begins with them and goes
on. -/
def afterDrive? (s : List Char) : Option (List Char) :=
  match s.dropWhile isGap with
  | [] => none
  | c :: cs =>
    match cs.dropWhile isGap with
    | ':' :: g :: rest =>
      if c.isAlpha && isGap g && rest.any (!isGap ·) then some (withoutGaps rest) else none
    | _ => none

/-- The segments up to `s`, last first, where `above` are those before it. Nothing leads back over
a drive letter, and what follows a drive letter and a gap leads nowhere. -/
def pathThrough (above : List (List Char)) (s : List Char) : List (List Char) :=
  match above, afterDrive? s with
  | [], some rest => [rest, (withoutGaps s).take 2]
  | _, _ =>
    let s := withoutGaps s
    if isHere s then above
    else if isBack s then if above.head?.any isDriveLike then above else above.tail
    else s :: above

/-- The last segment `s` of a file's path as the URL keeps it, where `above` are the segments before
it. A drive that begins the path gets a colon. -/
def keptFileSegment (above : List (List Char)) (s : List Char) : List Char :=
  match above, afterDrive? s with
  | [], some rest => rest.flatMap percentEncode
  | _, _ =>
    let s := withoutGaps s
    if above.isEmpty && isDriveLike s then s.take 1 ++ [':'] else keptSegment s

/-- The last segment of the file's path that `cs` begins with, without the separator before its
first segment. -/
def lastFileSegment (cs : List Char) : List Char :=
  let segments := Text.splitOn (isSlash .file) (cs.takeWhile fun c => !endsPath c)
  keptFileSegment (segments.dropLast.foldl pathThrough []) (segments.getLastD [])

/-- What follows a separator, if the text begins with one. -/
def afterSlash? (cs : List Char) : Option (List Char) :=
  match cs.dropWhile isGap with
  | [] => none
  | c :: cs => if isSlash .file c then some cs else none

/-- The host that a file URL need not name. -/
def localHost : List Char := "localhost".toList

/-- The last segment of the path of a file URL, of which `cs` is what follows the scheme. Where no
host is named after two separators, the separator that follows them is part of the path. -/
def fileSegment? (cs : List Char) : Option (List Char) :=
  match afterSlash? cs with
  | none => some (lastFileSegment cs)
  | some path =>
    match afterSlash? path with
    | none => some (lastFileSegment path)
    | some rest =>
      let endsHost := fun c => isSlash .file c || endsPath c
      let host := withoutGaps (rest.takeWhile fun c => !endsHost c)
      let path := rest.dropWhile fun c => !endsHost c
      if isDriveLike host then some (lastFileSegment rest)
      else if host.isEmpty then some (lastFileSegment path)
      else (domainOrAddress? host).map fun name =>
        lastFileSegment (if name = localHost then path else (afterSlash? path).getD path)

end XmlTypes.Uri
