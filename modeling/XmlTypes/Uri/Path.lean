import XmlTypes.Uri.FilePath
/-!
# The last segment of a URL

The path of a URL is its segments between separators. What names a document is the last of them,
with its characters escaped, and empty if it is a dot segment. A text that is no URL, or a URL
without a hierarchical path, has no segments.
-/

namespace XmlTypes.Uri

/-- The last segment of the path that `cs` begins with. -/
def lastSegmentOf (kind : SchemeKind) (cs : List Char) : List Char :=
  keptSegment (Text.lastSegment (isSlash kind) (cs.takeWhile fun c => !endsPath c))

/-- Whether `c` ends the part of a URL that holds user and host. -/
def endsAuthority (kind : SchemeKind) (c : Char) : Bool :=
  isSlash kind c || endsPath c

/-- The host and the text after it, where a colon within brackets is part of the host. -/
def splitHost : (bracket : Bool) → List Char → List Char × List Char
  | _, [] => ([], [])
  | bracket, c :: cs =>
    if c = ':' && !bracket then ([], c :: cs)
    else
      let bracket := if c = '[' then true else if c = ']' then false else bracket
      let (host, rest) := splitHost bracket cs
      (c :: host, rest)

/-- What follows the port, if the text after a host begins with one. A backslash ends a port, and
then the authority as well. -/
def afterPort? : List Char → Option (List Char)
  | ':' :: cs =>
    let port := cs.takeWhile Char.isDigit
    let rest := cs.dropWhile Char.isDigit
    if (Number.continueDigits? 0 port).all (· < 65536) && rest.head?.all (· = '\\') then some rest
    else none
  | cs => some cs

/-- What of an authority follows its port, if user, host and port are in order, where `rest`
follows the authority. What stands before the last `@` is the user; it is none at all if it is
empty or a lone colon, and only then, and only without a port, may a host be empty, which no
well-known scheme allows. -/
def afterHost? (kind : SchemeKind) (authority rest : List Char) : Option (List Char) :=
  let parts := Text.splitOn (· = '@') authority
  let hostPort := parts.getLastD []
  let hasUser := !([[], [[]], [[':']]].contains parts.dropLast)
  let (host, port) := splitHost false hostPort
  let lonelyMark := parts.dropLast = [[]] && hostPort.isEmpty && !rest.isEmpty
  let hostInOrder :=
    if host.isEmpty then !kind.isSpecial && port.isEmpty && !hasUser
    else if kind.isSpecial then (domainOrAddress? host).isSome else isOpaqueHost host
  if !lonelyMark && hostInOrder then afterPort? port else none

/-- The last segment of the path after the authority that `cs` begins with. -/
def afterAuthority? (kind : SchemeKind) (cs : List Char) : Option (List Char) := do
  let authority := cs.takeWhile fun c => !endsAuthority kind c
  let rest := cs.dropWhile fun c => !endsAuthority kind c
  let path := (← afterHost? kind authority rest) ++ rest
  if !kind.isSpecial && (path.isEmpty || path.head?.any endsPath) then none
  else return lastSegmentOf kind path

/-- Whether a scheme may hold `c`. -/
def isSchemeChar (c : Char) : Bool := c.isAlphanum || c = '+' || c = '-' || c = '.'

/-- The scheme in lower case, and what follows its colon. -/
def scheme? (cs : List Char) : Option (String × List Char) :=
  let name := withoutGaps (cs.takeWhile (· ≠ ':'))
  match cs.dropWhile (· ≠ ':') with
  | [] => none
  | _ :: rest =>
    if name.head?.any Char.isAlpha && name.all isSchemeChar then
      some (String.ofList (name.map Char.toLower), rest)
    else none

/-- The text without the controls and blanks at its ends. -/
def trimmed (cs : List Char) : List Char :=
  let outer := fun (c : Char) => decide (c.toNat ≤ 0x20)
  ((cs.dropWhile outer).reverse.dropWhile outer).reverse

/-- The last segment of the path of a URL, none if the text is no URL or its path is opaque. -/
def lastSegment? (cs : List Char) : Option (List Char) := do
  let (scheme, rest) ← scheme? (trimmed cs)
  match SchemeKind.of scheme with
  | .file => fileSegment? rest
  | .special => afterAuthority? .special ((withoutGaps rest).dropWhile (isSlash .special))
  | .other =>
    match withoutGaps rest with
    | '/' :: '/' :: cs => afterAuthority? .other cs
    | '/' :: cs => some (lastSegmentOf .other cs)
    | _ => none

/-- The last segment of the path of a URL, if it is not empty; otherwise what follows the last
slash or backslash of the text, if that is not empty. -/
def fileName? (source : String) : Option String :=
  let fallback := Text.lastSegment (fun c => c = '/' || c = '\\') source.toList
  match lastSegment? source.toList with
  | some (c :: cs) => some (String.ofList (c :: cs))
  | _ => if fallback.isEmpty then none else some (String.ofList fallback)

end XmlTypes.Uri
