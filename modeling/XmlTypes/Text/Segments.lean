/-!
# Cutting a text at separators

`splitOn` keeps every segment, empty ones included, so that a text with `n` separators has `n + 1`
segments.
-/

namespace XmlTypes.Text

/-- The segments of `cs` between the characters that `p` selects. -/
def splitOn (p : Char → Bool) : List Char → List (List Char)
  | [] => [[]]
  | c :: cs =>
    match splitOn p cs with
    | [] => [[c]]
    | s :: ss => if p c then [] :: s :: ss else (c :: s) :: ss

/-- The text after the last separator, which is all of `cs` when there is none. -/
def lastSegment (p : Char → Bool) (cs : List Char) : List Char :=
  (splitOn p cs).getLastD []

/-- What follows `head` in `cs`, when `cs` begins with it. -/
def dropHead? : (head cs : List Char) → Option (List Char)
  | [], cs => some cs
  | _ :: _, [] => none
  | h :: hs, c :: cs => if h = c then dropHead? hs cs else none

end XmlTypes.Text
