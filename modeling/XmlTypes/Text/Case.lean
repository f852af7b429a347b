import XmlTypes.Text.CaseTable
/-!
# Upper and lower case

`upper` is the full upper-case mapping of one character, which may be several characters: `ß`
gives `SS`. `lower` lowers a whole text; a capital sigma at the end of a word becomes `ς` and
elsewhere `σ`.
-/

namespace XmlTypes.Text

/-- The image of `c` under the first run that holds it. -/
def mapRuns (runs : List CaseRun) (c : Char) : Char :=
  match runs.findSome? fun r => r.image? c.toNat with
  | some n => Char.ofNat n
  | none => c

/-- The full upper-case mapping of `c`. -/
def upper (c : Char) : List Char :=
  if c.toNat < 0x80 then [c.toUpper]
  else match upperExpansions.find? fun e => e.1 == c.toNat with
    | some e => e.2.map Char.ofNat
    | none => [mapRuns upperRuns c]

/-- The lower-case mapping of `c` outside of any text; `İ` keeps its dot as a character of its
own. -/
def lowerChar (c : Char) : List Char :=
  if c.toNat < 0x80 then [c.toLower]
  else if c.toNat = 0x130 then ['i', Char.ofNat 0x307]
  else [mapRuns lowerRuns c]

/-- Whether `c` is a letter with case, or stands for one. -/
def isCased (c : Char) : Bool :=
  if c.toNat < 0x80 then c.isAlpha
  else casedLow.contains c || casedMiddle.contains c || casedHigh.contains c

/-- Whether `c` is passed over when looking for the neighbouring letter of a sigma. -/
def isCaseIgnorable (c : Char) : Bool :=
  caseIgnorableLow.contains c || caseIgnorableMiddle.contains c || caseIgnorableHigh.contains c

/-- Whether the first character of `cs` that is not passed over has case. -/
def meetsCased (cs : List Char) : Bool :=
  match cs.dropWhile isCaseIgnorable with
  | [] => false
  | c :: _ => isCased c

/-- The lower case of a sigma with `before` (nearest first) and `after` around it: final at the
end of a word. -/
def lowerSigma (before after : List Char) : Char :=
  if meetsCased before && !meetsCased after then 'ς' else 'σ'

/-- Lowers the second list, with the first, nearest character first, before it. -/
def lowerFrom : (before cs : List Char) → List Char
  | _, [] => []
  | before, c :: cs =>
    (if c = 'Σ' then [lowerSigma before cs] else lowerChar c) ++ lowerFrom (c :: before) cs

/-- The text in lower case. -/
def lower (s : String) : String := String.ofList (lowerFrom [] s.toList)

/-- Whether two texts are equal up to the case of ASCII letters. -/
def eqIgnoringAsciiCase (a b : String) : Bool :=
  a.toList.map Char.toLower == b.toList.map Char.toLower

end XmlTypes.Text
