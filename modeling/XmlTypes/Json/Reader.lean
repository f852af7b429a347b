import XmlTypes.Json.Value
/-!
# Reading JSON

A text is read strictly: no comments, no trailing commas, no raw control characters in strings,
nothing but blanks after the value. How deep a value nests and whether its strings are well-formed
is left to those who look at it.
-/

namespace XmlTypes.Json

/-- The four blanks of JSON. -/
def isBlank (c : Char) : Bool := c = ' ' || c = '\t' || c = '\n' || c = '\r'

/-- The text from its first character that is not blank. -/
def skipBlanks (cs : List Char) : List Char := cs.dropWhile isBlank

/-- The value of a hexadecimal digit. -/
def hexValue? (c : Char) : Option Nat :=
  if '0' ≤ c ∧ c ≤ '9' then some (c.toNat - '0'.toNat)
  else if 'a' ≤ c ∧ c ≤ 'f' then some (c.toNat - 'a'.toNat + 10)
  else if 'A' ≤ c ∧ c ≤ 'F' then some (c.toNat - 'A'.toNat + 10)
  else none

/-- The number of four hexadecimal digits. -/
def hexWord? (a b c d : Char) : Option Nat := do
  return (((← hexValue? a) * 16 + (← hexValue? b)) * 16 + (← hexValue? c)) * 16 + (← hexValue? d)

/-- The character that a one-letter escape stands for. -/
def shortEscape? (c : Char) : Option Char :=
  if c = '"' then some '"'
  else if c = '\\' then some '\\'
  else if c = '/' then some '/'
  else if c = 'b' then some '\x08'
  else if c = 'f' then some '\x0c'
  else if c = 'n' then some '\n'
  else if c = 'r' then some '\r'
  else if c = 't' then some '\t'
  else none

/-- Reads a string up to its closing quote: its code points, with surrogates where they are
escaped, and the text after it. -/
def readUnits : List Char → Option (List Nat × List Char)
  | [] => none
  | '"' :: cs => some ([], cs)
  | '\\' :: 'u' :: a :: b :: c :: d :: cs => do
    let n ← hexWord? a b c d
    let (ns, rest) ← readUnits cs
    return (n :: ns, rest)
  | '\\' :: c :: cs => do
    let e ← shortEscape? c
    let (ns, rest) ← readUnits cs
    return (e.toNat :: ns, rest)
  | c :: cs => do
    if c.toNat < 0x20 || c = '\\' then none
    let (ns, rest) ← readUnits cs
    return (c.toNat :: ns, rest)

/-- Whether `n` is the first half of a surrogate pair. -/
def isHighHalf (n : Nat) : Bool := 0xd800 ≤ n && n < 0xdc00

/-- Whether `n` is the second half of a surrogate pair. -/
def isLowHalf (n : Nat) : Bool := 0xdc00 ≤ n && n < 0xe000

/-- Joins surrogate pairs; none if a half stands alone. -/
def joinHalves? : List Nat → Option (List Char)
  | [] => some []
  | high :: low :: ns =>
    if isHighHalf high && isLowHalf low then
      (joinHalves? ns).map (Char.ofNat (0x10000 + (high - 0xd800) * 0x400 + (low - 0xdc00)) :: ·)
    else if isHighHalf high || isLowHalf high then none
    else (joinHalves? (low :: ns)).map (Char.ofNat high :: ·)
  | [n] => if isHighHalf n || isLowHalf n then none else some [Char.ofNat n]

/-- Reads a string after its opening quote; the string is none if it is ill-formed. -/
def readString (cs : List Char) : Option (Option String × List Char) := do
  let (ns, rest) ← readUnits cs
  return ((joinHalves? ns).map String.ofList, rest)

/-- The integer or decimal with the given parts: fraction and exponent are none if they are not
written. -/
def number (negative : Bool) (whole : List Char) (fraction : Option (List Char))
    (exponent : Option Int) : Option Value := do
  let coefficient ← Number.digits? (whole ++ fraction.getD [])
  match fraction, exponent with
  | none, none =>
    if negative && coefficient = 0 then return .decimal true 0 0
    else return .integer (if negative then -(coefficient : Int) else coefficient)
  | _, _ =>
    return .decimal negative coefficient (exponent.getD 0 - (fraction.getD []).length)

/-- Reads the fraction of a number, if there is one. -/
def readFraction : List Char → Option (Option (List Char) × List Char)
  | '.' :: cs =>
    if (cs.takeWhile Char.isDigit).isEmpty then none
    else some (some (cs.takeWhile Char.isDigit), cs.dropWhile Char.isDigit)
  | cs => some (none, cs)

/-- Reads the exponent of a number, if there is one. -/
def readExponent : List Char → Option (Option Int × List Char)
  | [] => some (none, [])
  | c :: cs =>
    if c = 'e' || c = 'E' then
      let (sign, ds) := match cs with
        | '-' :: ds => ((-1 : Int), ds)
        | '+' :: ds => (1, ds)
        | ds => (1, ds)
      (Number.digits? (ds.takeWhile Char.isDigit)).map fun n =>
        (some (sign * n), ds.dropWhile Char.isDigit)
    else some (none, c :: cs)

/-- Reads a number after its sign. A leading zero stands alone. -/
def readUnsigned (negative : Bool) (cs : List Char) : Option (Value × List Char) := do
  let (whole, rest) := match cs with
    | '0' :: ds => (['0'], ds)
    | ds => (ds.takeWhile Char.isDigit, ds.dropWhile Char.isDigit)
  if whole.isEmpty || (rest.head?.any Char.isDigit) then none
  let (fraction, rest) ← readFraction rest
  let (exponent, rest) ← readExponent rest
  return (← number negative whole fraction exponent, rest)

/-- Reads a number. -/
def readNumber : List Char → Option (Value × List Char)
  | '-' :: cs => readUnsigned true cs
  | cs => readUnsigned false cs

/-- An object of the members read, ill-formed if one of their keys is. -/
def objectOf : List (Option String × Value) → Value :=
  fun ms => match ms.mapM fun m => m.1.map fun k => (k, m.2) with
    | some members => .object members
    | none => .illFormed

mutual

/-- Reads a value, using at most `fuel` nested steps. -/
def readValue : (fuel : Nat) → List Char → Option (Value × List Char)
  | 0, _ => none
  | fuel + 1, cs =>
    match skipBlanks cs with
    | 'n' :: 'u' :: 'l' :: 'l' :: rest => some (.null, rest)
    | 't' :: 'r' :: 'u' :: 'e' :: rest => some (.bool true, rest)
    | 'f' :: 'a' :: 'l' :: 's' :: 'e' :: rest => some (.bool false, rest)
    | '"' :: rest => do
      let (s, rest) ← readString rest
      return (match s with
        | some s => .string s
        | none => .illFormed, rest)
    | '[' :: rest =>
      match skipBlanks rest with
      | ']' :: rest => some (.array [], rest)
      | rest => do
        let (items, rest) ← readItems fuel rest
        return (.array items, rest)
    | '\x7b' :: rest =>
      match skipBlanks rest with
      | '\x7d' :: rest => some (.object [], rest)
      | rest => do
        let (members, rest) ← readMembers fuel rest
        return (objectOf members, rest)
    | rest => readNumber rest

/-- Reads the items of an array and its closing bracket. -/
def readItems : (fuel : Nat) → List Char → Option (List Value × List Char)
  | 0, _ => none
  | fuel + 1, cs => do
    let (v, rest) ← readValue fuel cs
    match skipBlanks rest with
    | ',' :: rest => do
      let (vs, rest) ← readItems fuel rest
      return (v :: vs, rest)
    | ']' :: rest => return ([v], rest)
    | _ => none

/-- Reads the members of an object and its closing brace. -/
def readMembers : (fuel : Nat) → List Char → Option (List (Option String × Value) × List Char)
  | 0, _ => none
  | fuel + 1, cs =>
    match skipBlanks cs with
    | '"' :: rest => do
      let (key, rest) ← readString rest
      match skipBlanks rest with
      | ':' :: rest => do
        let (v, rest) ← readValue fuel rest
        match skipBlanks rest with
        | ',' :: rest => do
          let (ms, rest) ← readMembers fuel rest
          return ((key, v) :: ms, rest)
        | '\x7d' :: rest => return ([(key, v)], rest)
        | _ => none
      | _ => none
    | _ => none

end

/-- Reads a whole text as one value. Each character takes at most two nested steps. -/
def Value.read? (text : String) : Option Value := do
  let cs := text.toList
  let (v, rest) ← readValue (2 * cs.length + 2) cs
  if (skipBlanks rest).isEmpty then return v else none

end XmlTypes.Json
