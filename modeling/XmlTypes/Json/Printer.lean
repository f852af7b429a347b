import XmlTypes.Json.Value
import XmlTypes.Text.Quoted
/-!
# Writing JSON

Two forms: compact, without any blank, and indented by two blanks a level. In strings only quotes,
backslashes and control characters are escaped.
-/

namespace XmlTypes.Json

/-- One character of a string. -/
def escape (c : Char) : List Char :=
  if c = '"' then ['\\', '"']
  else if c = '\\' then ['\\', '\\']
  else if c = '\n' then ['\\', 'n']
  else if c = '\r' then ['\\', 'r']
  else if c = '\t' then ['\\', 't']
  else if c = '\x08' then ['\\', 'b']
  else if c = '\x0c' then ['\\', 'f']
  else if c.toNat < 0x10 then ['\\', 'u', '0', '0', '0'] ++ Text.hex c.toNat
  else if c.toNat < 0x20 then ['\\', 'u', '0', '0'] ++ Text.hex c.toNat
  else [c]

/-- A string between quotes. -/
def quoted (s : String) : List Char := '"' :: s.toList.flatMap escape ++ ['"']

/-- The text of a value that holds no other values. -/
def scalar : Value → List Char
  | .bool true => "true".toList
  | .bool false => "false".toList
  | .integer n => (toString n).toList
  | .decimal negative coefficient exponent =>
    (if negative then ['-'] else []) ++ (toString coefficient).toList
      ++ 'e' :: (toString exponent).toList
  | .string s => quoted s
  | _ => "null".toList

mutual

/-- The value without blanks. -/
def compact : Value → List Char
  | .array items => '[' :: compactItems items
  | .object members => '\x7b' :: compactMembers members
  | v => scalar v

/-- The items of an array and its closing bracket. -/
def compactItems : List Value → List Char
  | [] => [']']
  | [v] => compact v ++ [']']
  | v :: vs => compact v ++ ',' :: compactItems vs

/-- The members of an object and its closing brace. -/
def compactMembers : List (String × Value) → List Char
  | [] => ['\x7d']
  | [m] => quoted m.1 ++ ':' :: compact m.2 ++ ['\x7d']
  | m :: ms => quoted m.1 ++ ':' :: compact m.2 ++ ',' :: compactMembers ms

end

/-- A new line, indented to `level`. -/
def newLine (level : Nat) : List Char := '\n' :: List.replicate (2 * level) ' '

mutual

/-- The value at `level`, one item or member a line. -/
def indented (level : Nat) : Value → List Char
  | .array [] => ['[', ']']
  | .array items => '[' :: newLine (level + 1) ++ indentedItems level items
  | .object [] => ['\x7b', '\x7d']
  | .object members => '\x7b' :: newLine (level + 1) ++ indentedMembers level members
  | v => scalar v

/-- The items of an array at `level` and its closing bracket. -/
def indentedItems (level : Nat) : List Value → List Char
  | [] => [']']
  | [v] => indented (level + 1) v ++ newLine level ++ [']']
  | v :: vs => indented (level + 1) v ++ ',' :: newLine (level + 1) ++ indentedItems level vs

/-- The members of an object at `level` and its closing brace. -/
def indentedMembers (level : Nat) : List (String × Value) → List Char
  | [] => ['\x7d']
  | [m] => quoted m.1 ++ ':' :: ' ' :: indented (level + 1) m.2 ++ newLine level ++ ['\x7d']
  | m :: ms =>
    quoted m.1 ++ ':' :: ' ' :: indented (level + 1) m.2 ++ ',' :: newLine (level + 1)
      ++ indentedMembers level ms

end

namespace Value

/-- The text of the value without blanks. -/
def toCompact (v : Value) : String := String.ofList (compact v)

/-- The text of the value with one item or member a line. -/
def toIndented (v : Value) : String := String.ofList (indented 0 v)

end Value

end XmlTypes.Json
