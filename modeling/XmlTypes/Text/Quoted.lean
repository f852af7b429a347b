import XmlTypes.Text.Marks
import XmlTypes.Text.Shown
/-!
# Quoted text

A text between double quotes in which every character shows: quotes and backslashes are escaped,
the common controls have short escapes, and a character without a glyph of its own is written by
its code point.
-/

namespace XmlTypes.Text

/-- The lower-case hexadecimal digits of `n`. -/
def hex (n : Nat) : List Char := Nat.toDigits 16 n

/-- One character between the quotes. -/
def quoteChar (c : Char) : List Char :=
  if c = '\x00' then ['\\', '0']
  else if c = '\t' then ['\\', 't']
  else if c = '\r' then ['\\', 'r']
  else if c = '\n' then ['\\', 'n']
  else if c = '\\' then ['\\', '\\']
  else if c = '"' then ['\\', '"']
  else if isExtending c || isHidden c then
    ['\\', 'u', '\x7b'] ++ hex c.toNat ++ ['\x7d']
  else [c]

/-- `s` between double quotes. -/
def quote (s : String) : String :=
  String.ofList ('"' :: s.toList.flatMap quoteChar ++ ['"'])

end XmlTypes.Text
