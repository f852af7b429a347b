import XmlTypes.QName
import XmlTypes.Text.Case
import XmlTypes.Text.Letters
/-!
# Naming

A naming gives the candidate name for every construct of a graph, from its name in the schema and
a hint: the name of the type that contains it. Making candidates unique is not its business. The
conventional naming writes words of letters and numbers with capital initials.
-/

namespace XmlTypes

/-- The text in capitalised words: `atStart` tells that a word begins here. -/
def pascalFrom (atStart : Bool) : List Char → List Char
  | [] => []
  | c :: cs =>
    if Text.isWordChar c then (if atStart then Text.upper c else [c]) ++ pascalFrom false cs
    else pascalFrom true cs

/-- The words of a text with capital initials, run together. An underscore keeps the result from
beginning with a digit. -/
def pascalCase (s : String) : String :=
  let cs := pascalFrom true s.toList
  String.ofList (if cs.head?.any Char.isDigit then '_' :: cs else cs)

/-- Candidate names, one function for each kind of construct. -/
structure Naming where
  /-- A property for an attribute of the container. -/
  attributeProperty : QName → String → String
  /-- A property for an element of the container. -/
  elementProperty : QName → String → String
  complexType : QName → String → String
  attributeGroup : QName → String → String
  group : QName → String → String
  /-- A simple type that is not an enumeration. -/
  simpleType : QName → String → String
  /-- A class made for a root element. -/
  rootElement : QName → String → String
  enumeration : QName → String → String
  /-- The member of an enumeration for a literal. -/
  enumMember : String → String → String
  /-- A type given in place for an attribute of the container. -/
  attributeType : QName → String → String
  /-- A type given in place for an element of the container. -/
  elementType : QName → String → String

namespace Naming

/-- A capitalised member name, told apart from the name of its container. -/
def memberName (name : QName) (container : String) : String :=
  let candidate := pascalCase name.name
  if candidate = container then candidate ++ "Property" else candidate

/-- Capitalised names, with a mark before the names of interfaces. -/
def pascal (interfaceMark : String) : Naming where
  attributeProperty := memberName
  elementProperty := memberName
  complexType name _ := pascalCase name.name
  attributeGroup name _ := interfaceMark ++ pascalCase name.name
  group name _ := interfaceMark ++ pascalCase name.name
  simpleType name _ := pascalCase name.name
  rootElement name _ := pascalCase name.name
  enumeration name _ := pascalCase name.name
  enumMember literal _ :=
    let name := pascalCase literal
    if name.isEmpty then "Empty" else name
  attributeType name container := container ++ pascalCase name.name
  elementType name _ := pascalCase name.name

/-- Capitalised names, with an `I` before the names of interfaces. -/
def conventional : Naming := pascal "I"

end Naming

/-! ## Fresh names -/

/-- A name followed by a number. -/
def suffixed (base : String) (k : Nat) : String := base ++ toString k

/-- The first of `base` followed by `k`, `k + 1`, … that is not taken, after at most `fuel`
attempts. -/
def firstFree (taken : String → Bool) (base : String) : (fuel k : Nat) → String
  | 0, k => suffixed base k
  | fuel + 1, k => if taken (suffixed base k) then firstFree taken base fuel (k + 1)
    else suffixed base k

/-- The candidate itself, or else followed by the smallest positive number that makes it free,
where at most `limit` names are taken. -/
def fresh (taken : String → Bool) (limit : Nat) (candidate : String) : String :=
  if taken candidate then firstFree taken candidate limit 1 else candidate

end XmlTypes
