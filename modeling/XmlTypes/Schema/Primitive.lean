import XmlTypes.QName
/-!
# Primitive types

The value types in which every type bottoms out, the built-in types of XML Schema that stand for
them, and widening: a numeric type of higher rank takes the place of every lower one.
-/

namespace XmlTypes.Schema

/-- A primitive value type. -/
inductive Primitive
  | string | boolean | decimal | integer | long | int | short | byte
  | unsignedLong | unsignedInt | unsignedShort | unsignedByte
  | float | double | duration | dateTime | date | time | gregorianDate
  | binary | uri | qname | anyType
deriving DecidableEq, Repr, Inhabited

namespace Primitive

/-- All primitives. -/
def all : List Primitive :=
  [string, boolean, decimal, integer, long, int, short, byte, unsignedLong, unsignedInt,
   unsignedShort, unsignedByte, float, double, duration, dateTime, date, time, gregorianDate,
   binary, uri, qname, anyType]

/-- The name a primitive is shown by. -/
def displayName : Primitive → String
  | string => "string"
  | boolean => "boolean"
  | decimal => "decimal"
  | integer => "integer"
  | long => "long"
  | int => "int"
  | short => "short"
  | byte => "byte"
  | unsignedLong => "unsignedLong"
  | unsignedInt => "unsignedInt"
  | unsignedShort => "unsignedShort"
  | unsignedByte => "unsignedByte"
  | float => "float"
  | double => "double"
  | duration => "duration"
  | dateTime => "dateTime"
  | date => "date"
  | time => "time"
  | gregorianDate => "gregorianDate"
  | binary => "binary"
  | uri => "uri"
  | qname => "qname"
  | anyType => "anyType"

/-- The name a primitive is written by in data. -/
def key : Primitive → String
  | qname => "qName"
  | p => p.displayName

/-- The primitive with the given key. -/
def ofKey? (s : String) : Option Primitive := all.find? fun p => p.key == s

/-- The local names of the built-in types with the primitives they stand for. -/
def builtins : List (String × Primitive) :=
  [("string", string), ("normalizedString", string), ("token", string), ("language", string),
   ("Name", string), ("NCName", string), ("ID", string), ("IDREF", string), ("IDREFS", string),
   ("ENTITY", string), ("ENTITIES", string), ("NMTOKEN", string), ("NMTOKENS", string),
   ("NOTATION", string), ("anySimpleType", string), ("anyAtomicType", string),
   ("boolean", boolean), ("decimal", decimal), ("integer", integer),
   ("nonNegativeInteger", integer), ("positiveInteger", integer), ("nonPositiveInteger", integer),
   ("negativeInteger", integer), ("long", long), ("int", int), ("short", short), ("byte", byte),
   ("unsignedLong", unsignedLong), ("unsignedInt", unsignedInt), ("unsignedShort", unsignedShort),
   ("unsignedByte", unsignedByte), ("float", float), ("double", double), ("duration", duration),
   ("dateTime", dateTime), ("time", time), ("date", date), ("gYearMonth", gregorianDate),
   ("gYear", gregorianDate), ("gMonthDay", gregorianDate), ("gDay", gregorianDate),
   ("gMonth", gregorianDate), ("hexBinary", binary), ("base64Binary", binary), ("anyURI", uri),
   ("QName", qname), ("anyType", anyType)]

/-- The primitive of the built-in type with the given local name. -/
def ofBuiltin? (name : String) : Option Primitive :=
  (builtins.find? fun b => b.1 == name).map (·.2)

/-- Whether the type holds whole numbers. -/
def isIntegral : Primitive → Bool
  | integer | long | int | short | byte | unsignedLong | unsignedInt | unsignedShort
  | unsignedByte => true
  | _ => false

/-- Whether an enumeration over the type names symbols. -/
def isEnumerable : Primitive → Bool
  | string | uri | qname => true
  | _ => false

/-- Whether the type holds a date, a time or a duration. -/
def isTemporal : Primitive → Bool
  | duration | dateTime | date | time | gregorianDate => true
  | _ => false

/-- The rank of a numeric type; a higher rank takes the place of every lower one. -/
def rank? : Primitive → Option Nat
  | byte => some 1
  | unsignedByte => some 2
  | short => some 3
  | unsignedShort => some 4
  | int => some 5
  | unsignedInt => some 6
  | long => some 7
  | unsignedLong => some 8
  | integer => some 9
  | decimal => some 10
  | float => some 11
  | double => some 12
  | _ => none

/-- Whether the type holds numbers. -/
def isNumeric (p : Primitive) : Bool := p.rank?.isSome

/-- The numeric type of higher rank, or `string` if one of the two is not numeric. -/
def wider (p q : Primitive) : Primitive :=
  match p.rank?, q.rank? with
  | some a, some b => if a < b then q else p
  | _, _ => string

/-- The widest of the given types. One type, however often, is itself; numeric types widen to the
highest rank; any other mix, and no type at all, gives `string`. -/
def widest : List Primitive → Primitive
  | [] => string
  | p :: ps => if ps.all (· == p) then p else ps.foldl wider p

end Primitive

/-- Whether the name is that of a built-in type. -/
def isBuiltin (q : QName) : Bool := q.isXsd && (Primitive.ofBuiltin? q.name).isSome

/-- Whether an enumeration over the built-in type of this local name names symbols. -/
def isEnumerableBuiltin (name : String) : Bool :=
  ["string", "normalizedString", "token", "language", "Name", "NCName", "ID", "IDREF", "ENTITY",
   "NMTOKEN", "anyURI", "QName"].contains name

/-- Whether the built-in type of this local name is a list. -/
def isListBuiltin (name : String) : Bool := ["IDREFS", "ENTITIES", "NMTOKENS"].contains name

end XmlTypes.Schema
