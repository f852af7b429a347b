/-!
# Qualified names

Every schema construct that can be referred to has a qualified name: a local name, in a namespace
or in none. A name with an empty local part stands for a construct without a name. Its text puts
the namespace in braces before the local name.
-/

namespace XmlTypes

/-- A local name, in the namespace `uri` or in none. -/
structure QName where
  uri : Option String := none
  name : String
deriving DecidableEq, Repr, Inhabited

/-- The namespace of XML Schema itself. -/
def xsdNamespace : String := "http://www.w3.org/2001/XMLSchema"

namespace QName

/-- The name of a construct that has none. -/
def anonymous : QName := ⟨none, ""⟩

/-- A name without a namespace. -/
def bare (name : String) : QName := ⟨none, name⟩

/-- A name in the namespace of XML Schema. -/
def xsd (name : String) : QName := ⟨some xsdNamespace, name⟩

/-- The namespace, empty for none. -/
def uriText (q : QName) : String := q.uri.getD ""

/-- Whether the construct has no name. -/
def isEmpty (q : QName) : Bool := q.name.isEmpty

/-- Whether the name lies in the namespace of XML Schema. -/
def isXsd (q : QName) : Bool := q.uri = some xsdNamespace

/-- The name with its namespace in braces. -/
def toText (q : QName) : String :=
  match q.uri with
  | some uri => "\x7b" ++ uri ++ "\x7d" ++ q.name
  | none => q.name

/-- Names without a namespace come first; then namespaces, then local names decide, by code
points. -/
def compare (a b : QName) : Ordering :=
  let spaces : Ordering := match a.uri, b.uri with
    | none, none => .eq
    | none, some _ => .lt
    | some _, none => .gt
    | some x, some y => Ord.compare x y
  spaces.then (Ord.compare a.name b.name)

end QName

end XmlTypes
