import XmlTypes.Text.Quoted
/-!
# Dumps

A dump is a graph written down: namespaces, their types and the properties of these, where every
type is referred to by its full name. Lists are in the order of the graph. The summary of a dump
gives each type, property and enumerated value a line.
-/

namespace XmlTypes

/-- A restriction by its kind and its value. -/
structure RestrictionDump where
  kind : String
  value : String
deriving DecidableEq, Repr, Inhabited

/-- A value of an enumeration. -/
structure EnumValueDump where
  name : String
  value : String
  deprecated : Bool := false
deriving DecidableEq, Repr, Inhabited

/-- A property of a class or an interface. -/
structure PropertyDump where
  name : String
  schemaName : String
  type : String
  isAttribute : Bool := false
  isCollection : Bool := false
  isNullable : Bool := false
  isNillable : Bool := false
  isRequired : Bool := false
  isWildcard : Bool := false
  default : Option String := none
  fixed : Option String := none
  form : String
  explicitNamespace : Option String := none
  order : Option Nat := none
  substitutes : List String := []
  restrictions : List RestrictionDump := []
deriving DecidableEq, Repr, Inhabited

/-- A type of any kind. -/
structure TypeDump where
  name : String
  kind : String
  schemaName : Option String := none
  anonymous : Bool := false
  rootElement : Option String := none
  abstractRoot : Bool := false
  isAbstract : Bool := false
  mixed : Bool := false
  baseClass : Option String := none
  interfaces : List String := []
  derivedTypes : List String := []
  textType : Option String := none
  valueType : Option String := none
  isList : Bool := false
  properties : List PropertyDump := []
  values : List EnumValueDump := []
  restrictions : List RestrictionDump := []
  documentation : List String := []
deriving DecidableEq, Repr, Inhabited

/-- An output namespace with its types. -/
structure NamespaceDump where
  name : String
  source : Option String := none
  uri : Option String := none
  ambiguous : Bool := false
  types : List TypeDump
deriving DecidableEq, Repr, Inhabited

/-- A graph written down. -/
structure GraphDump where
  namespaces : List NamespaceDump
deriving DecidableEq, Repr, Inhabited

namespace GraphDump

/-- The type of the given name in the first namespace of the given name. -/
def find? (d : GraphDump) (space name : String) : Option TypeDump :=
  (d.namespaces.find? (·.name = space)).bind fun ns => ns.types.find? (·.name = name)

/-- The number of types. -/
def typeCount (d : GraphDump) : Nat := (d.namespaces.flatMap (·.types)).length

end GraphDump

/-- The first property of the given name. -/
def TypeDump.property? (t : TypeDump) (name : String) : Option PropertyDump :=
  t.properties.find? (·.name = name)

/-! ## Summaries -/

/-- A line for a property; brackets mark a collection. -/
def PropertyDump.summary (p : PropertyDump) : String :=
  "    " ++ p.name ++ ": " ++ p.type ++ (if p.isCollection then "[]" else "") ++ "\n"

/-- A line for a value of an enumeration. -/
def EnumValueDump.summary (v : EnumValueDump) : String :=
  "    " ++ v.name ++ " = " ++ Text.quote v.value ++ "\n"

/-- The lines of a type. -/
def TypeDump.summary (t : TypeDump) : String :=
  let base := match t.baseClass with
    | some b => " : " ++ b
    | none => ""
  let interfaces :=
    if t.interfaces.isEmpty then "" else " implements " ++ ", ".intercalate t.interfaces
  let root := match t.rootElement with
    | some r => " [root " ++ r ++ "]"
    | none => ""
  "  " ++ t.kind ++ " " ++ t.name ++ base ++ interfaces ++ root ++ "\n"
    ++ String.join (t.properties.map PropertyDump.summary)
    ++ String.join (t.values.map EnumValueDump.summary)

/-- The lines of a namespace. -/
def NamespaceDump.summary (ns : NamespaceDump) : String :=
  "namespace " ++ ns.name ++ " (" ++ toString ns.types.length ++ " types)\n"
    ++ String.join (ns.types.map TypeDump.summary)

/-- The lines of a dump. -/
def GraphDump.summary (d : GraphDump) : String :=
  String.join (d.namespaces.map NamespaceDump.summary)

end XmlTypes
