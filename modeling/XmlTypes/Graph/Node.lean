import XmlTypes.Restriction.Basic
import XmlTypes.Schema.Definition
/-!
# Nodes of a type graph

A node is a class, an interface, an enumeration or a restricted simple value. Nodes refer to one
another by their numbers, never by containment, so a graph may be cyclic.
-/

namespace XmlTypes

open Schema (Form Primitive)

/-- The number of a node, in order of creation. -/
abbrev NodeId := Nat

/-- What a property or a text holds: values of a node or of a primitive. -/
inductive ValueType
  | node (id : NodeId)
  | primitive (p : Primitive)
deriving DecidableEq, Repr, Inhabited

/-- An element that may stand in for the head of its substitution group. -/
structure Substitute where
  head : QName
  member : QName
  type : ValueType
deriving DecidableEq, Repr, Inhabited

/-- A property of a class or an interface. -/
structure Property where
  /-- The node that declares the property. -/
  owner : NodeId
  name : String
  /-- The name as it was first chosen. -/
  originalName : String
  /-- The name of the element or attribute. -/
  schemaName : QName
  type : ValueType
  restrictions : List Restriction := []
  isAttribute : Bool := false
  isCollection : Bool := false
  /-- The property may be absent. -/
  isNullable : Bool := false
  isNillable : Bool := false
  isRequired : Bool := false
  default : Option String := none
  fixed : Option String := none
  form : Form := .unqualified
  /-- The namespace of the name, where it is not that of the document that declares the owner. -/
  explicitNamespace : Option String := none
  /-- The position among the elements of the owner's sequences. -/
  order : Option Nat := none
  substitutes : List Substitute := []
  isWildcard : Bool := false
  documentation : List String := []
deriving DecidableEq, Repr, Inhabited

namespace Property

/-- A property with the name first chosen for it. -/
def make (owner : NodeId) (name : String) (schemaName : QName) (type : ValueType) : Property :=
  { owner, name, originalName := name, schemaName, type }

/-- Whether two properties stand for the same member of the schema. -/
def sameMember (p q : Property) : Bool :=
  p.schemaName = q.schemaName && p.isAttribute == q.isAttribute && p.isWildcard == q.isWildcard

/-- Whether the property stands for elements of the given name. -/
def isElement (p : Property) (name : QName) : Bool :=
  !p.isAttribute && !p.isWildcard && p.schemaName = name

end Property

/-- A complex type, or a class made for a root element. -/
structure ClassShape where
  base : Option NodeId := none
  /-- The classes whose base is this one. -/
  derived : List NodeId := []
  properties : List Property := []
  interfaces : List NodeId := []
  isAbstract : Bool := false
  /-- Text may stand between the elements. -/
  mixed : Bool := false
  text : Option ValueType := none
deriving DecidableEq, Repr, Inhabited

/-- A model group or an attribute group. -/
structure InterfaceShape where
  /-- The classes and interfaces that refer to the group. -/
  derived : List NodeId := []
  properties : List Property := []
  interfaces : List NodeId := []
deriving DecidableEq, Repr, Inhabited

/-- A value of an enumeration. -/
structure EnumValue where
  name : String
  literal : String
  deprecated : Bool := false
  documentation : List String := []
deriving DecidableEq, Repr, Inhabited

/-- A primitive, or a list of one, with restrictions. -/
structure SimpleShape where
  valueType : Primitive
  restrictions : List Restriction := []
  isList : Bool := false
deriving DecidableEq, Repr, Inhabited

/-- What a node is. -/
inductive NodeKind
  | classLike (shape : ClassShape)
  | interface (shape : InterfaceShape)
  | enumeration (values : List EnumValue)
  | simple (shape : SimpleShape)
deriving DecidableEq, Repr, Inhabited

/-- The kind of node in a word. -/
def NodeKind.label : NodeKind → String
  | classLike _ => "class"
  | interface _ => "interface"
  | enumeration _ => "enum"
  | simple _ => "simple"

/-- A node of a type graph. -/
structure Node where
  name : String
  /-- The output namespace that holds the node. -/
  space : String
  /-- The name in the schema, empty for what has none. -/
  identity : QName
  documentation : List String := []
  /-- The node comes from a definition given in place. -/
  isAnonymous : Bool
  /-- The root element of which the node is the type. -/
  root : Option QName := none
  /-- The type of several root elements. -/
  isAbstractRoot : Bool := false
  kind : NodeKind
deriving DecidableEq, Repr, Inhabited

namespace Node

/-- A new node; without a name in the schema it is anonymous. -/
def make (name space : String) (identity : QName) (kind : NodeKind) : Node :=
  { name, space, identity, isAnonymous := identity.isEmpty, kind }

/-- The class that the node is, if it is one. -/
def class? (n : Node) : Option ClassShape :=
  match n.kind with
  | .classLike c => some c
  | _ => none

/-- The interface that the node is, if it is one. -/
def interface? (n : Node) : Option InterfaceShape :=
  match n.kind with
  | .interface i => some i
  | _ => none

/-- Whether the node is a class. -/
def isClass (n : Node) : Bool := n.class?.isSome

/-- Whether the node is an interface. -/
def isInterface (n : Node) : Bool := n.interface?.isSome

/-- The properties that the node declares. -/
def properties (n : Node) : List Property :=
  match n.kind with
  | .classLike c => c.properties
  | .interface i => i.properties
  | _ => []

/-- The interfaces that the node implements or extends. -/
def interfaces (n : Node) : List NodeId :=
  match n.kind with
  | .classLike c => c.interfaces
  | .interface i => i.interfaces
  | _ => []

/-- The value of an enumeration for a literal. -/
def enumValue? (n : Node) (literal : String) : Option EnumValue :=
  match n.kind with
  | .enumeration values => values.find? (·.literal = literal)
  | _ => none

/-- Whether the node can declare properties. -/
def hasMembers (n : Node) : Bool :=
  match n.kind with
  | .classLike _ | .interface _ => true
  | _ => false

/-- Changes the class that the node is, if it is one. -/
def mapClass (f : ClassShape → ClassShape) (n : Node) : Node :=
  match n.kind with
  | .classLike c => { n with kind := .classLike (f c) }
  | _ => n

/-- Changes the interface that the node is, if it is one. -/
def mapInterface (f : InterfaceShape → InterfaceShape) (n : Node) : Node :=
  match n.kind with
  | .interface i => { n with kind := .interface (f i) }
  | _ => n

/-- Changes the properties that the node declares, if it can declare any. -/
def mapProperties (f : List Property → List Property) (n : Node) : Node :=
  match n.kind with
  | .classLike c => { n with kind := .classLike { c with properties := f c.properties } }
  | .interface i => { n with kind := .interface { i with properties := f i.properties } }
  | _ => n

/-- The name with the output namespace before it. -/
def fullName (n : Node) : String :=
  if n.space.isEmpty then n.name else n.space ++ "." ++ n.name

end Node

end XmlTypes
