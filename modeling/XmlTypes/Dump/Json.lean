import XmlTypes.Dump.Basic
import XmlTypes.Json.Printer
import XmlTypes.Json.Reader
import XmlTypes.Json.Shape
/-!
# Dumps as JSON

In the written form of a dump, what is false, absent or empty is left out, apart from the lists of
namespaces and of types.
-/

namespace XmlTypes

open Json (Value Shape Room Members Record)

/-- A member that is left out when it is absent. -/
def textMember (key : String) : Option String → Members
  | none => []
  | some s => [(key, .string s)]

/-- A member that is left out when it is false. -/
def flagMember (key : String) : Bool → Members
  | false => []
  | true => [(key, .bool true)]

/-- A member that is left out when it is empty. -/
def listMember (key : String) : List Value → Members
  | [] => []
  | vs => [(key, .array vs)]

/-- A restriction. -/
def RestrictionDump.encode (r : RestrictionDump) : Value :=
  .object [("kind", .string r.kind), ("value", .string r.value)]

/-- A value of an enumeration. -/
def EnumValueDump.encode (v : EnumValueDump) : Value :=
  .object ([("name", .string v.name), ("value", .string v.value)]
    ++ flagMember "deprecated" v.deprecated)

/-- A property. -/
def PropertyDump.encode (p : PropertyDump) : Value :=
  .object ([("name", .string p.name), ("schema_name", .string p.schemaName),
      ("type", .string p.type)]
    ++ flagMember "attribute" p.isAttribute ++ flagMember "collection" p.isCollection
    ++ flagMember "nullable" p.isNullable ++ flagMember "nillable" p.isNillable
    ++ flagMember "required" p.isRequired ++ flagMember "wildcard" p.isWildcard
    ++ textMember "default" p.default ++ textMember "fixed" p.fixed
    ++ [("form", .string p.form)]
    ++ textMember "explicit_namespace" p.explicitNamespace
    ++ (p.order.map fun n => ("order", Value.ofNat n)).toList
    ++ listMember "substitutes" (p.substitutes.map .string)
    ++ listMember "restrictions" (p.restrictions.map RestrictionDump.encode))

/-- A type. -/
def TypeDump.encode (t : TypeDump) : Value :=
  .object ([("name", .string t.name), ("kind", .string t.kind)]
    ++ textMember "schema_name" t.schemaName ++ flagMember "anonymous" t.anonymous
    ++ textMember "root_element" t.rootElement ++ flagMember "abstract_root" t.abstractRoot
    ++ flagMember "is_abstract" t.isAbstract ++ flagMember "mixed" t.mixed
    ++ textMember "base_class" t.baseClass
    ++ listMember "interfaces" (t.interfaces.map .string)
    ++ listMember "derived_types" (t.derivedTypes.map .string)
    ++ textMember "text_type" t.textType ++ textMember "value_type" t.valueType
    ++ flagMember "is_list" t.isList
    ++ listMember "properties" (t.properties.map PropertyDump.encode)
    ++ listMember "values" (t.values.map EnumValueDump.encode)
    ++ listMember "restrictions" (t.restrictions.map RestrictionDump.encode)
    ++ listMember "documentation" (t.documentation.map .string))

/-- A namespace. -/
def NamespaceDump.encode (ns : NamespaceDump) : Value :=
  .object ([("name", .string ns.name)]
    ++ textMember "source" ns.source ++ textMember "xml_namespace" ns.uri
    ++ flagMember "ambiguous" ns.ambiguous
    ++ [("types", .array (ns.types.map TypeDump.encode))])

/-- A dump. -/
def GraphDump.encode (d : GraphDump) : Value :=
  .object [("namespaces", .array (d.namespaces.map NamespaceDump.encode))]

/-- The text of a dump, one member a line or without blanks. -/
def GraphDump.toJson (d : GraphDump) (pretty : Bool) : String :=
  if pretty then d.encode.toIndented else d.encode.toCompact

/-! ## Reading -/

/-- The members of a restriction. -/
def RestrictionDump.record : Record RestrictionDump where
  keys := ["kind", "value"]
  read room ms := do
    return { kind := ← ms.required room "kind" Shape.text
             value := ← ms.required room "value" Shape.text }

/-- A restriction. -/
def RestrictionDump.shape : Shape RestrictionDump := Shape.object RestrictionDump.record

/-- The members of a value of an enumeration. -/
def EnumValueDump.record : Record EnumValueDump where
  keys := ["name", "value", "deprecated"]
  read room ms := do
    return { name := ← ms.required room "name" Shape.text
             value := ← ms.required room "value" Shape.text
             deprecated := ← ms.withDefault room "deprecated" false Shape.bool }

/-- A value of an enumeration. -/
def EnumValueDump.shape : Shape EnumValueDump := Shape.object EnumValueDump.record

/-- The members of a property. -/
def PropertyDump.record : Record PropertyDump where
  keys := ["name", "schema_name", "type", "attribute", "collection", "nullable", "nillable",
    "required", "wildcard", "default", "fixed", "form", "explicit_namespace", "order",
    "substitutes", "restrictions"]
  read room ms := do
    return { name := ← ms.required room "name" Shape.text
             schemaName := ← ms.required room "schema_name" Shape.text
             type := ← ms.required room "type" Shape.text
             isAttribute := ← ms.withDefault room "attribute" false Shape.bool
             isCollection := ← ms.withDefault room "collection" false Shape.bool
             isNullable := ← ms.withDefault room "nullable" false Shape.bool
             isNillable := ← ms.withDefault room "nillable" false Shape.bool
             isRequired := ← ms.withDefault room "required" false Shape.bool
             isWildcard := ← ms.withDefault room "wildcard" false Shape.bool
             default := ← ms.optional room "default" Shape.text
             fixed := ← ms.optional room "fixed" Shape.text
             form := ← ms.required room "form" Shape.text
             explicitNamespace := ← ms.optional room "explicit_namespace" Shape.text
             order := ← ms.optional room "order" Shape.nat64
             substitutes := ← ms.list room "substitutes" Shape.text
             restrictions := ← ms.list room "restrictions" RestrictionDump.shape }

/-- A property. -/
def PropertyDump.shape : Shape PropertyDump := Shape.object PropertyDump.record

/-- The members of a type. -/
def TypeDump.record : Record TypeDump where
  keys := ["name", "kind", "schema_name", "anonymous", "root_element", "abstract_root",
    "is_abstract", "mixed", "base_class", "interfaces", "derived_types", "text_type",
    "value_type", "is_list", "properties", "values", "restrictions", "documentation"]
  read room ms := do
    return { name := ← ms.required room "name" Shape.text
             kind := ← ms.required room "kind" Shape.text
             schemaName := ← ms.optional room "schema_name" Shape.text
             anonymous := ← ms.withDefault room "anonymous" false Shape.bool
             rootElement := ← ms.optional room "root_element" Shape.text
             abstractRoot := ← ms.withDefault room "abstract_root" false Shape.bool
             isAbstract := ← ms.withDefault room "is_abstract" false Shape.bool
             mixed := ← ms.withDefault room "mixed" false Shape.bool
             baseClass := ← ms.optional room "base_class" Shape.text
             interfaces := ← ms.list room "interfaces" Shape.text
             derivedTypes := ← ms.list room "derived_types" Shape.text
             textType := ← ms.optional room "text_type" Shape.text
             valueType := ← ms.optional room "value_type" Shape.text
             isList := ← ms.withDefault room "is_list" false Shape.bool
             properties := ← ms.list room "properties" PropertyDump.shape
             values := ← ms.list room "values" EnumValueDump.shape
             restrictions := ← ms.list room "restrictions" RestrictionDump.shape
             documentation := ← ms.list room "documentation" Shape.text }

/-- A type. -/
def TypeDump.shape : Shape TypeDump := Shape.object TypeDump.record

/-- The members of a namespace. -/
def NamespaceDump.record : Record NamespaceDump where
  keys := ["name", "source", "xml_namespace", "ambiguous", "types"]
  read room ms := do
    return { name := ← ms.required room "name" Shape.text
             source := ← ms.optional room "source" Shape.text
             uri := ← ms.optional room "xml_namespace" Shape.text
             ambiguous := ← ms.withDefault room "ambiguous" false Shape.bool
             types := ← ms.required room "types" TypeDump.shape.items }

/-- A namespace. -/
def NamespaceDump.shape : Shape NamespaceDump := Shape.object NamespaceDump.record

/-- The members of a dump. -/
def GraphDump.record : Record GraphDump where
  keys := ["namespaces"]
  read room ms := do
    return { namespaces := ← ms.required room "namespaces" NamespaceDump.shape.items }

/-- A dump. -/
def GraphDump.shape : Shape GraphDump := Shape.object GraphDump.record

end XmlTypes
