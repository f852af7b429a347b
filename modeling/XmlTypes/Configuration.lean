import XmlTypes.Json.Shape
import XmlTypes.Namespace.Resolver
import XmlTypes.Restriction.Basic
/-!
# Configuration

The options of a construction and the rules that map namespaces, with their written form.
-/

namespace XmlTypes

open Json (Value Shape Room Members Record)

/-- How the members of a substitution group appear: in one property, or each in its own. -/
inductive SubstitutionStrategy
  | merge | separate
deriving DecidableEq, Repr, Inhabited

/-- What is optional in a construction. -/
structure Options where
  /-- Groups give interfaces. -/
  generateInterfaces : Bool := true
  substitutionStrategy : SubstitutionStrategy := .merge
  /-- No two types have the same name, in whatever namespaces. -/
  uniqueNames : Bool := false
  annotationMode : AnnotationMode := .all
  /-- The elements of a sequence are numbered. -/
  emitOrder : Bool := false
  /-- A union has the widest type of its members. -/
  widenUnions : Bool := false
deriving DecidableEq, Repr, Inhabited

/-- A rule: the output namespace for a namespace, in a document or in all. -/
structure NamespaceRule where
  source : Option String := none
  uri : Option String := none
  output : String
deriving DecidableEq, Repr, Inhabited

/-- Options and rules. -/
structure Configuration where
  options : Options := {}
  rules : List NamespaceRule := []
deriving DecidableEq, Repr, Inhabited

/-- The key of a rule. -/
def NamespaceRule.key (r : NamespaceRule) : NamespaceKey := ⟨r.source, r.uri⟩

namespace Configuration

/-- The first rule of each key. -/
def ruleTable (c : Configuration) : Table NamespaceKey String :=
  .ofEntries (c.rules.map fun r => (r.key, r.output))

/-- A resolver with the rules of the configuration. -/
def resolver (c : Configuration) : Resolver := .ofRules c.ruleTable.entries

/-- The configuration with one more rule, for a namespace in all documents. -/
def mapNamespace (c : Configuration) (uri output : String) : Configuration :=
  { c with rules := c.rules ++ [{ uri := some uri, output }] }

end Configuration

/-! ## Written form -/

/-- An annotation mode. -/
def AnnotationMode.shape : Shape AnnotationMode :=
  Shape.word [("none", .none), ("partial", .ranges), ("all", .all)]

/-- The strategy as a word. -/
def SubstitutionStrategy.key : SubstitutionStrategy → String
  | merge => "merge"
  | separate => "separate"

/-- A strategy. -/
def SubstitutionStrategy.shape : Shape SubstitutionStrategy :=
  Shape.word [("merge", .merge), ("separate", .separate)]

/-- Options, written. -/
def Options.encode (o : Options) : Value :=
  .object [("generateInterfaces", .bool o.generateInterfaces),
    ("substitutionStrategy", .string o.substitutionStrategy.key),
    ("uniqueTypeNamesAcrossNamespaces", .bool o.uniqueNames),
    ("annotationMode", .string o.annotationMode.key), ("emitOrder", .bool o.emitOrder),
    ("mapUnionToWidestCommonType", .bool o.widenUnions)]

/-- The members of options. -/
def Options.record : Record Options where
  keys := ["generateInterfaces", "substitutionStrategy", "uniqueTypeNamesAcrossNamespaces",
    "annotationMode", "emitOrder", "mapUnionToWidestCommonType"]
  read room ms := do
    return { generateInterfaces := ← ms.withDefault room "generateInterfaces" true Shape.bool
             substitutionStrategy :=
               ← ms.withDefault room "substitutionStrategy" .merge SubstitutionStrategy.shape
             uniqueNames :=
               ← ms.withDefault room "uniqueTypeNamesAcrossNamespaces" false Shape.bool
             annotationMode := ← ms.withDefault room "annotationMode" .all AnnotationMode.shape
             emitOrder := ← ms.withDefault room "emitOrder" false Shape.bool
             widenUnions := ← ms.withDefault room "mapUnionToWidestCommonType" false Shape.bool }

/-- Options; each may be absent. -/
def Options.shape : Shape Options := Shape.object Options.record

/-- A rule, written. -/
def NamespaceRule.encode (r : NamespaceRule) : Value :=
  .object [("source", .stringOrNull r.source), ("namespace", .stringOrNull r.uri),
    ("output", .string r.output)]

/-- The members of a rule. -/
def NamespaceRule.record : Record NamespaceRule where
  keys := ["source", "namespace", "output"]
  read room ms := do
    return { source := ← ms.optional room "source" Shape.text
             uri := ← ms.optional room "namespace" Shape.text
             output := ← ms.required room "output" Shape.text }

/-- A rule. -/
def NamespaceRule.shape : Shape NamespaceRule := Shape.object NamespaceRule.record

/-- A configuration, written. -/
def Configuration.encode (c : Configuration) : Value :=
  .object [("options", c.options.encode), ("namespaces", .array (c.rules.map NamespaceRule.encode))]

/-- The members of a configuration. -/
def Configuration.record : Record Configuration where
  keys := ["options", "namespaces"]
  read room ms := do
    return { options := ← ms.withDefault room "options" {} Options.shape
             rules := ← ms.list room "namespaces" NamespaceRule.shape }

/-- A configuration; options and rules may be absent. -/
def Configuration.shape : Shape Configuration := Shape.object Configuration.record

/-- The key of a namespace, written. -/
def NamespaceKey.encode (k : NamespaceKey) : Value :=
  .object [("source", .stringOrNull k.source), ("xmlNamespace", .stringOrNull k.uri)]

/-- The members of the key of a namespace. -/
def NamespaceKey.record : Record NamespaceKey where
  keys := ["source", "xmlNamespace"]
  read room ms := do
    return { source := ← ms.optional room "source" Shape.text
             uri := ← ms.optional room "xmlNamespace" Shape.text }

/-- The key of a namespace. -/
def NamespaceKey.shape : Shape NamespaceKey := Shape.object NamespaceKey.record

end XmlTypes
