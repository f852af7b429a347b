import XmlTypes.Dump.Basic
import XmlTypes.Graph.Basic
/-!
# The dump of a graph

Every node is written in the namespace that holds it, in the order of the namespace's table.
-/

namespace XmlTypes

/-- The type of values by its full name, or by the name of the primitive. -/
def Graph.typeName (g : Graph) : ValueType → String
  | .node id => g.fullName id
  | .primitive p => p.displayName

/-- A restriction, written down. -/
def Restriction.dump (r : Restriction) : RestrictionDump := ⟨r.kind, r.literal⟩

/-- A property, written down. -/
def Property.dump (g : Graph) (p : Property) : PropertyDump where
  name := p.name
  schemaName := p.schemaName.toText
  type := g.typeName p.type
  isAttribute := p.isAttribute
  isCollection := p.isCollection
  isNullable := p.isNullable
  isNillable := p.isNillable
  isRequired := p.isRequired
  isWildcard := p.isWildcard
  default := p.default
  fixed := p.fixed
  form := p.form.toText
  explicitNamespace := p.explicitNamespace
  order := p.order
  substitutes := p.substitutes.map fun s => s.member.toText
  restrictions := p.restrictions.map Restriction.dump

/-- A value of an enumeration, written down. -/
def EnumValue.dump (v : EnumValue) : EnumValueDump := ⟨v.name, v.literal, v.deprecated⟩

/-- What all kinds of nodes have, written down. -/
def Node.header (n : Node) : TypeDump where
  name := n.name
  kind := n.kind.label
  schemaName := if n.identity.isEmpty then none else some n.identity.toText
  anonymous := n.isAnonymous
  rootElement := n.root.map QName.toText
  abstractRoot := n.isAbstractRoot
  documentation := n.documentation

/-- A node, written down. -/
def Node.dump (g : Graph) (n : Node) : TypeDump :=
  match n.kind with
  | .classLike c =>
    { n.header with
      isAbstract := c.isAbstract
      mixed := c.mixed
      baseClass := c.base.map g.fullName
      interfaces := c.interfaces.map g.fullName
      derivedTypes := c.derived.map g.fullName
      textType := c.text.map g.typeName
      properties := c.properties.map (Property.dump g) }
  | .interface i =>
    { n.header with
      interfaces := i.interfaces.map g.fullName
      derivedTypes := i.derived.map g.fullName
      properties := i.properties.map (Property.dump g) }
  | .enumeration values => { n.header with values := values.map EnumValue.dump }
  | .simple s =>
    { n.header with
      valueType := some s.valueType.displayName
      isList := s.isList
      restrictions := s.restrictions.map Restriction.dump }

/-- A namespace, written down. -/
def Namespace.dump (g : Graph) (name : String) (ns : Namespace) : NamespaceDump where
  name := name
  source := ns.key.source
  uri := ns.key.uri
  ambiguous := ns.isAmbiguous
  types := ns.types.values.filterMap fun id => (g.node? id).map (Node.dump g)

/-- A graph, written down. -/
def Graph.dump (g : Graph) : GraphDump :=
  ⟨g.namespaces.entries.map fun (name, ns) => ns.dump g name⟩

end XmlTypes
