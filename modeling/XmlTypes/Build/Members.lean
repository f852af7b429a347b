import XmlTypes.Build.Types
/-!
# Members of classes and interfaces

Elements, attributes and wildcards become properties of the class or interface whose members are
being collected. A reference to a group expands the group's members in place; where groups give
interfaces, it also makes the owner an implementer of the group's interface, which is built once.
A group that is being expanded is not expanded again.
-/

namespace XmlTypes.Build

open Schema

/-! ## Elements and wildcards -/

/-- The type of an element in a content model. -/
def elementType (c : Calls) (env : Environment) (scope : Scope) (d : Declared ElementDecl)
    (isReference : Bool) : Build Resolved :=
  if isReference then globalElementType c env d
  else match d.definition.typeRef with
    | none => return .primitive .anyType
    | some type =>
      typeRef c env (d.part .type type) (env.naming.elementType d.definition.name scope.ownerName)

/-- The property of an element that occurs within the given bounds. -/
def elementProperty (env : Environment) (scope : Scope) (e : ElementDecl) (type : Resolved)
    (occurs : Occurs) (isReference : Bool) (order : Option Nat) : Property :=
  let isCollection := occurs.isMultiple || type.isList
  { Property.make scope.owner (env.naming.elementProperty e.name scope.ownerName) e.name
      type.type with
    restrictions := type.restrictions
    isCollection
    isRequired := 0 < occurs.min
    isNullable := !isCollection && occurs.min = 0
    isNillable := e.nillable
    default := e.default
    fixed := e.fixed
    form := if isReference then .qualified else e.form
    explicitNamespace := scope.explicitNamespace e.name
    documentation := e.documentation
    order }

/-- Collects an element, unless a restriction restates it. -/
def element (c : Calls) (env : Environment) (scope : Scope) (d : Declared ElementDecl)
    (occurs : Occurs) (compositor : Compositor) (isReference : Bool) : Build Scope := do
  let name := d.definition.name
  if scope.restated.contains (name, false) then return scope
  let type ← elementType c env scope d isReference
  let isOrdered := env.options.emitOrder && compositor = .sequence
  let order := if isOrdered then some scope.nextOrder else none
  let added ← addProperty
    (elementProperty env scope d.definition type occurs isReference order)
  if added && isReference && !(env.index.substitutionMembers name).isEmpty then
    modifyContext fun ctx =>
      { ctx with substitutions := ctx.substitutions.addSite scope.owner name }
  return if isOrdered then { scope with nextOrder := scope.nextOrder + 1 } else scope

/-- Collects an element wildcard. -/
def anyElement (scope : Scope) (w : Wildcard) (occurs : Occurs) : Build Unit := do
  let _ ← addProperty
    { Property.make scope.owner "Any" (.bare "any") (.primitive .anyType) with
      isWildcard := true
      isCollection := occurs.isMultiple
      isRequired := 0 < occurs.min
      isNullable := !occurs.isMultiple && occurs.min = 0
      documentation := w.documentation }

/-- Collects an attribute wildcard, unless a base class has one. -/
def anyAttribute (scope : Scope) (w : Wildcard) : Build Unit := do
  let g ← getGraph
  let inherited := (g.ancestors scope.owner).any fun id =>
    (g.properties id).any fun p => p.isWildcard && p.isAttribute
  if inherited then return
  let _ ← addProperty
    { Property.make scope.owner "AnyAttribute" (.bare "anyAttribute") (.primitive .anyType) with
      isAttribute := true
      isWildcard := true
      isCollection := true
      documentation := w.documentation }

/-- Collects the attribute wildcard of a definition, or one for the attribute groups that were
expanded in it. -/
def anyAttributeOf (scope : Scope) (declared : Option Wildcard) : Build Unit :=
  match declared with
  | some w => anyAttribute scope w
  | none => if scope.anyAttribute then anyAttribute scope {} else pure ()

/-! ## Attributes -/

/-- The property of an attribute. -/
def attributeProperty (env : Environment) (scope : Scope) (a : AttributeDecl) (type : Resolved)
    (isReference : Bool) : Property :=
  let isRequired := a.use = .required
  { Property.make scope.owner (env.naming.attributeProperty a.name scope.ownerName) a.name
      type.type with
    restrictions := type.restrictions
    isAttribute := true
    isCollection := type.isList
    isRequired
    isNullable := !isRequired && a.default.isNone && a.fixed.isNone
    default := a.default
    fixed := a.fixed
    form := if isReference then .qualified else a.form
    explicitNamespace := scope.explicitNamespace a.name
    documentation := a.documentation }

/-- The type of an attribute. -/
def attributeType (c : Calls) (env : Environment) (scope : Scope) (d : Declared AttributeDecl)
    (isReference : Bool) : Build Resolved :=
  match d.definition.typeRef with
  | none => return .primitive .string
  | some type =>
    if isReference then globalAttributeType c env d type
    else
      typeRef c env (d.part .type type)
        (env.naming.attributeType d.definition.name scope.ownerName)

/-- Collects an attribute, unless it is prohibited or a restriction restates it. -/
def attributeMember (c : Calls) (env : Environment) (scope : Scope) (d : Declared AttributeDecl)
    (isReference : Bool) : Build Unit := do
  let a := d.definition
  if a.use = .prohibited || scope.restated.contains (a.name, true) then return
  let type ← attributeType c env scope d isReference
  let _ ← addProperty (attributeProperty env scope a type isReference)

/-! ## Groups -/

/-- Collects the particles of a model group. In a choice each of them may be absent. -/
def modelGroup (c : Calls) (scope : Scope) (d : Declared ModelGroup) (occurs : Occurs) :
    Build Scope :=
  let compositor := d.definition.compositor
  let inner := if compositor = .choice then { occurs with min := 0 } else occurs
  d.definition.particles.zipIdx.foldlM
    (fun scope (p, i) => c.particle scope (d.part (.particle i) p) inner compositor) scope

/-- Does `collect` while the group of the given name counts as being expanded. -/
def expanding {α : Type} (group : QName) (collect : Build α) : Build α := do
  modifyContext (·.enter group)
  let a ← collect
  modifyContext (·.leave)
  return a

/-- The scope of a new interface. -/
def interfaceScope (id : NodeId) (document : Document) : Build Scope := do
  return { owner := id, ownerName := (← getGraph).nameOf id
           targetNamespace := document.targetNamespace }

/-- The interface of a model group. -/
def groupInterface (c : Calls) (env : Environment) (d : Declared GroupDef) : Build NodeId := do
  let name := d.definition.name
  let key : CacheKey := ⟨.group, d.location, name⟩
  match (← getContext).cache.get? key with
  | some id => return id
  | none =>
    let id ← newNode env d.document name (env.naming.group name "") (.interface {})
      d.definition.documentation
    modifyContext (·.recordNamed key id)
    let scope ← interfaceScope id d.document
    note scope (.group d)
    let _ ← expanding name (modelGroup c scope (d.inPlace d.definition.group) .once)
    return id

/-- The interface of an attribute group. -/
def attributeGroupInterface (c : Calls) (env : Environment) (d : Declared AttributeGroupDef) :
    Build NodeId := do
  let name := d.definition.name
  let key : CacheKey := ⟨.attributeGroup, d.location, name⟩
  match (← getContext).cache.get? key with
  | some id => return id
  | none =>
    let id ← newNode env d.document name (env.naming.attributeGroup name "") (.interface {})
      d.definition.documentation
    modifyContext (·.recordNamed key id)
    let scope ← interfaceScope id d.document
    note scope (.attributeGroup d)
    let scope ← expanding name (c.attributes scope (d.inPlace d.definition.attributes))
    anyAttributeOf scope d.definition.anyAttribute
    return id

/-- Makes the owner an implementer of the interface that `build` gives, where groups give
interfaces. -/
def implement (env : Environment) (owner : NodeId) (build : Build NodeId) : Build Unit := do
  if env.options.generateInterfaces then
    let interface ← build
    modifyGraph (·.addImplementer interface owner)

/-- Collects the members of a model group that is referred to. -/
def groupReference (c : Calls) (env : Environment) (scope : Scope) (name : QName)
    (document : Document) (occurs : Occurs) : Build Scope := do
  match env.index.group? name with
  | none => failUnresolved .group name document
  | some g =>
    let d := Declared.ofGlobal .groups g
    implement env scope.owner (groupInterface c env d)
    if (← getContext).isExpanding name then return scope
    expanding name (modelGroup c scope (d.inPlace d.definition.group) occurs)

/-- Collects the members of an attribute group that is referred to. -/
def attributeGroupReference (c : Calls) (env : Environment) (scope : Scope) (name : QName)
    (document : Document) : Build Scope := do
  match env.index.attributeGroup? name with
  | none => failUnresolved .attributeGroup name document
  | some g =>
    let d := Declared.ofGlobal .attributeGroups g
    implement env scope.owner (attributeGroupInterface c env d)
    if (← getContext).isExpanding name then return scope
    let scope ← expanding name (c.attributes scope (d.inPlace d.definition.attributes))
    return if d.definition.anyAttribute.isSome then { scope with anyAttribute := true } else scope

/-! ## Content models and attribute lists -/

/-- Collects the members of a particle. One that never occurs has none. -/
def particle (c : Calls) (env : Environment) (scope : Scope) (d : Declared Particle)
    (outer : Occurs) (compositor : Compositor) : Build Scope := do
  let occurs := d.definition.occurs.within outer
  if occurs.isEmpty then return scope
  match d.definition.term with
  | .element e => element c env scope (d.inPlace e) occurs compositor false
  | .elementRef name =>
    match env.index.element? name with
    | none => failUnresolved .element name d.document
    | some g => element c env scope (.ofGlobal .elements g) occurs compositor true
  | .any w => do
    anyElement scope w occurs
    return scope
  | .groupRef name => groupReference c env scope name d.document occurs
  | .group g => modelGroup c scope (d.inPlace g) occurs

/-- Collects an entry of an attribute list. -/
def attributeItem (c : Calls) (env : Environment) (scope : Scope) (d : Declared AttributeItem) :
    Build Scope := do
  match d.definition with
  | .attribute a =>
    attributeMember c env scope (d.inPlace a) false
    return scope
  | .ref name =>
    match env.index.attribute? name with
    | none => failUnresolved .attribute name d.document
    | some g =>
      attributeMember c env scope (.ofGlobal .attributes g) true
      return scope
  | .group name => attributeGroupReference c env scope name d.document

/-- Collects the entries of an attribute list. -/
def attributes (c : Calls) (env : Environment) (scope : Scope)
    (d : Declared (List AttributeItem)) : Build Scope :=
  d.definition.zipIdx.foldlM
    (fun scope (item, i) => attributeItem c env scope (d.part (.attribute i) item)) scope

end XmlTypes.Build
