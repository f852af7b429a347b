import XmlTypes.Build.Members
/-!
# Classes of complex types

A class is remembered before anything else is looked at; its base comes next, so the base class is
known when its own content is collected. Only the declared content of a type is collected: what an
extension appends, and of a restriction what its base classes do not have.
-/

namespace XmlTypes.Build

open Schema

/-- Looks up the base of a derived class. A complex base becomes the base class, whose text it
shares; a simple base becomes the type of the text; the type of anything is no base. -/
def derive (c : Calls) (env : Environment) (id : NodeId) (derivation : Derivation)
    (document : Document) : Build Unit := do
  let base := derivation.base
  if base.isXsd then
    match Primitive.ofBuiltin? base.name with
    | some .anyType => return
    | some p => setText id (.primitive p)
    | none => failUnresolved .baseType base document
  else
    match env.index.type? base with
    | none => failUnresolved .baseType base document
    | some g =>
      let baseId ← globalType c env g
      if g.definition.isComplex then
        modifyGraph (·.setBase id baseId)
        if let some text := ((← getGraph).class? baseId).bind (·.text) then setText id text
      else setText id (.node baseId)

/-- The members that the base classes of a class declare, wildcards excepted. -/
def restatable (g : Graph) (id : NodeId) : List (QName × Bool) :=
  ((g.inheritedProperties id).filter fun p => !p.isWildcard).map fun p =>
    (p.schemaName, p.isAttribute)

/-- The scope of a class once its base is known. -/
def classScope (c : Calls) (env : Environment) (id : NodeId) (d : Declared ComplexType) :
    Build Scope := do
  let ownerName := (← getGraph).nameOf id
  let scope : Scope := { owner := id, ownerName, targetNamespace := d.document.targetNamespace }
  match d.definition.derivation with
  | none => return scope
  | some derivation =>
    derive c env id derivation d.document
    match derivation.method with
    | .extension => return scope
    | .restriction => return { scope with restated := restatable (← getGraph) id }

/-- Settles the text of a class: the type of its simple content, or character data between
elements unless the base has settled it. -/
def classText (c : Calls) (env : Environment) (scope : Scope) (d : Declared ComplexType) :
    Build Unit := do
  match d.definition.simpleContent with
  | none => pure ()
  | some content =>
    let resolved ← typeRef c env (d.part .simpleContent content) (scope.ownerName ++ "Value")
    setText scope.owner resolved.type
  if d.definition.mixed && ((← getGraph).class? scope.owner).any (·.text.isNone) then
    setText scope.owner (.primitive .string)

/-- Collects the content model of a class, if it has one. -/
def classParticle (c : Calls) (env : Environment) (scope : Scope) (d : Declared ComplexType) :
    Build Scope :=
  match d.definition.particle with
  | none => return scope
  | some content => particle c env scope (d.part .content content) .once .sequence

/-- Collects what belongs to a class. -/
def classContent (c : Calls) (env : Environment) (id : NodeId) (d : Declared ComplexType) :
    Build Unit := do
  let scope ← classScope c env id d
  note scope (.type d)
  classText c env scope d
  let scope ← attributes c env scope (d.inPlace d.definition.attributes)
  let scope ← classParticle c env scope d
  anyAttributeOf scope d.definition.anyAttribute

/-- The class of a complex type: the one that is remembered under the key or for the place of a
definition given in place, or else a new one. -/
def classNode (c : Calls) (env : Environment) (d : Declared ComplexType) (identity : QName)
    (candidate : String) (key : Option CacheKey) : Build NodeId := do
  let ctx ← getContext
  match (key.bind ctx.cache.get?).orElse fun _ => ctx.inlineType? d.place with
  | some id => return id
  | none =>
    let t := d.definition
    let id ← newNode env d.document identity candidate
      (.classLike { isAbstract := t.isAbstract, mixed := t.mixed }) t.documentation
    if let some key := key then modifyContext (·.recordNamed key id)
    if t.name.isNone then modifyContext (·.recordInline d.place id)
    classContent c env id d
    return id

/-- The ways down, at most `fuel` steps deep. -/
def callsUpTo (env : Environment) : (fuel : Nat) → Calls
  | 0 =>
    { classNode := fun d _ _ _ => failBottomless d.document
      particle := fun _ d _ _ => failBottomless d.document
      attributes := fun _ d => failBottomless d.document }
  | fuel + 1 =>
    { classNode := fun d identity candidate key =>
        classNode (callsUpTo env fuel) env d identity candidate key
      particle := fun scope d outer compositor =>
        particle (callsUpTo env fuel) env scope d outer compositor
      attributes := fun scope d => attributes (callsUpTo env fuel) env scope d }

/-- The ways down, as deep as the schema may lead. -/
def Environment.calls (env : Environment) : Calls := callsUpTo env env.limit

end XmlTypes.Build
