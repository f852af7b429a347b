import XmlTypes.Build.Simple
/-!
# Types that are referred to

Following a reference leads to a primitive, or to a node that is built on demand. What goes down
into a definition again, from wherever it is met, goes through `Calls`: the ways down are given as
arguments, so each step of the construction is a plain function, and the recursion is tied once,
in `callsUpTo`.
-/

namespace XmlTypes.Build

open Schema

/-- The ways down. -/
structure Calls where
  /-- The class of a complex type, built if need be. -/
  classNode : Declared ComplexType → (identity : QName) → (candidate : String) →
    Option CacheKey → Build NodeId
  /-- Collects the members of a particle, within the bounds and the compositor around it. -/
  particle : Scope → Declared Particle → (outer : Occurs) → Compositor → Build Scope
  /-- Collects the members of an attribute list. -/
  attributes : Scope → Declared (List AttributeItem) → Build Scope

/-- The class of a complex type, named by itself or by the candidate. Only where a type is given in
place is there a candidate. -/
def complexType (c : Calls) (env : Environment) (d : Declared ComplexType)
    (candidate : Option String) : Build NodeId :=
  match d.definition.name, candidate with
  | some name, _ =>
    c.classNode d name (env.naming.complexType name "") (some ⟨.complexType, d.location, name⟩)
  | none, some candidate => c.classNode d .anonymous candidate none
  | none, none => failUnsupported .namelessComplexType

/-- The node of a global type. -/
def globalType (c : Calls) (env : Environment) (g : Global TypeDefinition) : Build NodeId :=
  let d := Declared.ofGlobal .types g
  match g.definition with
  | .complex t => complexType c env (d.inPlace t) none
  | .simple t => namedSimpleType env (d.inPlace t)

/-- What the name of a type comes to: a built-in type, or a global one. -/
def namedType (c : Calls) (env : Environment) (name : QName) (document : Document) :
    Build Resolved :=
  match if name.isXsd then Primitive.ofBuiltin? name.name else none with
  | some p => return { type := .primitive p, isList := isListBuiltin name.name }
  | none =>
    match env.index.type? name with
    | none => failUnresolved .type name document
    | some g => return .node (← globalType c env g)

/-- What a type given in place comes to. -/
def inlineType (c : Calls) (env : Environment) (d : Declared TypeDefinition) (candidate : String) :
    Build Resolved :=
  match d.definition with
  | .complex t => return .node (← complexType c env (d.inPlace t) (some candidate))
  | .simple t => inlineSimpleType env (d.inPlace t) candidate

/-- What a type reference comes to; the candidate names a type given in place. -/
def typeRef (c : Calls) (env : Environment) (d : Declared TypeRef) (candidate : String) :
    Build Resolved :=
  match d.definition with
  | .named name => namedType c env name d.document
  | .inline t => inlineType c env (d.inPlace t) candidate

/-- The type of a global element. A type given in place is built once, for the element and all
references to it. -/
def globalElementType (c : Calls) (env : Environment) (d : Declared ElementDecl) :
    Build Resolved :=
  let name := d.definition.name
  let key : CacheKey := ⟨.elementType, d.location, name⟩
  match d.definition.typeRef with
  | none => return .primitive .anyType
  | some (.named type) => namedType c env type d.document
  | some (.inline t) => do
    match (← getContext).cache.get? key with
    | some id => return .node id
    | none =>
      let candidate := env.naming.rootElement name ""
      match t with
      | .complex t => return .node (← c.classNode (d.part .type t) .anonymous candidate (some key))
      | .simple t =>
        let resolved ← inlineSimpleType env (d.part .type t) candidate
        if let .node id := resolved.type then modifyContext (·.recordNamed key id)
        return resolved

/-- The type of a global attribute. An enumeration given in place is built once. -/
def globalAttributeType (c : Calls) (env : Environment) (d : Declared AttributeDecl)
    (type : TypeRef) : Build Resolved := do
  let name := d.definition.name
  let key : CacheKey := ⟨.attributeType, d.location, name⟩
  match (← getContext).cache.get? key with
  | some id => return .node id
  | none =>
    let resolved ← typeRef c env (d.part .type type) (env.naming.attributeType name "")
    match type, resolved.type with
    | .inline _, .node id => modifyContext (·.recordNamed key id)
    | _, _ => pure ()
    return resolved

end XmlTypes.Build
