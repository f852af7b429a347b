import XmlTypes.Build.State
/-!
# Nodes of simple types

A named simple type gets a node, an enumeration or a restricted value. A simple type given in
place gets a node only if it is an enumeration; otherwise its primitive and restrictions go to
where it is given.
-/

namespace XmlTypes.Build

open Schema

/-- The values of an enumeration: each literal once, with its first annotations. A member whose
name is taken gets a number. -/
def enumValues (naming : Naming) (facets : List Facet) (enumName : String) : List EnumValue :=
  facets.foldl (fun values f => match f with
    | .enumeration literal documentation deprecated =>
      if values.any (·.literal = literal) then values
      else
        let name := fresh (fun n => values.any (·.name = n)) values.length
          (naming.enumMember literal enumName)
        values ++ [{ name, literal, deprecated, documentation }]
    | _ => values) []

/-- Classifies a simple type that stands in a document. -/
def classify (env : Environment) (document : Document) (visiting : List QName) (t : SimpleType) :
    Except Failure Classification :=
  classifyContent env.options (classifyRef env.index env.options env.limit document visiting)
    t.content

/-- Creates the node of an enumeration. -/
def enumNode (env : Environment) (d : Declared SimpleType) (identity : QName) (candidate : String)
    (facets : List Facet) : Build NodeId := do
  let id ← newNode env d.document identity candidate (.enumeration []) d.definition.documentation
  let name := (← getGraph).nameOf id
  modifyGraph (·.modify id fun n =>
    { n with kind := .enumeration (enumValues env.naming facets name) })
  return id

/-- The node of a simple type with the name. -/
def simpleTypeNode (env : Environment) (name : QName) (d : Declared SimpleType) :
    Build NodeId := do
  let key : CacheKey := ⟨.simpleType, d.location, name⟩
  match (← getContext).cache.get? key with
  | some id => return id
  | none =>
    let id ← match ← classify env d.document [name] d.definition with
      | .enumeration facets => enumNode env d name (env.naming.enumeration name "") facets
      | .value valueType restrictions isList =>
        newNode env d.document name (env.naming.simpleType name "")
          (.simple { valueType, restrictions, isList }) d.definition.documentation
    modifyContext (·.recordNamed key id)
    return id

/-- The node of a global simple type, which has a name. -/
def namedSimpleType (env : Environment) (d : Declared SimpleType) : Build NodeId :=
  match d.definition.name with
  | some name => simpleTypeNode env name d
  | none => failUnsupported .namelessSimpleType

/-- What a simple type given in place comes to. -/
def inlineSimpleType (env : Environment) (d : Declared SimpleType) (candidate : String) :
    Build Resolved := do
  match (← getContext).inlineType? d.place with
  | some id => return .node id
  | none =>
    match ← classify env d.document [] d.definition with
    | .enumeration facets =>
      let id ← enumNode env d .anonymous candidate facets
      modifyContext (·.recordInline d.place id)
      return .node id
    | .value type restrictions isList => return { type := .primitive type, restrictions, isList }

end XmlTypes.Build
