import XmlTypes.Build.Classes
/-!
# Root elements

A global element claims the class of its type as a root. The first element to claim a class is
recorded on it. When a second one claims it, the class becomes an abstract base, and every
claimant gets a class of its own that derives from it.
-/

namespace XmlTypes.Build

open Schema

/-- The class of a root element that shares its type, deriving from the class of the type. -/
def rootClass (env : Environment) (base : NodeId) (element : QName) (document : Document) :
    Build Unit := do
  let key : CacheKey := ⟨.rootElement, document.location, element⟩
  if ((← getContext).cache.get? key).isSome then return
  let candidate := env.naming.rootElement element ((← getGraph).nameOf base)
  let id ← newNode env document .anonymous candidate (.classLike {}) []
  modifyGraph (·.modify id fun n => { n with isAnonymous := false, root := some element })
  modifyContext (·.recordNamed key id)
  modifyGraph (·.setBase id base)

/-- Makes a class the abstract base of the classes of its root elements. -/
def demote (id : NodeId) : Build Unit :=
  modifyGraph (·.modify id fun n =>
    { n with isAbstractRoot := true, root := none }.mapClass fun c => { c with isAbstract := true })

/-- Claims a class as the type of a root element. -/
def claimRoot (env : Environment) (id : NodeId) (element : QName) (document : Document) :
    Build Unit := do
  if ((← getGraph).node? id).any (·.isAbstractRoot) then
    rootClass env id element document
  else match (← getContext).roots.get? id with
    | none =>
      modifyGraph (·.modify id fun n => { n with root := some element })
      modifyContext fun ctx =>
        { ctx with roots := ctx.roots.insert id ⟨element, document.location⟩ }
    | some first =>
      demote id
      match env.index.document? first.location with
      | none => throw (.about .rootDocumentMissing first.element first.location)
      | some home => rootClass env id first.element home
      rootClass env id element document

/-- Whether an element's type is given in place. -/
def hasInlineType (e : ElementDecl) : Bool :=
  match e.typeRef with
  | some (.inline _) => true
  | _ => false

/-- Builds a global element: registers it with its head, and claims its type as a root if that is
a class. A class given in place belongs to its element alone. -/
def topLevelElement (env : Environment) (d : Declared ElementDecl) : Build Unit := do
  let e := d.definition
  let resolved ← globalElementType env.calls env d
  if let some head := e.substitutionGroup then
    modifyContext fun ctx =>
      { ctx with
        substitutions := ctx.substitutions.register ⟨head, e.name, resolved.type⟩ e.isAbstract }
  match resolved.type with
  | .primitive _ => return
  | .node id =>
    if ((← getGraph).class? id).isNone then return
    if hasInlineType e then
      modifyGraph (·.modify id fun n => { n with root := some e.name })
    else claimRoot env id e.name d.document

end XmlTypes.Build
