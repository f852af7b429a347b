import XmlTypes.Build.Roots
import XmlTypes.Graph.Finish
import XmlTypes.Schema.Order
/-!
# Building a type graph

Documents are built in the order of their dependencies, each with its types and then its elements.
Then the properties that refer to heads of substitution groups get their substitutes, and the
graph is finished.
-/

namespace XmlTypes.Build

open Schema

/-- Builds the types of a document, as far as they are the first of their names. -/
def documentTypes (env : Environment) (document : Document) (d : Nat) : Build Unit :=
  document.types.zipIdx.forM fun (t, i) => do
    match t.name with
    | none => return
    | some name =>
      if env.index.types.get? name = some ⟨d, i⟩ then
        let _ ← globalType env.calls env ⟨t, document, ⟨d, i⟩⟩

/-- Builds the elements of a document, as far as they are the first of their names. -/
def documentElements (env : Environment) (document : Document) (d : Nat) : Build Unit :=
  document.elements.zipIdx.forM fun (e, i) => do
    if env.index.elements.get? e.name = some ⟨d, i⟩ then
      topLevelElement env (.ofGlobal .elements ⟨e, document, ⟨d, i⟩⟩)

/-- Builds the document at a position. -/
def document (env : Environment) (d : Nat) : Build Unit := do
  match env.index.documents[d]? with
  | none => return
  | some doc =>
    documentTypes env doc d
    documentElements env doc d

/-! ## Substitutes -/

/-- The first property of a node for elements of the given name. -/
def siteProperty? (g : Graph) (site : Site) : Option Property :=
  (g.properties site.owner).find? (·.isElement site.head)

/-- Puts substitutes on the property for their head. -/
def mergeSubstitutes (g : Graph) (site : Site) (substitutes : List Substitute) : Graph :=
  match (g.properties site.owner).findIdx? (·.isElement site.head) with
  | none => g
  | some i =>
    g.modify site.owner (Node.mapProperties fun ps => ps.modify i fun p => { p with substitutes })

/-- The property of `owner` for a substitute, beside the property for its head. -/
def substituteProperty (naming : Naming) (owner : NodeId) (ownerName : String) (head : Property)
    (s : Substitute) : Property :=
  { Property.make owner (naming.elementProperty s.member ownerName) s.member s.type with
    isCollection := head.isCollection
    isNullable := !head.isCollection
    form := head.form
    order := head.order
    explicitNamespace := head.explicitNamespace }

/-- Adds a property for each substitute beside the property for their head. -/
def separateSubstitutes (naming : Naming) (g : Graph) (site : Site)
    (substitutes : List Substitute) : Graph :=
  match siteProperty? g site with
  | none => g
  | some head =>
    let ownerName := g.nameOf site.owner
    substitutes.foldl (fun g s =>
      (g.addProperty (substituteProperty naming site.owner ownerName head s)).1) g

/-- Gives the properties that wait for the members of their heads what they wait for. -/
def attachSubstitutes (env : Environment) (registry : Substitutions) (g : Graph) : Graph :=
  registry.sites.foldl (fun g site =>
    let substitutes := registry.substitutesOf site.head
    match env.options.substitutionStrategy with
    | .merge => if substitutes.isEmpty then g else mergeSubstitutes g site substitutes
    | .separate => separateSubstitutes env.naming g site substitutes) g

/-! ## The whole -/

/-- Builds all documents, in the order of their dependencies. -/
def documents (env : Environment) : Build Unit := env.index.buildOrder.forM (document env)

/-- The state after all documents are built. -/
def run (env : Environment) (resolver : Resolver) : Except Failure State := do
  let ((), s) ← StateT.run (documents env) { resolver }
  return s

/-- The finished graph of a state. -/
def State.finished (env : Environment) (s : State) : Graph :=
  ((attachSubstitutes env s.context.substitutions s.graph).finish env.options).markAmbiguous

end XmlTypes.Build

namespace XmlTypes

/-- The type graph of a schema. -/
def buildGraph (set : Schema.SchemaSet) (options : Options) (naming : Naming)
    (resolver : Resolver) : Except Failure Graph := do
  let env := Build.Environment.ofSet set options naming
  return (← Build.run env resolver).finished env

end XmlTypes
