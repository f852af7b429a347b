import XmlTypes.Failure
import XmlTypes.Namespace.Key
import XmlTypes.Table
/-!
# Resolving namespaces

A resolver finds the output namespace for an XML namespace that a document refers to. Rules are
tried from the most to the least specific key. Where none matches, a policy may generate a name,
which is remembered for that very pair of document and namespace; a rule always wins over a
remembered name.
-/

namespace XmlTypes

/-- Generates an output name for a namespace referred to from a document, or declines. -/
abbrev NamespacePolicy := Option String → String → Option String

/-- Rules, a policy, and what the policy has answered. -/
structure Resolver where
  rules : Table NamespaceKey String := {}
  policy : Option NamespacePolicy := none
  /-- The names that the policy generated. -/
  generated : Table NamespaceKey String := {}
  /-- The questions put to the policy, in order. -/
  asked : List (Option String × String) := []
deriving Inhabited

namespace Resolver

/-- A resolver with the first rule of each key. -/
def ofRules (rules : List (NamespaceKey × String)) : Resolver := { rules := .ofEntries rules }

/-- Adds a rule; a rule for the same key stays. -/
def addRule (r : Resolver) (key : NamespaceKey) (output : String) : Resolver :=
  { r with rules := r.rules.insertNew key output }

/-- The keys of a document, the one for the given namespace first. -/
def keysOf (uri : String) : Option String → List NamespaceKey
  | none => []
  | some source => [⟨some source, some uri⟩, ⟨some source, none⟩]

/-- The keys under which a rule is looked for: those of the document, those of its file name, and
those of no document. -/
def fallbacks (source : Option String) (uri : String) : List NamespaceKey :=
  keysOf uri source ++ keysOf uri (source.bind Uri.fileName?) ++ [⟨none, some uri⟩, ⟨none, none⟩]

/-- The output of the first key that has a rule. -/
def rule? (r : Resolver) (source : Option String) (uri : String) : Option String :=
  (fallbacks source uri).findSome? r.rules.get?

/-- The output name for `uri` referred to from `source`, with what the resolver remembers
afterwards. -/
def resolve (r : Resolver) (source : Option String) (uri : String) :
    Except Failure String × Resolver :=
  match r.rule? source uri with
  | some output => (.ok output, r)
  | none =>
    let exact : NamespaceKey := ⟨source, some uri⟩
    match r.generated.get? exact with
    | some output => (.ok output, r)
    | none =>
      match r.policy with
      | none => (.error (.unmapped uri source), r)
      | some policy =>
        let r := { r with asked := r.asked ++ [(source, uri)] }
        match policy source uri with
        | some output => (.ok output, { r with generated := r.generated.insert exact output })
        | none => (.error (.unmapped uri source), r)

end Resolver

end XmlTypes
