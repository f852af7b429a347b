import XmlTypes.Build.State
import XmlTypes.Proofs.Contents
/-!
# What asks for a type given in place

A type that has a name is built for its own sake. A type that is given in place is built because
something has it: a member of an opened class or interface, unless a restriction restates it, a
class with simple content, or a global element.
-/

namespace XmlTypes.Build

open Schema

variable {ix : Index}

/-- The type that the schema gives the member, and where it stands. -/
def Member.typeRef? : Member → Option (Declared TypeRef)
  | .element d _ => d.definition.typeRef.map (d.part .type)
  | .attribute d _ => d.definition.typeRef.map (d.part .type)

/-- The types that an opened class or interface asks for, and where they stand. -/
inductive Opening.AsksFor (ix : Index) (r : Opening) : Declared TypeRef → Prop
  | member {m d} : r.Has ix m → m.key ∉ r.scope.restated → m.typeRef? = some d → AsksFor ix r d
  | content {d type} : r.source = .type d → d.definition.simpleContent = some type →
      AsksFor ix r (d.part .simpleContent type)

/-- What is opened asks for the type, or a global element has it. -/
inductive Asked (ix : Index) (journal : List Opening) : Declared TypeRef → Prop
  | opening {r d} : r ∈ journal → r.AsksFor ix d → Asked ix journal d
  | element {n g type} : ix.element? n = some g → g.definition.typeRef = some type →
      Asked ix journal ((Declared.ofGlobal .elements g).part .type type)

/-- The type is a global one, or it is asked for where it is given. -/
inductive Sought (ix : Index) (journal : List Opening) : Declared ComplexType → Prop
  | isGlobal {d} : d.place.steps = [] → Sought ix journal d
  | inPlace {r type} : Asked ix journal r → r.definition = .inline (.complex type) →
      Sought ix journal (r.inPlace type)

theorem Asked.mono {journal journal' : List Opening} {r : Declared TypeRef}
    (h : Asked ix journal r) (hsub : journal ⊆ journal') : Asked ix journal' r := by
  cases h with
  | opening hr ha => exact .opening (hsub hr) ha
  | element hg ht => exact .element hg ht

theorem Sought.mono {journal journal' : List Opening} {d : Declared ComplexType}
    (h : Sought ix journal d) (hsub : journal ⊆ journal') : Sought ix journal' d := by
  cases h with
  | isGlobal hd => exact .isGlobal hd
  | inPlace hr ht => exact .inPlace (hr.mono hsub) ht

end XmlTypes.Build
