import XmlTypes.Proofs.Places
import XmlTypes.Proofs.Stops
/-!
# What type references come to

A reference to a type comes to a primitive value, or to a node. Which of the two, and which value,
depends on how the reference is written (`valueIn`), not on what was built before: a definition
given in place is remembered only if it comes to a node (`Valued`).
-/

namespace XmlTypes.Build

open Schema

/-- What a type reference in a document comes to, unless it comes to a node. -/
def valueIn (env : Environment) (document : Document) : TypeRef → Option Resolved
  | .named name =>
    (if name.isXsd then Primitive.ofBuiltin? name.name else none).map fun p =>
      { type := .primitive p, isList := isListBuiltin name.name }
  | .inline (.complex _) => none
  | .inline (.simple t) =>
    match classify env document [] t with
    | .ok (.value type restrictions isList) =>
      some { type := .primitive type, restrictions, isList }
    | _ => none

/-- The reference comes to a node: it is the name of a declared type, or gives a complex type or an
enumeration in place. -/
def NodeIn (env : Environment) (document : Document) : TypeRef → Prop
  | .named name => isBuiltin name = false
  | .inline (.complex _) => True
  | .inline (.simple t) => ∃ facets, classify env document [] t = .ok (.enumeration facets)

theorem NodeIn.valueIn_eq {env : Environment} {document : Document} {r : TypeRef}
    (h : NodeIn env document r) : valueIn env document r = none := by
  cases r with
  | named name =>
    unfold NodeIn isBuiltin at h
    unfold valueIn
    cases hx : name.isXsd <;> simp_all
  | inline type =>
    cases type with
    | complex type => rfl
    | simple type =>
      obtain ⟨facets, hc⟩ := h
      simp only [valueIn, hc]

/-- The value is a node if the reference comes to one; and for a type that is given in place it is
the node that is remembered for the place, unless the type is a complex one with a name. -/
structure Placed (env : Environment) (s : State) (d : Declared TypeRef) (v : ValueType) : Prop where
  node : NodeIn env d.document d.definition → ∃ id, v = .node id
  place : ∀ type id, d.definition = .inline type → (type.isComplex = true → type.name = none) →
    v = .node id → s.context.inlineType? d.place = some id

/-- A reference that comes to the given value, or to a node if there is none. A simple type given
in place comes to the node that is remembered for its place. -/
def Yields (env : Environment) (s : State) (d : Declared TypeRef) (type : Resolved) : Prop :=
  match valueIn env d.document d.definition with
  | some value => type = value
  | none => NodeIn env d.document d.definition ∧ ∃ id, type = .node id ∧
    ∀ t, d.definition = .inline (.simple t) → s.context.inlineType? d.place = some id

/-- What the reference comes to, which is the node for its place where the type is given there. -/
structure ComesTo (env : Environment) (s : State) (d : Declared TypeRef) (type : Resolved) :
    Prop where
  yields : Yields env s d type
  placed : Placed env s d type.type

namespace Stop

/-- The type that the schema gives the member, and where it stands. -/
def typeRef? : Stop → Option (Declared TypeRef)
  | .element d _ _ _ => d.definition.typeRef.map (d.part .type)
  | .attribute d _ => d.definition.typeRef.map (d.part .type)

/-- What a member without a type holds. -/
def untyped : Stop → Primitive
  | .element .. => .anyType
  | .attribute .. => .string

/-- `type` is what the type of the member comes to. -/
def HasType (env : Environment) (s : State) (m : Stop) (type : Resolved) : Prop :=
  match m.typeRef? with
  | none => type = .primitive m.untyped
  | some d => Yields env s d type

/-- The value is right for where the type of the member stands. -/
def PlacedAs (env : Environment) (s : State) (m : Stop) (v : ValueType) : Prop :=
  ∀ d, m.typeRef? = some d → Placed env s d v

theorem hasType_of_typeRef? {env : Environment} {s : State} {m : Stop} {d : Declared TypeRef}
    {type : Resolved} (hd : m.typeRef? = some d) (h : ComesTo env s d type) :
    m.HasType env s type ∧ m.PlacedAs env s type.type := by
  refine ⟨?_, fun d' hd' => ?_⟩
  · rw [HasType, hd]
    exact h.yields
  · obtain rfl := Option.some.inj (hd.symm.trans hd')
    exact h.placed

theorem hasType_untyped (env : Environment) (s : State) {m : Stop} (hm : m.typeRef? = none) :
    m.HasType env s (.primitive m.untyped) ∧ m.PlacedAs env s (.primitive m.untyped) := by
  refine ⟨?_, fun d hd => ?_⟩
  · rw [HasType, hm]
  · cases hm.symm.trans hd

end Stop

/-- Definitions given in place are remembered only if they come to nodes. -/
structure Valued (env : Environment) (s : State) : Prop where
  places : ∀ p id, s.context.inlineType? p = some id → ∀ d : Declared TypeRef,
    Belongs env.index (.reference d) → d.place = p → NodeIn env d.document d.definition
  elements : ∀ k id, k.kind = .elementType → s.context.cache.get? k = some id →
    ∀ g r, env.index.element? k.name = some g → g.definition.typeRef = some r →
      ComesTo env s ((Declared.ofGlobal .elements g).part .type r) (.node id)
  attributes : ∀ k id, k.kind = .attributeType → s.context.cache.get? k = some id →
    ∀ g r, env.index.attribute? k.name = some g → g.definition.typeRef = some r →
      ComesTo env s ((Declared.ofGlobal .attributes g).part .type r) (.node id)

end XmlTypes.Build
