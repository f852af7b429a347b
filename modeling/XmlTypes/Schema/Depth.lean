import XmlTypes.Schema.Document
/-!
# How deep definitions nest

The depth of a definition counts the types and particles that contain one another in it, and
`typesInside` the types that are given in place there. A name that it refers to adds nothing.
-/

namespace XmlTypes.Schema

mutual

/-- The depth of a type reference. -/
def TypeRef.depth : TypeRef → Nat
  | .named _ => 1
  | .inline definition => definition.depth + 1

/-- The greatest depth of type references. -/
def TypeRef.depths : List TypeRef → Nat
  | [] => 0
  | r :: rs => max r.depth (TypeRef.depths rs)

/-- The depth of a type reference, if there is one. -/
def TypeRef.depth? : Option TypeRef → Nat
  | none => 0
  | some r => r.depth

/-- The depth of a type definition. -/
def TypeDefinition.depth : TypeDefinition → Nat
  | .complex type => type.depth + 1
  | .simple type => type.depth + 1

/-- The depth of a complex type. -/
def ComplexType.depth : ComplexType → Nat
  | ⟨_, _, _, _, _, particle, attributes, _, simpleContent⟩ =>
    max (Particle.depth? particle)
      (max (AttributeItem.depths attributes) (TypeRef.depth? simpleContent)) + 1

/-- The depth of an entry of an attribute list. -/
def AttributeItem.depth : AttributeItem → Nat
  | .attribute declaration => declaration.depth + 1
  | .ref _ => 1
  | .group _ => 1

/-- The greatest depth of the entries of an attribute list. -/
def AttributeItem.depths : List AttributeItem → Nat
  | [] => 0
  | i :: is => max i.depth (AttributeItem.depths is)

/-- The depth of an attribute declaration. -/
def AttributeDecl.depth : AttributeDecl → Nat
  | ⟨_, typeRef, _, _, _, _, _⟩ => TypeRef.depth? typeRef + 1

/-- The depth of an element declaration. -/
def ElementDecl.depth : ElementDecl → Nat
  | ⟨_, typeRef, _, _, _, _, _, _, _⟩ => TypeRef.depth? typeRef + 1

/-- The depth of a particle. -/
def Particle.depth : Particle → Nat
  | ⟨term, _⟩ => term.depth + 1

/-- The greatest depth of particles. -/
def Particle.depths : List Particle → Nat
  | [] => 0
  | p :: ps => max p.depth (Particle.depths ps)

/-- The depth of a particle, if there is one. -/
def Particle.depth? : Option Particle → Nat
  | none => 0
  | some p => p.depth

/-- The depth of a term. -/
def Term.depth : Term → Nat
  | .element declaration => declaration.depth + 1
  | .elementRef _ => 1
  | .any _ => 1
  | .groupRef _ => 1
  | .group group => group.depth + 1

/-- The depth of a model group. -/
def ModelGroup.depth : ModelGroup → Nat
  | ⟨_, particles⟩ => Particle.depths particles + 1

/-- The depth of a simple type. -/
def SimpleType.depth : SimpleType → Nat
  | ⟨_, _, content⟩ => content.depth + 1

/-- The depth of the making of a simple type. -/
def SimpleContent.depth : SimpleContent → Nat
  | .restriction base _ => base.depth + 1
  | .list item => item.depth + 1
  | .union members => TypeRef.depths members + 1

end

mutual

/-- The number of types given in place inside. -/
def TypeRef.typesInside : TypeRef → Nat
  | .named _ => 0
  | .inline definition => definition.typesInside + 1

/-- Their number in all of them. -/
def TypeRef.allTypesInside : List TypeRef → Nat
  | [] => 0
  | r :: rs => r.typesInside + TypeRef.allTypesInside rs

/-- Their number in the one that is there. -/
def TypeRef.typesInside? : Option TypeRef → Nat
  | none => 0
  | some r => r.typesInside

/-- The number of types given in place inside. -/
def TypeDefinition.typesInside : TypeDefinition → Nat
  | .complex type => type.typesInside
  | .simple type => type.typesInside

/-- The number of types given in place inside. -/
def ComplexType.typesInside : ComplexType → Nat
  | ⟨_, _, _, _, _, particle, attributes, _, simpleContent⟩ =>
    Particle.typesInside? particle + AttributeItem.allTypesInside attributes
      + TypeRef.typesInside? simpleContent

/-- The number of types given in place inside. -/
def AttributeItem.typesInside : AttributeItem → Nat
  | .attribute declaration => declaration.typesInside
  | .ref _ => 0
  | .group _ => 0

/-- Their number in all of them. -/
def AttributeItem.allTypesInside : List AttributeItem → Nat
  | [] => 0
  | i :: is => i.typesInside + AttributeItem.allTypesInside is

/-- The number of types given in place inside. -/
def AttributeDecl.typesInside : AttributeDecl → Nat
  | ⟨_, typeRef, _, _, _, _, _⟩ => TypeRef.typesInside? typeRef

/-- The number of types given in place inside. -/
def ElementDecl.typesInside : ElementDecl → Nat
  | ⟨_, typeRef, _, _, _, _, _, _, _⟩ => TypeRef.typesInside? typeRef

/-- The number of types given in place inside. -/
def Particle.typesInside : Particle → Nat
  | ⟨term, _⟩ => term.typesInside

/-- Their number in all of them. -/
def Particle.allTypesInside : List Particle → Nat
  | [] => 0
  | p :: ps => p.typesInside + Particle.allTypesInside ps

/-- Their number in the one that is there. -/
def Particle.typesInside? : Option Particle → Nat
  | none => 0
  | some p => p.typesInside

/-- The number of types given in place inside. -/
def Term.typesInside : Term → Nat
  | .element declaration => declaration.typesInside
  | .elementRef _ => 0
  | .any _ => 0
  | .groupRef _ => 0
  | .group group => group.typesInside

/-- The number of types given in place inside. -/
def ModelGroup.typesInside : ModelGroup → Nat
  | ⟨_, particles⟩ => Particle.allTypesInside particles

/-- The number of types given in place inside. -/
def SimpleType.typesInside : SimpleType → Nat
  | ⟨_, _, content⟩ => content.typesInside

/-- The number of types given in place inside. -/
def SimpleContent.typesInside : SimpleContent → Nat
  | .restriction base _ => base.typesInside
  | .list item => item.typesInside
  | .union members => TypeRef.allTypesInside members

end

/-- All numbers together. -/
def total (ns : List Nat) : Nat := ns.foldl (· + ·) 0

/-- The greatest of some numbers. -/
def greatest (ns : List Nat) : Nat := ns.foldl max 0

/-- The number of types given in place in a document. -/
def Document.typesInside (d : Document) : Nat :=
  total (d.types.map TypeDefinition.typesInside ++ d.elements.map ElementDecl.typesInside
    ++ d.groups.map (·.group.typesInside)
    ++ d.attributeGroups.map (AttributeItem.allTypesInside ·.attributes)
    ++ d.attributes.map AttributeDecl.typesInside)

/-- The number of types given in place in a schema. -/
def SchemaSet.typesInside (s : SchemaSet) : Nat := total (s.documents.map Document.typesInside)

/-- The greatest depth of a declaration of the document. -/
def Document.depth (d : Document) : Nat :=
  greatest (d.types.map TypeDefinition.depth ++ d.elements.map ElementDecl.depth
    ++ d.groups.map (·.group.depth) ++ d.attributeGroups.map (AttributeItem.depths ·.attributes)
    ++ d.attributes.map AttributeDecl.depth)

/-- The greatest depth of a declaration of the schema. -/
def SchemaSet.depth (s : SchemaSet) : Nat := greatest (s.documents.map Document.depth)

end XmlTypes.Schema
