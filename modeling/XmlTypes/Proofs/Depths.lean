import XmlTypes.Proofs.Declarations
import XmlTypes.Schema.Depth
/-!
# Depths of parts

A part of a definition is less deep than the whole, and no declaration is deeper than its schema.
-/

namespace XmlTypes.Schema

/-! ## Parts -/

theorem ComplexType.depth_eq (t : ComplexType) :
    t.depth = max (Particle.depth? t.particle)
      (max (AttributeItem.depths t.attributes) (TypeRef.depth? t.simpleContent)) + 1 := by
  cases t
  rfl

theorem AttributeDecl.depth_eq (a : AttributeDecl) : a.depth = TypeRef.depth? a.typeRef + 1 := by
  cases a
  rfl

theorem ElementDecl.depth_eq (e : ElementDecl) : e.depth = TypeRef.depth? e.typeRef + 1 := by
  cases e
  rfl

theorem Particle.depth_eq (p : Particle) : p.depth = p.term.depth + 1 := by
  cases p
  rfl

theorem ModelGroup.depth_eq (g : ModelGroup) : g.depth = Particle.depths g.particles + 1 := by
  cases g
  rfl

theorem SimpleType.depth_eq (t : SimpleType) : t.depth = t.content.depth + 1 := by
  cases t
  rfl

theorem ComplexType.particle_depth_lt {t : ComplexType} {p : Particle} (h : t.particle = some p) :
    p.depth < t.depth := by
  rw [t.depth_eq, h, Particle.depth?]
  omega

theorem ComplexType.simpleContent_depth_lt {t : ComplexType} {r : TypeRef}
    (h : t.simpleContent = some r) : r.depth < t.depth := by
  rw [t.depth_eq, h, TypeRef.depth?]
  omega

theorem ComplexType.attributes_depth_lt (t : ComplexType) :
    AttributeItem.depths t.attributes < t.depth := by
  rw [t.depth_eq]
  omega

theorem ElementDecl.typeRef_depth_lt {e : ElementDecl} {r : TypeRef} (h : e.typeRef = some r) :
    r.depth < e.depth := by
  rw [e.depth_eq, h, TypeRef.depth?]
  omega

theorem AttributeDecl.typeRef_depth_lt {a : AttributeDecl} {r : TypeRef} (h : a.typeRef = some r) :
    r.depth < a.depth := by
  rw [a.depth_eq, h, TypeRef.depth?]
  omega

theorem Particle.depth_le_depths {ps : List Particle} {p : Particle} (h : p ∈ ps) :
    p.depth ≤ Particle.depths ps := by
  induction ps with
  | nil => cases h
  | cons q ps ih =>
    rw [Particle.depths]
    rcases List.mem_cons.1 h with rfl | h
    · exact Nat.le_max_left _ _
    · exact Nat.le_trans (ih h) (Nat.le_max_right _ _)

theorem AttributeItem.depth_le_depths {is : List AttributeItem} {i : AttributeItem} (h : i ∈ is) :
    i.depth ≤ AttributeItem.depths is := by
  induction is with
  | nil => cases h
  | cons j is ih =>
    rw [AttributeItem.depths]
    rcases List.mem_cons.1 h with rfl | h
    · exact Nat.le_max_left _ _
    · exact Nat.le_trans (ih h) (Nat.le_max_right _ _)

theorem TypeRef.depth_le_depths {rs : List TypeRef} {r : TypeRef} (h : r ∈ rs) :
    r.depth ≤ TypeRef.depths rs := by
  induction rs with
  | nil => cases h
  | cons q rs ih =>
    rw [TypeRef.depths]
    rcases List.mem_cons.1 h with rfl | h
    · exact Nat.le_max_left _ _
    · exact Nat.le_trans (ih h) (Nat.le_max_right _ _)

theorem AttributeItem.depth_pos (i : AttributeItem) : 0 < i.depth := by
  cases i <;> simp [AttributeItem.depth]

/-! ## Schemas -/

theorem le_greatest {n : Nat} {ns : List Nat} (h : n ∈ ns) : n ≤ greatest ns := by
  have hmono : ∀ (ns : List Nat) (k : Nat), k ≤ ns.foldl max k ∧ ∀ m ∈ ns, m ≤ ns.foldl max k := by
    intro ns
    induction ns with
    | nil => exact fun k => ⟨Nat.le_refl k, nofun⟩
    | cons m ns ih =>
      intro k
      obtain ⟨hk, hns⟩ := ih (max k m)
      refine ⟨Nat.le_trans (Nat.le_max_left _ _) hk, List.forall_mem_cons.2 ⟨?_, hns⟩⟩
      exact Nat.le_trans (Nat.le_max_right _ _) hk
  exact (hmono ns 0).2 n h

theorem SchemaSet.document_depth_le {set : SchemaSet} {d : Document} (h : d ∈ set.documents) :
    d.depth ≤ set.depth :=
  le_greatest (List.mem_map_of_mem h)

section
variable {set : SchemaSet} {d : Document} (hd : d ∈ set.documents)
include hd

theorem SchemaSet.type_depth_le {t : TypeDefinition} (h : t ∈ d.types) : t.depth ≤ set.depth := by
  refine Nat.le_trans (le_greatest ?_) (document_depth_le hd)
  simp only [List.mem_append, List.mem_map]
  exact .inl (.inl (.inl (.inl ⟨t, h, rfl⟩)))

theorem SchemaSet.element_depth_le {e : ElementDecl} (h : e ∈ d.elements) :
    e.depth ≤ set.depth := by
  refine Nat.le_trans (le_greatest ?_) (document_depth_le hd)
  simp only [List.mem_append, List.mem_map]
  exact .inl (.inl (.inl (.inr ⟨e, h, rfl⟩)))

theorem SchemaSet.group_depth_le {g : GroupDef} (h : g ∈ d.groups) :
    g.group.depth ≤ set.depth := by
  refine Nat.le_trans (le_greatest ?_) (document_depth_le hd)
  simp only [List.mem_append, List.mem_map]
  exact .inl (.inl (.inr ⟨g, h, rfl⟩))

theorem SchemaSet.attributeGroup_depth_le {g : AttributeGroupDef} (h : g ∈ d.attributeGroups) :
    AttributeItem.depths g.attributes ≤ set.depth := by
  refine Nat.le_trans (le_greatest ?_) (document_depth_le hd)
  simp only [List.mem_append, List.mem_map]
  exact .inl (.inr ⟨g, h, rfl⟩)

theorem SchemaSet.attribute_depth_le {a : AttributeDecl} (h : a ∈ d.attributes) :
    a.depth ≤ set.depth := by
  refine Nat.le_trans (le_greatest ?_) (document_depth_le hd)
  simp only [List.mem_append, List.mem_map]
  exact .inr ⟨a, h, rfl⟩

end

end XmlTypes.Schema
