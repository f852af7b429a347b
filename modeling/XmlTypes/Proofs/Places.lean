import XmlTypes.Proofs.Contents
/-!
# One part at each place

The place of a part tells what it is: two parts of one kind that stand at one place are the same
(`Belongs.unique`). So what is remembered for the place of a definition is remembered for this one.
-/

namespace XmlTypes.Schema

/-- A global declaration is known by where it stands. -/
theorem Index.found_eq_of_slot {α : Type} {docs : List Document} {items : Document → List α}
    {table : Table QName Slot} {n m : QName} {g g' : Global α}
    (h : (table.get? n).bind (at? docs items) = some g)
    (h' : (table.get? m).bind (at? docs items) = some g') (hs : g.slot = g'.slot) : g = g' := by
  have hg : at? docs items g.slot = some g :=
    at?_eq_some.2 ⟨(slot_of_found h).2.1, (slot_of_found h).2.2, rfl⟩
  have hg' : at? docs items g'.slot = some g' :=
    at?_eq_some.2 ⟨(slot_of_found h').2.1, (slot_of_found h').2.2, rfl⟩
  exact Option.some.inj (hg.symm.trans (hs ▸ hg'))

end XmlTypes.Schema

namespace XmlTypes.Build

open Schema

/-- Two parts of one kind stand at one place. -/
def Item.SamePlace : Item → Item → Prop
  | .type d, .type d' => d.place = d'.place
  | .reference d, .reference d' => d.place = d'.place
  | .element d, .element d' => d.place = d'.place
  | .attribute d, .attribute d' => d.place = d'.place
  | .particle d, .particle d' => d.place = d'.place
  | .group d, .group d' => d.place = d'.place
  | .entry d, .entry d' => d.place = d'.place
  | .entries d, .entries d' => d.place = d'.place
  | _, _ => False

theorem Place.part_inj {p q : Place} {step step' : Step} (h : p.part step = q.part step') :
    step = step' ∧ p = q := by
  obtain ⟨l, s, steps⟩ := p
  obtain ⟨l', s', steps'⟩ := q
  simp only [Place.part, Place.mk.injEq, List.cons.injEq] at h ⊢
  exact ⟨h.2.2.1, h.1, h.2.1, h.2.2.2⟩

variable {ix : Index}

/-- No particle stands where an entry of an attribute list stands. -/
theorem Belongs.particle_ne_entry {p : Declared Particle} {i : Declared AttributeItem}
    (hp : Belongs ix (.particle p)) (hi : Belongs ix (.entry i)) : p.place ≠ i.place := by
  intro h
  cases hi with
  | entry _ _ => cases hp <;> cases (Place.part_inj h).1

/-- No element stands where an attribute stands. -/
theorem Belongs.element_ne_attribute {e : Declared ElementDecl} {a : Declared AttributeDecl}
    (he : Belongs ix (.element e)) (ha : Belongs ix (.attribute a)) : e.place ≠ a.place := by
  intro h
  cases he with
  | globalElement _ =>
    cases ha with
    | globalAttribute _ => cases congrArg Place.list h
    | localAttribute hi _ => exact hi.entry_steps (congrArg Place.steps h).symm
  | localElement hp _ =>
    cases ha with
    | globalAttribute _ => exact hp.particle_steps (congrArg Place.steps h)
    | localAttribute hi _ => exact hp.particle_ne_entry hi h

/-- A part is known by its place: it is the same global declaration, or the same part of the same
part. -/
theorem Belongs.unique {x y : Item} (hx : Belongs ix x) (hy : Belongs ix y)
    (h : x.SamePlace y) : x = y := by
  induction hx generalizing y with
  | globalType hg ht =>
    cases hy with
    | globalType hg' ht' =>
      obtain rfl := Index.found_eq_of_slot hg hg' (congrArg Place.slot h)
      obtain rfl := TypeDefinition.complex.inj (ht.symm.trans ht')
      rfl
    | typeInPlace hr _ => exact absurd (congrArg Place.steps h).symm hr.reference_steps
    | _ => exact h.elim
  | globalElement hg =>
    cases hy with
    | globalElement hg' => rw [Index.found_eq_of_slot hg hg' (congrArg Place.slot h)]
    | localElement hp _ => exact absurd (congrArg Place.steps h).symm hp.particle_steps
    | _ => exact h.elim
  | globalAttribute hg =>
    cases hy with
    | globalAttribute hg' => rw [Index.found_eq_of_slot hg hg' (congrArg Place.slot h)]
    | localAttribute he _ => exact absurd (congrArg Place.steps h).symm he.entry_steps
    | _ => exact h.elim
  | globalGroup hg =>
    cases hy with
    | globalGroup hg' => rw [Index.found_eq_of_slot hg hg' (congrArg Place.slot h)]
    | localGroup hp _ => exact absurd (congrArg Place.steps h).symm hp.particle_steps
    | _ => exact h.elim
  | globalAttributeGroup hg =>
    cases hy with
    | globalAttributeGroup hg' => rw [Index.found_eq_of_slot hg hg' (congrArg Place.slot h)]
    | attributes hd =>
      -- The attributes of a type stand where the type stands: among the types, or inside.
      rcases hd.type_cases with ⟨_, _, _, _, _, hp⟩ | ⟨r, hr, _, _, hp⟩
      · exact absurd (congrArg Place.list (h.trans hp)) nofun
      · exact absurd (congrArg Place.steps (h.trans hp.symm)).symm hr.reference_steps
    | _ => exact h.elim
  | content _ hp ih =>
    cases hy with
    | content hd' hp' =>
      cases ih hd' (Place.part_inj h).2
      cases hp.symm.trans hp'
      rfl
    | particle _ _ => cases (Place.part_inj h).1
    | _ => exact h.elim
  | attributes hd ih =>
    cases hy with
    | attributes hd' =>
      cases ih hd' h
      rfl
    | globalAttributeGroup hg =>
      rcases hd.type_cases with ⟨_, _, _, _, _, hp⟩ | ⟨r, hr, _, _, hp⟩
      · exact absurd (congrArg Place.list (h.symm.trans hp)) nofun
      · exact absurd (congrArg Place.steps (h.symm.trans hp.symm)).symm hr.reference_steps
    | _ => exact h.elim
  | simpleContent _ hr ih =>
    cases hy with
    | simpleContent hd' hr' =>
      cases ih hd' (Place.part_inj h).2
      cases hr.symm.trans hr'
      rfl
    | elementType _ _ => cases (Place.part_inj h).1
    | attributeType _ _ => cases (Place.part_inj h).1
    | _ => exact h.elim
  | localElement hp he ih =>
    cases hy with
    | globalElement _ => exact absurd (congrArg Place.steps h) hp.particle_steps
    | localElement hp' he' =>
      cases ih hp' h
      cases he.symm.trans he'
      rfl
    | _ => exact h.elim
  | localGroup hp hg ih =>
    cases hy with
    | globalGroup _ => exact absurd (congrArg Place.steps h) hp.particle_steps
    | localGroup hp' hg' =>
      cases ih hp' h
      cases hg.symm.trans hg'
      rfl
    | _ => exact h.elim
  | particle _ hp ih =>
    cases hy with
    | content _ _ => cases (Place.part_inj h).1
    | particle hg' hp' =>
      obtain ⟨hstep, hplace⟩ := Place.part_inj h
      cases hstep
      cases ih hg' hplace
      cases hp.symm.trans hp'
      rfl
    | _ => exact h.elim
  | entry _ hi ih =>
    cases hy with
    | entry hd' hi' =>
      obtain ⟨hstep, hplace⟩ := Place.part_inj h
      cases hstep
      cases ih hd' hplace
      cases hi.symm.trans hi'
      rfl
    | _ => exact h.elim
  | localAttribute he ha ih =>
    cases hy with
    | globalAttribute _ => exact absurd (congrArg Place.steps h) he.entry_steps
    | localAttribute he' ha' =>
      cases ih he' h
      cases ha.symm.trans ha'
      rfl
    | _ => exact h.elim
  | elementType hd hr ih =>
    cases hy with
    | simpleContent _ _ => cases (Place.part_inj h).1
    | elementType hd' hr' =>
      cases ih hd' (Place.part_inj h).2
      cases hr.symm.trans hr'
      rfl
    | attributeType hd' _ => exact absurd (Place.part_inj h).2 (hd.element_ne_attribute hd')
    | _ => exact h.elim
  | attributeType hd hr ih =>
    cases hy with
    | simpleContent _ _ => cases (Place.part_inj h).1
    | elementType hd' _ => exact absurd (Place.part_inj h).2.symm (hd'.element_ne_attribute hd)
    | attributeType hd' hr' =>
      cases ih hd' (Place.part_inj h).2
      cases hr.symm.trans hr'
      rfl
    | _ => exact h.elim
  | typeInPlace hr ht ih =>
    cases hy with
    | globalType _ _ => exact absurd (congrArg Place.steps h) hr.reference_steps
    | typeInPlace hr' ht' =>
      cases ih hr' h
      cases ht.symm.trans ht'
      rfl
    | _ => exact h.elim

end XmlTypes.Build
