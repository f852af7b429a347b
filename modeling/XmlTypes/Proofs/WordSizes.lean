import XmlTypes.Proofs.Spelling
import XmlTypes.Schema.Encode
/-!
# Counts that fit machine words

Occurrence bounds and digit counts are numbers of 32 bits, lengths are numbers of 64 bits. Where
that is so in a schema, its written form has only such integers in it, and so it is sound in every
room that is deep enough for it.
-/

namespace XmlTypes

/-! ## Plain values -/

namespace Json.Value

mutual

/-- How deep arrays and objects nest. -/
def depth : Value → Nat
  | array items => itemsDepth items + 1
  | object members => membersDepth members + 1
  | _ => 0

/-- How deep the deepest item nests. -/
def itemsDepth : List Value → Nat
  | [] => 0
  | v :: vs => Nat.max v.depth (itemsDepth vs)

/-- How deep the value of the deepest member nests. -/
def membersDepth : List (String × Value) → Nat
  | [] => 0
  | m :: ms => Nat.max m.2.depth (membersDepth ms)

end

theorem itemsDepth_le {n : Nat} {vs : List Value} :
    itemsDepth vs ≤ n ↔ ∀ v ∈ vs, v.depth ≤ n := by
  induction vs with
  | nil => simp [itemsDepth]
  | cons v vs ih =>
    rw [itemsDepth, Nat.max_le, ih, List.forall_mem_cons]

theorem membersDepth_le {n : Nat} {ms : Members} :
    membersDepth ms ≤ n ↔ ∀ m ∈ ms, m.2.depth ≤ n := by
  induction ms with
  | nil => simp [membersDepth]
  | cons m ms ih =>
    rw [membersDepth, Nat.max_le, ih, List.forall_mem_cons]

mutual

/-- Whether there is nothing ill-formed in the value, and all numbers are integers of 64 bits. -/
def isPlain : Value → Bool
  | array items => itemsPlain items
  | object members => membersPlain members
  | integer n => n.natAbs < Nat.pow 2 64
  | decimal .. => false
  | illFormed => false
  | _ => true

/-- Whether all items are plain. -/
def itemsPlain : List Value → Bool
  | [] => true
  | v :: vs => v.isPlain && itemsPlain vs

/-- Whether the values of all members are plain. -/
def membersPlain : List (String × Value) → Bool
  | [] => true
  | m :: ms => m.2.isPlain && membersPlain ms

end

theorem itemsPlain_iff (vs : List Value) :
    itemsPlain vs = true ↔ ∀ v ∈ vs, v.isPlain = true := by
  induction vs with
  | nil => simp [itemsPlain]
  | cons v vs ih => simp [itemsPlain, ih]

theorem membersPlain_iff (ms : Members) :
    membersPlain ms = true ↔ ∀ m ∈ ms, m.2.isPlain = true := by
  induction ms with
  | nil => simp [membersPlain]
  | cons m ms ih => simp [membersPlain, ih]

@[simp]
theorem isPlain_null : null.isPlain = true := rfl

@[simp]
theorem isPlain_bool (b : Bool) : (bool b).isPlain = true := rfl

@[simp]
theorem isPlain_string (s : String) : (string s).isPlain = true := rfl

@[simp]
theorem isPlain_object {ms : Members} :
    (object ms).isPlain = true ↔ ∀ m ∈ ms, m.2.isPlain = true :=
  membersPlain_iff ms

theorem isPlain_array {vs : List Value} :
    (array vs).isPlain = true ↔ ∀ v ∈ vs, v.isPlain = true :=
  itemsPlain_iff vs

theorem isPlain_array_map {α : Type} {f : α → Value} {xs : List α}
    (h : ∀ x ∈ xs, (f x).isPlain = true) : (array (xs.map f)).isPlain = true :=
  isPlain_array.2 (List.forall_mem_map.2 h)

@[simp]
theorem isPlain_stringOrNull (o : Option String) : (stringOrNull o).isPlain = true := by
  cases o <;> rfl

@[simp]
theorem isPlain_ofTexts (ss : List String) : (ofTexts ss).isPlain = true :=
  isPlain_array_map fun s _ => isPlain_string s

theorem isPlain_ofNat {n : Nat} (h : n < Nat.pow 2 64) : (ofNat n).isPlain = true :=
  decide_eq_true h

/-- An integer of 64 bits is in range. -/
theorem inRange_of_word {n : Nat} (h : n < Nat.pow 2 64) : inRange n 0 = true := by
  have hword : leadingWord n = (n, 0) := by
    rw [leadingWord, if_pos h]
  simp [inRange, hword]

mutual

/-- A plain value is sound in a room that is deep enough for it. -/
theorem isSound_of_isPlain : ∀ (v : Value) (n : Nat), v.isPlain = true → v.depth ≤ n →
    v.isSound n = true
  | .null, _, _, _ | .bool _, _, _, _ | .string _, _, _, _ => by simp [isSound]
  | .integer _, _, h, _ => inRange_of_word (of_decide_eq_true h)
  | .decimal .., _, h, _ | .illFormed, _, h, _ => by cases h
  -- There is no room for an array or an object where no level is left.
  | .array vs, 0, _, hd | .object ms, 0, _, hd => by cases hd
  | .array vs, n + 1, h, hd => itemsSound_of_itemsPlain vs n h (Nat.le_of_succ_le_succ hd)
  | .object ms, n + 1, h, hd => membersSound_of_membersPlain ms n h (Nat.le_of_succ_le_succ hd)

theorem itemsSound_of_itemsPlain : ∀ (vs : List Value) (n : Nat), itemsPlain vs = true →
    itemsDepth vs ≤ n → itemsSound n vs = true
  | [], _, _, _ => by simp [itemsSound]
  | v :: vs, n, h, hd => by
    rw [itemsPlain, Bool.and_eq_true] at h
    rw [itemsDepth, Nat.max_le] at hd
    rw [itemsSound, isSound_of_isPlain v n h.1 hd.1, itemsSound_of_itemsPlain vs n h.2 hd.2]
    rfl

theorem membersSound_of_membersPlain : ∀ (ms : List (String × Value)) (n : Nat),
    membersPlain ms = true → membersDepth ms ≤ n → membersSound n ms = true
  | [], _, _, _ => by simp [membersSound]
  | (k, v) :: ms, n, h, hd => by
    rw [membersPlain, Bool.and_eq_true] at h
    rw [membersDepth, Nat.max_le] at hd
    rw [membersSound, isSound_of_isPlain v n h.1 hd.1,
      membersSound_of_membersPlain ms n h.2 hd.2]
    rfl

end

mutual

theorem isWellFormed_of_isPlain : ∀ v : Value, v.isPlain = true → v.isWellFormed = true
  | .null, _ | .bool _, _ | .string _, _ | .integer _, _ => by simp [isWellFormed]
  | .decimal .., h | .illFormed, h => by cases h
  | .array vs, h => itemsWellFormed_of_itemsPlain vs h
  | .object ms, h => membersWellFormed_of_membersPlain ms h

theorem itemsWellFormed_of_itemsPlain : ∀ vs : List Value, itemsPlain vs = true →
    itemsWellFormed vs = true
  | [], _ => by simp
  | v :: vs, h => by
    rw [itemsPlain, Bool.and_eq_true] at h
    rw [itemsWellFormed, isWellFormed_of_isPlain v h.1, itemsWellFormed_of_itemsPlain vs h.2]
    rfl

theorem membersWellFormed_of_membersPlain : ∀ ms : List (String × Value),
    membersPlain ms = true → membersWellFormed ms = true
  | [], _ => by simp
  | (k, v) :: ms, h => by
    rw [membersPlain, Bool.and_eq_true] at h
    rw [membersWellFormed, isWellFormed_of_isPlain v h.1,
      membersWellFormed_of_membersPlain ms h.2]
    rfl

end

end Json.Value

open Json (Value Members)

/-! ## Counts in a schema -/

namespace Schema

/-- Whether both bounds are numbers of 32 bits. -/
def Occurs.fitsWords (o : Occurs) : Bool :=
  o.min < Nat.pow 2 32 && o.max.all (· < Nat.pow 2 32)

/-- Whether a count is a number of the size that is meant for it. -/
def Facet.fitsWords : Facet → Bool
  | .length n | .minLength n | .maxLength n => n < Nat.pow 2 64
  | .totalDigits n | .fractionDigits n => n < Nat.pow 2 32
  | _ => true

mutual

/-- Whether all counts inside fit machine words. -/
def TypeRef.fitsWords : TypeRef → Bool
  | .named _ => true
  | .inline definition => definition.fitsWords

/-- Whether that is so in all of them. -/
def TypeRef.allFitWords : List TypeRef → Bool
  | [] => true
  | r :: rs => r.fitsWords && TypeRef.allFitWords rs

/-- Whether that is so in the one that is there. -/
def TypeRef.fitsWords? : Option TypeRef → Bool
  | none => true
  | some r => r.fitsWords

/-- Whether all counts inside fit machine words. -/
def TypeDefinition.fitsWords : TypeDefinition → Bool
  | .complex type => type.fitsWords
  | .simple type => type.fitsWords

/-- Whether all counts inside fit machine words. -/
def ComplexType.fitsWords : ComplexType → Bool
  | ⟨_, _, _, _, _, particle, attributes, _, simpleContent⟩ =>
    Particle.fitsWords? particle && AttributeItem.allFitWords attributes
      && TypeRef.fitsWords? simpleContent

/-- Whether all counts inside fit machine words. -/
def AttributeItem.fitsWords : AttributeItem → Bool
  | .attribute declaration => declaration.fitsWords
  | .ref _ => true
  | .group _ => true

/-- Whether that is so in all of them. -/
def AttributeItem.allFitWords : List AttributeItem → Bool
  | [] => true
  | i :: is => i.fitsWords && AttributeItem.allFitWords is

/-- Whether all counts inside fit machine words. -/
def AttributeDecl.fitsWords : AttributeDecl → Bool
  | ⟨_, typeRef, _, _, _, _, _⟩ => TypeRef.fitsWords? typeRef

/-- Whether all counts inside fit machine words. -/
def ElementDecl.fitsWords : ElementDecl → Bool
  | ⟨_, typeRef, _, _, _, _, _, _, _⟩ => TypeRef.fitsWords? typeRef

/-- Whether all counts inside fit machine words. -/
def Particle.fitsWords : Particle → Bool
  | ⟨term, occurs⟩ => term.fitsWords && occurs.fitsWords

/-- Whether that is so in all of them. -/
def Particle.allFitWords : List Particle → Bool
  | [] => true
  | p :: ps => p.fitsWords && Particle.allFitWords ps

/-- Whether that is so in the one that is there. -/
def Particle.fitsWords? : Option Particle → Bool
  | none => true
  | some p => p.fitsWords

/-- Whether all counts inside fit machine words. -/
def Term.fitsWords : Term → Bool
  | .element declaration => declaration.fitsWords
  | .elementRef _ => true
  | .any _ => true
  | .groupRef _ => true
  | .group group => group.fitsWords

/-- Whether all counts inside fit machine words. -/
def ModelGroup.fitsWords : ModelGroup → Bool
  | ⟨_, particles⟩ => Particle.allFitWords particles

/-- Whether all counts inside fit machine words. -/
def SimpleType.fitsWords : SimpleType → Bool
  | ⟨_, _, content⟩ => content.fitsWords

/-- Whether all counts inside fit machine words. -/
def SimpleContent.fitsWords : SimpleContent → Bool
  | .restriction base facets => base.fitsWords && facets.all Facet.fitsWords
  | .list item => item.fitsWords
  | .union members => TypeRef.allFitWords members

end

/-- Whether all counts in the document fit machine words. -/
def Document.fitsWords (d : Document) : Bool :=
  d.types.all TypeDefinition.fitsWords && d.elements.all ElementDecl.fitsWords
    && d.groups.all (·.group.fitsWords)
    && d.attributeGroups.all (AttributeItem.allFitWords ·.attributes)
    && d.attributes.all AttributeDecl.fitsWords

/-- Whether all counts in the schema fit machine words. -/
def SchemaSet.fitsWords (s : SchemaSet) : Bool := s.documents.all Document.fitsWords

end Schema

/-! ## Written forms are plain -/

@[simp]
theorem QName.isPlain_encode (q : QName) : q.encode.isPlain = true := by
  unfold QName.encode
  cases q.uri <;> simp

@[simp]
theorem QName.isPlain_encode? (q : Option QName) : (QName.encode? q).isPlain = true := by
  cases q <;> simp [QName.encode?]

namespace Schema

theorem Occurs.isPlain_encode {o : Occurs} (h : o.fitsWords = true) : o.encode.isPlain = true := by
  have hpow : Nat.pow 2 32 ≤ Nat.pow 2 64 := by decide
  simp only [fitsWords, Bool.and_eq_true, decide_eq_true_eq] at h
  obtain ⟨hmin, hmax⟩ := h
  have hminPlain := Value.isPlain_ofNat (Nat.lt_of_lt_of_le hmin hpow)
  cases ho : o.max with
  | none => simp [encode, hminPlain, ho, Value.natOrNull]
  | some n =>
    rw [ho] at hmax
    have hmaxPlain := Value.isPlain_ofNat (Nat.lt_of_lt_of_le (of_decide_eq_true hmax) hpow)
    simp [encode, hminPlain, ho, Value.natOrNull, hmaxPlain]

@[simp]
theorem Form.isPlain_encode (f : Form) : f.encode.isPlain = true := Value.isPlain_string _

@[simp]
theorem Compositor.isPlain_encode (c : Compositor) : c.encode.isPlain = true :=
  Value.isPlain_string _

@[simp]
theorem AttributeUse.isPlain_encode (u : AttributeUse) : u.encode.isPlain = true :=
  Value.isPlain_string _

@[simp]
theorem ProcessContents.isPlain_encode (p : ProcessContents) : p.encode.isPlain = true := by
  cases p <;> exact Value.isPlain_string _

@[simp]
theorem WhiteSpace.isPlain_encode (w : WhiteSpace) : w.encode.isPlain = true := by
  cases w <;> exact Value.isPlain_string _

@[simp]
theorem isPlain_ofKind (kind : String) (ms : Members) :
    (ofKind kind ms).isPlain = true ↔ ∀ m ∈ ms, m.2.isPlain = true := by
  simp [ofKind]

theorem Facet.isPlain_encode {f : Facet} (h : f.fitsWords = true) : f.encode.isPlain = true := by
  have hpow : Nat.pow 2 32 ≤ Nat.pow 2 64 := by decide
  cases f with
  | length n | minLength n | maxLength n =>
    simpa [encode] using Value.isPlain_ofNat (of_decide_eq_true h)
  | totalDigits n | fractionDigits n =>
    simpa [encode] using Value.isPlain_ofNat (Nat.lt_of_lt_of_le (of_decide_eq_true h) hpow)
  | _ => simp [encode]

theorem Wildcard.isPlain_members (w : Wildcard) : ∀ m ∈ w.members, m.2.isPlain = true := by
  simp [members]

@[simp]
theorem Wildcard.isPlain_encode? (w : Option Wildcard) : (Wildcard.encode? w).isPlain = true := by
  cases w with
  | none => simp [encode?]
  | some w => simpa [encode?] using w.isPlain_members

@[simp]
theorem Derivation.isPlain_encode? (d : Option Derivation) :
    (Derivation.encode? d).isPlain = true := by
  cases d <;> simp [encode?]

mutual

theorem ElementDecl.isPlain_members : ∀ e : ElementDecl, e.fitsWords = true →
    ∀ m ∈ e.members, m.2.isPlain = true
  | ⟨_, typeRef, _, _, _, _, _, _, _⟩, h => by
    simp [ElementDecl.members, TypeRef.isPlain_encode? typeRef h]

theorem AttributeDecl.isPlain_members : ∀ a : AttributeDecl, a.fitsWords = true →
    ∀ m ∈ a.members, m.2.isPlain = true
  | ⟨_, typeRef, _, _, _, _, _⟩, h => by
    simp [AttributeDecl.members, TypeRef.isPlain_encode? typeRef h]

theorem TypeRef.isPlain_encode? : ∀ r : Option TypeRef, TypeRef.fitsWords? r = true →
    (TypeRef.encode? r).isPlain = true
  | none, _ => Value.isPlain_null
  | some r, h => TypeRef.isPlain_encode r h

theorem TypeRef.isPlain_encode : ∀ r : TypeRef, r.fitsWords = true → r.encode.isPlain = true
  | .named name, _ => by simp [TypeRef.encode]
  | .inline definition, h => by
    simp [TypeRef.encode, TypeDefinition.isPlain_encode definition h]

theorem TypeRef.isPlain_encodeAll : ∀ rs : List TypeRef, TypeRef.allFitWords rs = true →
    (Value.array (TypeRef.encodeAll rs)).isPlain = true
  | [], _ => Value.isPlain_array.2 nofun
  | r :: rs, h => by
    rw [TypeRef.allFitWords, Bool.and_eq_true] at h
    have hall := Value.isPlain_array.1 (TypeRef.isPlain_encodeAll rs h.2)
    exact Value.isPlain_array.2 (List.forall_mem_cons.2 ⟨TypeRef.isPlain_encode r h.1, hall⟩)

theorem TypeDefinition.isPlain_encode : ∀ d : TypeDefinition, d.fitsWords = true →
    d.encode.isPlain = true
  | .complex type, h => (isPlain_ofKind _ _).2 (ComplexType.isPlain_members type h)
  | .simple type, h => (isPlain_ofKind _ _).2 (SimpleType.isPlain_members type h)

theorem ComplexType.isPlain_members : ∀ t : ComplexType, t.fitsWords = true →
    ∀ m ∈ t.members, m.2.isPlain = true
  | ⟨_, _, _, _, _, particle, attributes, _, simpleContent⟩, h => by
    simp only [ComplexType.fitsWords, Bool.and_eq_true] at h
    simp [ComplexType.members, Particle.isPlain_encode? particle h.1.1,
      AttributeItem.isPlain_encodeAll attributes h.1.2, TypeRef.isPlain_encode? simpleContent h.2]

theorem AttributeItem.isPlain_encode : ∀ i : AttributeItem, i.fitsWords = true →
    i.encode.isPlain = true
  | .attribute declaration, h =>
    (isPlain_ofKind _ _).2 (AttributeDecl.isPlain_members declaration h)
  | .ref ⟨none, _⟩, _ | .ref ⟨some _, _⟩, _ | .group ⟨none, _⟩, _ | .group ⟨some _, _⟩, _ => by
    simp [AttributeItem.encode]

theorem AttributeItem.isPlain_encodeAll : ∀ is : List AttributeItem,
    AttributeItem.allFitWords is = true → (Value.array (AttributeItem.encodeAll is)).isPlain = true
  | [], _ => Value.isPlain_array.2 nofun
  | i :: is, h => by
    rw [AttributeItem.allFitWords, Bool.and_eq_true] at h
    have hall := Value.isPlain_array.1 (AttributeItem.isPlain_encodeAll is h.2)
    exact Value.isPlain_array.2 (List.forall_mem_cons.2 ⟨AttributeItem.isPlain_encode i h.1, hall⟩)

theorem Particle.isPlain_encode : ∀ p : Particle, p.fitsWords = true → p.encode.isPlain = true
  | ⟨term, occurs⟩, h => by
    rw [Particle.fitsWords, Bool.and_eq_true] at h
    simp [Particle.encode, Term.isPlain_encode term h.1, Occurs.isPlain_encode h.2]

theorem Particle.isPlain_encode? : ∀ p : Option Particle, Particle.fitsWords? p = true →
    (Particle.encode? p).isPlain = true
  | none, _ => Value.isPlain_null
  | some p, h => Particle.isPlain_encode p h

theorem Particle.isPlain_encodeAll : ∀ ps : List Particle, Particle.allFitWords ps = true →
    (Value.array (Particle.encodeAll ps)).isPlain = true
  | [], _ => Value.isPlain_array.2 nofun
  | p :: ps, h => by
    rw [Particle.allFitWords, Bool.and_eq_true] at h
    have hall := Value.isPlain_array.1 (Particle.isPlain_encodeAll ps h.2)
    exact Value.isPlain_array.2 (List.forall_mem_cons.2 ⟨Particle.isPlain_encode p h.1, hall⟩)

theorem Term.isPlain_encode : ∀ t : Term, t.fitsWords = true → t.encode.isPlain = true
  | .element declaration, h => (isPlain_ofKind _ _).2 (ElementDecl.isPlain_members declaration h)
  | .any wildcard, _ => (isPlain_ofKind _ _).2 wildcard.isPlain_members
  | .group group, h => (isPlain_ofKind _ _).2 (ModelGroup.isPlain_members group h)
  | .elementRef ⟨none, _⟩, _ | .elementRef ⟨some _, _⟩, _
  | .groupRef ⟨none, _⟩, _ | .groupRef ⟨some _, _⟩, _ => by
    simp [Term.encode]

theorem ModelGroup.isPlain_members : ∀ g : ModelGroup, g.fitsWords = true →
    ∀ m ∈ g.members, m.2.isPlain = true
  | ⟨_, particles⟩, h => by
    simp [ModelGroup.members, Particle.isPlain_encodeAll particles h]

theorem SimpleType.isPlain_members : ∀ t : SimpleType, t.fitsWords = true →
    ∀ m ∈ t.members, m.2.isPlain = true
  | ⟨_, _, content⟩, h => by
    simp [SimpleType.members, SimpleContent.isPlain_encode content h]

theorem SimpleContent.isPlain_encode : ∀ c : SimpleContent, c.fitsWords = true →
    c.encode.isPlain = true
  | .restriction base facets, h => by
    simp only [SimpleContent.fitsWords, Bool.and_eq_true, List.all_eq_true] at h
    have hfacets : (Value.array (facets.map Facet.encode)).isPlain = true := by
      exact Value.isPlain_array_map fun f hf => Facet.isPlain_encode (h.2 f hf)
    simp [SimpleContent.encode, TypeRef.isPlain_encode base h.1, hfacets]
  | .list item, h => by simp [SimpleContent.encode, TypeRef.isPlain_encode item h]
  | .union members, h => by simp [SimpleContent.encode, TypeRef.isPlain_encodeAll members h]

end

theorem GroupDef.isPlain_encode {g : GroupDef} (h : g.group.fitsWords = true) :
    g.encode.isPlain = true := by
  have hgroup : g.group.encode.isPlain = true := Value.isPlain_object.2 (g.group.isPlain_members h)
  simp [encode, hgroup]

theorem AttributeGroupDef.isPlain_encode {g : AttributeGroupDef}
    (h : AttributeItem.allFitWords g.attributes = true) : g.encode.isPlain = true := by
  have hattributes := AttributeItem.isPlain_encodeAll g.attributes h
  exact Value.isPlain_object.2 (by simp [hattributes])

/-- The written form of a document has only integers of 64 bits in it. -/
theorem Document.isPlain_encode {d : Document} (h : d.fitsWords = true) :
    d.encode.isPlain = true := by
  simp only [fitsWords, Bool.and_eq_true, List.all_eq_true] at h
  obtain ⟨⟨⟨⟨htypes, helements⟩, hgroups⟩, hattributeGroups⟩, hattributes⟩ := h
  have h₁ := Value.isPlain_array_map fun t ht => TypeDefinition.isPlain_encode t (htypes t ht)
  have h₂ := Value.isPlain_array_map (f := ElementDecl.encode) fun e he =>
    Value.isPlain_object.2 (e.isPlain_members (helements e he))
  have h₃ := Value.isPlain_array_map fun g hg => GroupDef.isPlain_encode (hgroups g hg)
  have h₄ := Value.isPlain_array_map fun g hg => AttributeGroupDef.isPlain_encode (hattributeGroups g hg)
  have h₅ := Value.isPlain_array_map (f := AttributeDecl.encode) fun a ha =>
    Value.isPlain_object.2 (a.isPlain_members (hattributes a ha))
  exact Value.isPlain_object.2 (by simp [h₁, h₂, h₃, h₄, h₅])

theorem SchemaSet.isPlain_encode {s : SchemaSet} (h : s.fitsWords = true) :
    s.encode.isPlain = true := by
  have hdocuments := Value.isPlain_array_map fun d hd =>
    Document.isPlain_encode (List.all_eq_true.1 h d hd)
  exact Value.isPlain_object.2 (by simp [hdocuments])

end Schema

end XmlTypes
