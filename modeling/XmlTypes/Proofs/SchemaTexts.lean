import XmlTypes.Proofs.Shapes
import XmlTypes.Proofs.WordSizes
/-!
# Schemas and configurations are read back

What is written of a schema is read back as the schema, whatever its strings are and however types,
particles and groups contain one another, as long as its counts fit machine words and its text
nests no deeper than a reader looks. The readers for what nests are built level by level, so the
proof goes by levels as well: the readers of one level invert the writers (`Inverts`) if those of
the next deeper level do.
-/

namespace XmlTypes

open Json (Value Shape Room Members Record written textField)

/-! ## Depths -/

namespace Json.Value

@[simp]
theorem depth_object_le {n : Nat} {ms : Members} :
    (object ms).depth ≤ n + 1 ↔ ∀ m ∈ ms, m.2.depth ≤ n := by
  rw [depth, Nat.add_le_add_iff_right, membersDepth_le]

@[simp]
theorem depth_array_le {n : Nat} {vs : List Value} :
    (array vs).depth ≤ n + 1 ↔ ∀ v ∈ vs, v.depth ≤ n := by
  rw [depth, Nat.add_le_add_iff_right, itemsDepth_le]

@[simp]
theorem depth_string (s : String) : (string s).depth = 0 := by simp [depth]

@[simp]
theorem depth_object_ne_zero (ms : Members) : (object ms).depth ≠ 0 := Nat.succ_ne_zero _

@[simp]
theorem depth_array_ne_zero (vs : List Value) : (array vs).depth ≠ 0 := Nat.succ_ne_zero _

theorem depth_ofTexts_le {n : Nat} {ss : List String} (h : (ofTexts ss).depth ≤ n) :
    ∃ m, n = m + 1 := by
  cases n with
  | zero => simp [ofTexts] at h
  | succ m => exact ⟨m, rfl⟩

end Json.Value

/-! ## Names, words and bounds -/

/-- The fields of a name. -/
def QName.fields (q : QName) : List (String × Option Value) :=
  [("namespace", textField q.uri), ("name", some (.string q.name))]

theorem QName.encode_eq (q : QName) : q.encode = .object (written q.fields) := by
  obtain ⟨_ | uri, name⟩ := q <;> rfl

theorem QName.read_fields (q : QName) (room : Room) :
    QName.record.read room (written q.fields) = some q := by
  have hkeys : (q.fields.map (·.1)).Nodup := by simp [fields]
  simp only [record, Members.required_written hkeys, Members.withDefault_written hkeys,
    Members.optional]
  simp [fields, List.lookup_cons]

variable {n : Nat} {held : Bool}

@[simp]
theorem QName.shape_encode (q : QName) : QName.shape ⟨n + 1, held⟩ q.encode = some q := by
  rw [encode_eq, shape, Shape.object_object, read_fields]

theorem QName.encode?_eq (q : Option QName) : QName.encode? q = q.elim .null QName.encode := by
  cases q <;> rfl

@[simp]
theorem QName.orNull_shape_encode? (q : Option QName) :
    QName.shape.orNull ⟨n + 1, held⟩ (QName.encode? q) = some q := by
  rw [encode?_eq]
  exact Shape.orNull_elim (fun q => by simp [encode_eq]) fun q _ => q.shape_encode

namespace Schema

@[simp]
theorem Form.shape_encode (room : Room) (f : Form) : Form.shape room f.encode = some f := by
  cases f <;> rfl

@[simp]
theorem Compositor.shape_encode (room : Room) (c : Compositor) :
    Compositor.shape room c.encode = some c := by
  cases c <;> rfl

@[simp]
theorem AttributeUse.shape_encode (room : Room) (u : AttributeUse) :
    AttributeUse.shape room u.encode = some u := by
  cases u <;> rfl

@[simp]
theorem ProcessContents.shape_encode (room : Room) (p : ProcessContents) :
    ProcessContents.shape room p.encode = some p := by
  cases p <;> rfl

@[simp]
theorem WhiteSpace.shape_encode (room : Room) (w : WhiteSpace) :
    WhiteSpace.shape room w.encode = some w := by
  cases w <;> rfl

@[simp]
theorem DerivationMethod.shape_toText (room : Room) (m : DerivationMethod) :
    DerivationMethod.shape room (.string m.toText) = some m := by
  cases m <;> rfl

/-- Bounds are read back; null stands for no upper bound. -/
theorem Occurs.shape_encode {o : Occurs} (h : o.fitsWords = true) :
    Occurs.shape ⟨n + 1, held⟩ o.encode = some o := by
  simp only [fitsWords, Bool.and_eq_true, decide_eq_true_eq] at h
  have hkeys : ([("min", Value.ofNat o.min), ("max", Value.natOrNull o.max)].map (·.1)).Nodup := by
    simp
  have hmin := Shape.nat32_ofNat h.1
  have hmax (room : Room) : Shape.nat32.orNull room (.natOrNull o.max) = some o.max := by
    cases ho : o.max with
    | none => rfl
    | some k =>
      have hk := h.2
      rw [ho] at hk
      rw [Value.natOrNull, Shape.orNull_of_ne_null (by simp [Value.ofNat]),
        Shape.nat32_ofNat (of_decide_eq_true hk), Option.map_some]
  rw [encode, shape, Shape.object_object]
  simp only [record, Members.withDefault_of_nodup hkeys]
  -- A step by definition would compare the reader of counts with its unfolding, bound and all.
  simp -implicitDefEqProofs [List.lookup_cons, hmin, hmax]

theorem Occurs.depth_encode (o : Occurs) : o.encode.depth = 1 := by
  obtain ⟨min, _ | max⟩ := o <;> rfl

/-! ## Tagged objects -/

theorem depth_ofKind_le {kind : String} {ms : Members} :
    (ofKind kind ms).depth ≤ n + 1 ↔ ∀ m ∈ ms, m.2.depth ≤ n := by
  simp [ofKind]

/-- An object of a kind is read as the alternative that its kind names. -/
theorem tagged_ofKind {α : Type} {alternatives : List (String × Record α)} {r : Record α}
    {kind : String} {ms : Members} {a : α}
    (hkind : (alternatives.find? fun x => x.1 == kind).map (·.2) = some r)
    (hkeys : "kind" ∉ ms.map (·.1)) (hplain : (ofKind kind ms).isPlain = true)
    (hdepth : (ofKind kind ms).depth ≤ n + 1) (hread : r.read ⟨n, true⟩ ms = some a) :
    Shape.tagged alternatives ⟨n + 1, held⟩ (ofKind kind ms) = some a := by
  have hsound : (ofKind kind ms).isSound (n + 1) = true :=
    Value.isSound_of_isPlain _ _ hplain hdepth
  -- The kind is split off, and the other members are left as they were written.
  have htag : Members.only? (("kind", .string kind) :: ms) Json.tagKey =
      some (some (.string kind)) := by
    simp [Members.only?, Json.tagKey, Members.filter_of_notMem hkeys]
  have hrest : (("kind", Value.string kind) :: ms).filter (fun m => m.1 != Json.tagKey) = ms := by
    rw [List.filter_cons_of_neg (by simp [Json.tagKey])]
    refine List.filter_eq_self.2 fun m hm => bne_iff_ne.2 fun heq => hkeys ?_
    exact List.mem_map.2 ⟨m, hm, heq⟩
  have hsplit : Shape.splitTag? (ofKind kind ms) = some (.string kind, .object ms) := by
    simp [Shape.splitTag?, ofKind, htag, hrest]
  simp [Shape.tagged, hsound, Shape.enter?, hsplit, Shape.tag?, hkind, Json.membersOf?, hread]

/-! ## Facets, wildcards and derivations -/

theorem Facet.withValue_read {α : Type} {s : Shape α} {room : Room} {v : Value} {a : α}
    (make : α → Facet) (h : s room v = some a) :
    (withValue s make).read room [("value", v)] = some (make a) := by
  have hvalue : Members.required [("value", v)] room "value" s = some a := by
    rw [Members.required_of_nodup (by simp), List.lookup_cons_self, Option.bind_some, h]
  simp only [withValue, hvalue, Option.map_some]

theorem Facet.literalRecord_read (s : String) (documentation : List String) (deprecated : Bool) :
    literalRecord.read ⟨n + 1, held⟩
      [("value", .string s), ("documentation", .ofTexts documentation),
       ("deprecated", .bool deprecated)] = some (.enumeration s documentation deprecated) := by
  have hkeys : ([("value", Value.string s), ("documentation", .ofTexts documentation),
      ("deprecated", .bool deprecated)].map (·.1)).Nodup := by
    simp
  simp only [literalRecord, Members.required_of_nodup hkeys, Members.withDefault_of_nodup hkeys,
    Members.list]
  simp [List.lookup_cons]

/-- A facet is read back by the reader of its kind. -/
theorem Facet.shape_encode {f : Facet} (h : f.fitsWords = true) (hdepth : f.encode.depth ≤ n + 1) :
    Facet.shape ⟨n + 1, held⟩ f.encode = some f := by
  have hplain := Facet.isPlain_encode h
  cases f with
  | length k | minLength k | maxLength k =>
    exact tagged_ofKind rfl (by simp) hplain hdepth
      (withValue_read _ (Shape.nat64_ofNat (of_decide_eq_true h) _))
  | totalDigits k | fractionDigits k =>
    exact tagged_ofKind rfl (by simp) hplain hdepth
      (withValue_read _ (Shape.nat32_ofNat (of_decide_eq_true h) _))
  | pattern s | minInclusive s | minExclusive s | maxInclusive s | maxExclusive s =>
    exact tagged_ofKind rfl (by simp) hplain hdepth (withValue_read _ (Shape.text_string _ s))
  | whiteSpace w =>
    exact tagged_ofKind rfl (by simp) hplain hdepth (withValue_read _ (w.shape_encode _))
  | enumeration s documentation deprecated =>
    obtain ⟨m, rfl⟩ := Value.depth_ofTexts_le
      ((depth_ofKind_le.1 hdepth) ("documentation", .ofTexts documentation) (by simp))
    exact tagged_ofKind rfl (by simp) hplain hdepth (literalRecord_read s documentation deprecated)

theorem Wildcard.read_members (w : Wildcard) (hdepth : ∀ m ∈ w.members, m.2.depth ≤ n) :
    Wildcard.record.read ⟨n, held⟩ w.members = some w := by
  obtain ⟨m, rfl⟩ := Value.depth_ofTexts_le
    (hdepth ("documentation", .ofTexts w.documentation) (by simp [members]))
  have hkeys : (w.members.map (·.1)).Nodup := by simp [members]
  simp only [record, Members.withDefault_of_nodup hkeys, Members.optional, Members.list]
  simp [members, List.lookup_cons]

theorem Wildcard.orNull_shape_encode? {w : Option Wildcard}
    (hdepth : (Wildcard.encode? w).depth ≤ n) :
    Wildcard.shape.orNull ⟨n, held⟩ (Wildcard.encode? w) = some w := by
  cases w with
  | none => rfl
  | some w =>
    cases n with
    | zero => simp [encode?] at hdepth
    | succ n =>
      rw [encode?, Shape.orNull_of_ne_null (by simp), shape, Shape.object_object,
        read_members w (Value.depth_object_le.1 hdepth), Option.map_some]

theorem Derivation.orNull_shape_encode? {d : Option Derivation}
    (hdepth : (Derivation.encode? d).depth ≤ n) :
    Derivation.shape.orNull ⟨n, held⟩ (Derivation.encode? d) = some d := by
  cases d with
  | none => rfl
  | some d =>
    have hkeys : ([("base", d.base.encode), ("method", Value.string d.method.toText)].map
      (·.1)).Nodup := by simp
    cases n with
    | zero => simp [encode?] at hdepth
    | succ n =>
      cases n with
      | zero => simp [encode?, QName.encode] at hdepth
      | succ n =>
        rw [encode?, Shape.orNull_of_ne_null (by simp), shape, Shape.object_object]
        simp only [record, Members.required_of_nodup hkeys]
        simp [List.lookup_cons]

/-! ## What nests -/

/-- The readers invert the writers on all that fits words and nests at most `n` levels deep. -/
structure Readers.Inverts (r : Readers) (n : Nat) : Prop where
  typeRef (t : TypeRef) : t.fitsWords = true → t.encode.depth ≤ n → r.typeRef t.encode = some t
  typeRefs (ts : List TypeRef) : TypeRef.allFitWords ts = true →
    (Value.array (TypeRef.encodeAll ts)).depth ≤ n →
    r.typeRefs (.array (TypeRef.encodeAll ts)) = some ts
  typeDefinition (d : TypeDefinition) : d.fitsWords = true → d.encode.depth ≤ n →
    r.typeDefinition d.encode = some d
  particle (p : Particle) : p.fitsWords = true → p.encode.depth ≤ n →
    r.particle p.encode = some p
  particles (ps : List Particle) : Particle.allFitWords ps = true →
    (Value.array (Particle.encodeAll ps)).depth ≤ n →
    r.particles (.array (Particle.encodeAll ps)) = some ps
  term (t : Term) : t.fitsWords = true → t.encode.depth ≤ n → r.term t.encode = some t
  attributeItems (is : List AttributeItem) : AttributeItem.allFitWords is = true →
    (Value.array (AttributeItem.encodeAll is)).depth ≤ n →
    r.attributeItems (.array (AttributeItem.encodeAll is)) = some is
  attributeItem (i : AttributeItem) : i.fitsWords = true → i.encode.depth ≤ n →
    r.attributeItem i.encode = some i
  simpleContent (c : SimpleContent) : c.fitsWords = true → c.encode.depth ≤ n →
    r.simpleContent c.encode = some c

theorem TypeRef.encode_ne_null (t : TypeRef) : t.encode ≠ .null := by
  cases t <;> simp [TypeRef.encode]

theorem Particle.encode_ne_null (p : Particle) : p.encode ≠ .null := by
  cases p; simp [Particle.encode]

theorem Readers.asShape_apply {α : Type} (f : Value → Option α) (room : Room) (v : Value) :
    asShape f room v = f v := rfl

section members

variable {r : Readers} (h : r.Inverts n)

include h

theorem Readers.Inverts.typeRef? {t : Option TypeRef} (hfits : TypeRef.fitsWords? t = true)
    (hdepth : (TypeRef.encode? t).depth ≤ n) (room : Room) :
    (asShape r.typeRef).orNull room (TypeRef.encode? t) = some t := by
  cases t with
  | none => rfl
  | some t =>
    rw [TypeRef.encode?, Shape.orNull_of_ne_null t.encode_ne_null, asShape,
      h.typeRef t hfits hdepth, Option.map_some]

theorem Readers.Inverts.particle? {p : Option Particle} (hfits : Particle.fitsWords? p = true)
    (hdepth : (Particle.encode? p).depth ≤ n) (room : Room) :
    (asShape r.particle).orNull room (Particle.encode? p) = some p := by
  cases p with
  | none => rfl
  | some p =>
    rw [Particle.encode?, Shape.orNull_of_ne_null p.encode_ne_null, asShape,
      h.particle p hfits hdepth, Option.map_some]

theorem ElementDecl.read_members {e : ElementDecl} (hfits : e.fitsWords = true)
    (hdepth : ∀ m ∈ e.members, m.2.depth ≤ n) :
    (ElementDecl.record r).read ⟨n, held⟩ e.members = some e := by
  obtain ⟨name, typeRef, nillable, default, fixed, form, isAbstract, group, documentation⟩ := e
  have hkeys : ((members ⟨name, typeRef, nillable, default, fixed, form, isAbstract, group,
    documentation⟩).map (·.1)).Nodup := by simp [members]
  have htype := h.typeRef? hfits (hdepth ("type", TypeRef.encode? typeRef) (by simp [members]))
  obtain ⟨m, rfl⟩ := Value.depth_ofTexts_le
    (hdepth ("documentation", .ofTexts documentation) (by simp [members]))
  simp only [record, Members.required_of_nodup hkeys, Members.withDefault_of_nodup hkeys,
    Members.optional, Members.list]
  simp [members, List.lookup_cons, htype]

theorem AttributeDecl.read_members {a : AttributeDecl} (hfits : a.fitsWords = true)
    (hdepth : ∀ m ∈ a.members, m.2.depth ≤ n) :
    (AttributeDecl.record r).read ⟨n, held⟩ a.members = some a := by
  obtain ⟨name, typeRef, use, default, fixed, form, documentation⟩ := a
  have hkeys : ((members ⟨name, typeRef, use, default, fixed, form, documentation⟩).map
    (·.1)).Nodup := by simp [members]
  have htype := h.typeRef? hfits (hdepth ("type", TypeRef.encode? typeRef) (by simp [members]))
  obtain ⟨m, rfl⟩ := Value.depth_ofTexts_le
    (hdepth ("documentation", .ofTexts documentation) (by simp [members]))
  simp only [record, Members.required_of_nodup hkeys, Members.withDefault_of_nodup hkeys,
    Members.optional, Members.list]
  simp [members, List.lookup_cons, htype]

theorem ComplexType.read_members {t : ComplexType} (hfits : t.fitsWords = true)
    (hdepth : ∀ m ∈ t.members, m.2.depth ≤ n) :
    (ComplexType.record r).read ⟨n, held⟩ t.members = some t := by
  obtain ⟨name, documentation, isAbstract, mixed, derivation, particle, attributes, anyAttribute,
    simpleContent⟩ := t
  have hkeys : ((members ⟨name, documentation, isAbstract, mixed, derivation, particle, attributes,
    anyAttribute, simpleContent⟩).map (·.1)).Nodup := by simp [members]
  simp only [fitsWords, Bool.and_eq_true] at hfits
  simp only [members, List.forall_mem_cons] at hdepth
  obtain ⟨-, hdocumentation, -, -, hderivation, hparticle, hattributes, hany, hcontent, -⟩ := hdepth
  obtain ⟨m, rfl⟩ := Value.depth_ofTexts_le hdocumentation
  have hparticle := h.particle? hfits.1.1 hparticle
  have hattributes := h.attributeItems attributes hfits.1.2 hattributes
  have hcontent := h.typeRef? hfits.2 hcontent
  simp only [record, Members.withDefault_of_nodup hkeys, Members.optional, Members.list]
  simp [members, List.lookup_cons, Derivation.orNull_shape_encode? hderivation, hparticle,
    Readers.asShape_apply, hattributes, Wildcard.orNull_shape_encode? hany, hcontent]

theorem SimpleType.read_members {t : SimpleType} (hfits : t.fitsWords = true)
    (hdepth : ∀ m ∈ t.members, m.2.depth ≤ n) :
    (SimpleType.record r).read ⟨n, held⟩ t.members = some t := by
  obtain ⟨name, documentation, content⟩ := t
  have hkeys : ((members ⟨name, documentation, content⟩).map (·.1)).Nodup := by simp [members]
  simp only [members, List.forall_mem_cons] at hdepth
  obtain ⟨-, hdocumentation, hcontent, -⟩ := hdepth
  obtain ⟨m, rfl⟩ := Value.depth_ofTexts_le hdocumentation
  have hcontent := h.simpleContent content hfits hcontent
  simp only [record, Members.required_of_nodup hkeys, Members.withDefault_of_nodup hkeys,
    Members.optional, Members.list]
  simp [members, List.lookup_cons, Readers.asShape_apply, hcontent]

theorem ModelGroup.read_members {g : ModelGroup} (hfits : g.fitsWords = true)
    (hdepth : ∀ m ∈ g.members, m.2.depth ≤ n) :
    (ModelGroup.record r).read ⟨n, held⟩ g.members = some g := by
  obtain ⟨compositor, particles⟩ := g
  have hkeys : ((members ⟨compositor, particles⟩).map (·.1)).Nodup := by simp [members]
  simp only [members, List.forall_mem_cons] at hdepth
  have hparticles := h.particles particles hfits hdepth.2.1
  simp only [record, Members.withDefault_of_nodup hkeys]
  simp [members, List.lookup_cons, Readers.asShape_apply, hparticles]

theorem Particle.read_members {term : Term} {occurs : Occurs}
    (hfits : (Particle.mk term occurs).fitsWords = true)
    (hterm : term.encode.depth ≤ n) (hoccurs : occurs.encode.depth ≤ n) :
    (Particle.record r).read ⟨n, held⟩ [("term", term.encode), ("occurs", occurs.encode)] =
      some ⟨term, occurs⟩ := by
  have hkeys : ([("term", term.encode), ("occurs", occurs.encode)].map (·.1)).Nodup := by simp
  rw [fitsWords, Bool.and_eq_true] at hfits
  have hread := h.term term hfits.1 hterm
  cases n with
  | zero => simp [Occurs.depth_encode] at hoccurs
  | succ n =>
    simp only [record, Members.required_of_nodup hkeys, Members.withDefault_of_nodup hkeys]
    simp -implicitDefEqProofs [List.lookup_cons, Readers.asShape_apply, hread,
      Occurs.shape_encode hfits.2]

theorem SimpleContent.read_restriction {base : TypeRef} {facets : List Facet}
    (hfits : (restriction base facets).fitsWords = true) (hbase : base.encode.depth ≤ n)
    (hfacets : (Value.array (facets.map Facet.encode)).depth ≤ n) :
    (restrictionRecord r).read ⟨n, held⟩
      [("base", base.encode), ("facets", .array (facets.map Facet.encode))] =
        some (.restriction base facets) := by
  have hkeys : ([("base", base.encode), ("facets", Value.array (facets.map Facet.encode))].map
    (·.1)).Nodup := by simp
  simp only [fitsWords, Bool.and_eq_true, List.all_eq_true] at hfits
  have hread := h.typeRef base hfits.1 hbase
  cases n with
  | zero => simp at hfacets
  | succ n =>
    have hfacet : ∀ f ∈ facets, Facet.shape ⟨n, held⟩ f.encode = some f := by
      intro f hf
      have hdepth := Value.depth_array_le.1 hfacets f.encode (List.mem_map_of_mem hf)
      cases n with
      | zero => simp [Facet.encode, ofKind] at hdepth
      | succ n => exact Facet.shape_encode (hfits.2 f hf) hdepth
    simp only [restrictionRecord, Members.required_of_nodup hkeys,
      Members.withDefault_of_nodup hkeys, Members.list]
    simp [List.lookup_cons, Readers.asShape_apply, hread, Shape.items_map hfacet]

end members

/-! ## One level from the next -/

theorem TypeRef.encodeAll_eq_map (ts : List TypeRef) :
    TypeRef.encodeAll ts = ts.map TypeRef.encode := by
  induction ts with
  | nil => rfl
  | cons t ts ih => rw [encodeAll, ih, List.map_cons]

theorem TypeRef.allFitWords_iff {ts : List TypeRef} :
    TypeRef.allFitWords ts = true ↔ ∀ t ∈ ts, t.fitsWords = true := by
  induction ts with
  | nil => simp [allFitWords]
  | cons t ts ih => simp [allFitWords, ih]

theorem Particle.encodeAll_eq_map (ps : List Particle) :
    Particle.encodeAll ps = ps.map Particle.encode := by
  induction ps with
  | nil => rfl
  | cons p ps ih => rw [encodeAll, ih, List.map_cons]

theorem Particle.allFitWords_iff {ps : List Particle} :
    Particle.allFitWords ps = true ↔ ∀ p ∈ ps, p.fitsWords = true := by
  induction ps with
  | nil => simp [allFitWords]
  | cons p ps ih => simp [allFitWords, ih]

theorem AttributeItem.encodeAll_eq_map (is : List AttributeItem) :
    AttributeItem.encodeAll is = is.map AttributeItem.encode := by
  induction is with
  | nil => rfl
  | cons i is ih => rw [encodeAll, ih, List.map_cons]

theorem AttributeItem.allFitWords_iff {is : List AttributeItem} :
    AttributeItem.allFitWords is = true ↔ ∀ i ∈ is, i.fitsWords = true := by
  induction is with
  | nil => simp [allFitWords]
  | cons i is ih => simp [allFitWords, ih]

theorem AttributeItem.encode_ref (q : QName) :
    (AttributeItem.ref q).encode = ofKind "ref" (written q.fields) := by
  obtain ⟨_ | uri, name⟩ := q <;> rfl

theorem AttributeItem.encode_group (q : QName) :
    (AttributeItem.group q).encode = ofKind "group" (written q.fields) := by
  obtain ⟨_ | uri, name⟩ := q <;> rfl

theorem Term.encode_elementRef (q : QName) :
    (Term.elementRef q).encode = ofKind "elementRef" (written q.fields) := by
  obtain ⟨_ | uri, name⟩ := q <;> rfl

theorem Term.encode_groupRef (q : QName) :
    (Term.groupRef q).encode = ofKind "groupRef" (written q.fields) := by
  obtain ⟨_ | uri, name⟩ := q <;> rfl

theorem kind_notMem_name (q : QName) : "kind" ∉ (written q.fields).map (·.1) := by
  obtain ⟨_ | uri, name⟩ := q <;> simp [QName.fields, textField, written]

section step

variable {deeper : Bool → Readers} (h : ∀ held, (deeper held).Inverts n) (held : Bool)

include h

theorem Readers.next_typeRef {t : TypeRef} (hfits : t.fitsWords = true)
    (hdepth : t.encode.depth ≤ n + 1) :
    (next ⟨n + 1, held⟩ deeper).typeRef t.encode = some t := by
  cases t with
  | named name =>
    rw [TypeRef.encode, Value.depth_object_le] at hdepth
    have hname := hdepth ("named", name.encode) (by simp)
    cases n with
    | zero => simp [QName.encode] at hname
    | succ n =>
      show (QName.shape ⟨n + 1, held⟩ name.encode).map TypeRef.named = some (.named name)
      rw [QName.shape_encode, Option.map_some]
  | inline definition =>
    rw [TypeRef.encode, Value.depth_object_le] at hdepth
    have hread := (h held).typeDefinition definition hfits
      (hdepth ("anonymous", definition.encode) (by simp))
    show ((deeper held).typeDefinition definition.encode).map TypeRef.inline = _
    rw [hread, Option.map_some]

theorem Readers.next_typeDefinition {d : TypeDefinition} (hfits : d.fitsWords = true)
    (hdepth : d.encode.depth ≤ n + 1) :
    (next ⟨n + 1, held⟩ deeper).typeDefinition d.encode = some d := by
  have hplain := TypeDefinition.isPlain_encode d hfits
  cases d with
  | complex type =>
    have hread : (ComplexType.record (deeper true)).read ⟨n, true⟩ type.members = some type :=
      ComplexType.read_members (h true) hfits (depth_ofKind_le.1 hdepth)
    exact tagged_ofKind rfl (by cases type; simp [ComplexType.members]) hplain hdepth
      (congrArg (Option.map TypeDefinition.complex) hread)
  | simple type =>
    have hread : (SimpleType.record (deeper true)).read ⟨n, true⟩ type.members = some type :=
      SimpleType.read_members (h true) hfits (depth_ofKind_le.1 hdepth)
    exact tagged_ofKind rfl (by cases type; simp [SimpleType.members]) hplain hdepth
      (congrArg (Option.map TypeDefinition.simple) hread)

theorem Readers.next_attributeItem {i : AttributeItem} (hfits : i.fitsWords = true)
    (hdepth : i.encode.depth ≤ n + 1) :
    (next ⟨n + 1, held⟩ deeper).attributeItem i.encode = some i := by
  have hplain := AttributeItem.isPlain_encode i hfits
  obtain a | name | name := i
  · have hread : (AttributeDecl.record (deeper true)).read ⟨n, true⟩ a.members = some a :=
      AttributeDecl.read_members (h true) hfits (depth_ofKind_le.1 hdepth)
    exact tagged_ofKind rfl (by cases a; simp [AttributeDecl.members]) hplain hdepth
      (congrArg (Option.map AttributeItem.attribute) hread)
  · rw [AttributeItem.encode_ref] at hplain hdepth ⊢
    exact tagged_ofKind rfl (kind_notMem_name name) hplain hdepth
      (congrArg (Option.map AttributeItem.ref) (name.read_fields _))
  · rw [AttributeItem.encode_group] at hplain hdepth ⊢
    exact tagged_ofKind rfl (kind_notMem_name name) hplain hdepth
      (congrArg (Option.map AttributeItem.group) (name.read_fields _))

theorem Readers.next_term {t : Term} (hfits : t.fitsWords = true)
    (hdepth : t.encode.depth ≤ n + 1) :
    (next ⟨n + 1, held⟩ deeper).term t.encode = some t := by
  have hplain := Term.isPlain_encode t hfits
  cases t with
  | element e =>
    have hread : (ElementDecl.record (deeper true)).read ⟨n, true⟩ e.members = some e :=
      ElementDecl.read_members (h true) hfits (depth_ofKind_le.1 hdepth)
    exact tagged_ofKind rfl (by cases e; simp [ElementDecl.members]) hplain hdepth
      (congrArg (Option.map Term.element) hread)
  | elementRef name =>
    rw [Term.encode_elementRef] at hplain hdepth ⊢
    exact tagged_ofKind rfl (kind_notMem_name name) hplain hdepth
      (congrArg (Option.map Term.elementRef) (name.read_fields _))
  | any w =>
    have hread : Wildcard.record.read ⟨n, true⟩ w.members = some w :=
      w.read_members (depth_ofKind_le.1 hdepth)
    exact tagged_ofKind rfl (by simp [Wildcard.members]) hplain hdepth
      (congrArg (Option.map Term.any) hread)
  | groupRef name =>
    rw [Term.encode_groupRef] at hplain hdepth ⊢
    exact tagged_ofKind rfl (kind_notMem_name name) hplain hdepth
      (congrArg (Option.map Term.groupRef) (name.read_fields _))
  | group g =>
    have hread : (ModelGroup.record (deeper true)).read ⟨n, true⟩ g.members = some g :=
      ModelGroup.read_members (h true) hfits (depth_ofKind_le.1 hdepth)
    exact tagged_ofKind rfl (by cases g; simp [ModelGroup.members]) hplain hdepth
      (congrArg (Option.map Term.group) hread)

theorem Readers.next_simpleContent {c : SimpleContent} (hfits : c.fitsWords = true)
    (hdepth : c.encode.depth ≤ n + 1) :
    (next ⟨n + 1, held⟩ deeper).simpleContent c.encode = some c := by
  have hplain := SimpleContent.isPlain_encode c hfits
  have hmembers := hdepth
  cases c with
  | restriction base facets =>
    rw [SimpleContent.encode, depth_ofKind_le] at hmembers
    exact tagged_ofKind rfl (by simp) hplain hdepth
      (SimpleContent.read_restriction (h true) hfits (hmembers ("base", _) (by simp))
        (hmembers ("facets", _) (by simp)))
  | list item =>
    rw [SimpleContent.encode, depth_ofKind_le] at hmembers
    have hread := (h true).typeRef item hfits (hmembers ("item", _) (by simp))
    refine tagged_ofKind rfl (by simp) hplain hdepth ?_
    simp [SimpleContent.listRecord, Members.required_of_nodup, Readers.asShape_apply, hread]
  | union members =>
    rw [SimpleContent.encode, depth_ofKind_le] at hmembers
    have hread := (h true).typeRefs members hfits (hmembers ("members", _) (by simp))
    refine tagged_ofKind rfl (by simp) hplain hdepth ?_
    simp [SimpleContent.unionRecord, Members.required_of_nodup, Readers.asShape_apply, hread]

/-- The readers of one level invert the writers if those of the next deeper level do. -/
theorem Readers.next_inverts : (next ⟨n + 1, held⟩ deeper).Inverts (n + 1) where
  typeRef _ hfits hdepth := next_typeRef h held hfits hdepth
  typeDefinition _ hfits hdepth := next_typeDefinition h held hfits hdepth
  attributeItem _ hfits hdepth := next_attributeItem h held hfits hdepth
  term _ hfits hdepth := next_term h held hfits hdepth
  simpleContent _ hfits hdepth := next_simpleContent h held hfits hdepth
  particle p hfits hdepth := by
    obtain ⟨term, occurs⟩ := p
    rw [Particle.encode, Value.depth_object_le] at hdepth
    exact Particle.read_members (h held) hfits (hdepth ("term", term.encode) (by simp))
      (hdepth ("occurs", occurs.encode) (by simp))
  typeRefs ts hfits hdepth := by
    rw [TypeRef.encodeAll_eq_map, Value.depth_array_le] at hdepth
    rw [TypeRef.encodeAll_eq_map]
    exact Shape.mapM_encode fun t ht => (h held).typeRef t (TypeRef.allFitWords_iff.1 hfits t ht)
      (hdepth _ (List.mem_map_of_mem ht))
  particles ps hfits hdepth := by
    rw [Particle.encodeAll_eq_map, Value.depth_array_le] at hdepth
    rw [Particle.encodeAll_eq_map]
    exact Shape.mapM_encode fun p hp => (h held).particle p (Particle.allFitWords_iff.1 hfits p hp)
      (hdepth _ (List.mem_map_of_mem hp))
  attributeItems is hfits hdepth := by
    rw [AttributeItem.encodeAll_eq_map, Value.depth_array_le] at hdepth
    rw [AttributeItem.encodeAll_eq_map]
    exact Shape.mapM_encode fun i hi => (h held).attributeItem i
      (AttributeItem.allFitWords_iff.1 hfits i hi) (hdepth _ (List.mem_map_of_mem hi))

end step

theorem TypeDefinition.depth_encode_ne_zero (d : TypeDefinition) : d.encode.depth ≠ 0 := by
  cases d <;> simp [encode, ofKind]

theorem AttributeItem.depth_encode_ne_zero (i : AttributeItem) : i.encode.depth ≠ 0 := by
  obtain _ | ⟨_ | _, _⟩ | ⟨_ | _, _⟩ := i <;> simp [encode, ofKind]

theorem Term.depth_encode_ne_zero (t : Term) : t.encode.depth ≠ 0 := by
  obtain _ | ⟨_ | _, _⟩ | _ | ⟨_ | _, _⟩ | _ := t <;> simp [encode, ofKind]

/-- The readers for `n` levels invert the writers on what nests at most that deep. -/
theorem Readers.upTo_inverts (n : Nat) (held : Bool) : (upTo n held).Inverts n := by
  induction n generalizing held with
  | zero =>
    -- Nothing that is read here is written without an array or an object.
    constructor
    all_goals
      intro x _ hdepth
      have hzero := Nat.le_zero.1 hdepth
    · cases x <;> simp [TypeRef.encode] at hzero
    · simp at hzero
    · exact absurd hzero x.depth_encode_ne_zero
    · cases x; simp [Particle.encode] at hzero
    · simp at hzero
    · exact absurd hzero x.depth_encode_ne_zero
    · simp at hzero
    · exact absurd hzero x.depth_encode_ne_zero
    · cases x <;> simp [SimpleContent.encode, ofKind] at hzero
  | succ n ih => exact next_inverts ih held

/-! ## Declarations and documents -/

/-- A list is read back when each of its items is, wherever there is room for it. -/
theorem items_encode {α : Type} {s : Shape α} {encode : α → Value} {xs : List α}
    (h : ∀ n, ∀ x ∈ xs, (encode x).depth ≤ n → s ⟨n, held⟩ (encode x) = some x)
    (hdepth : (Value.array (xs.map encode)).depth ≤ n) :
    s.items ⟨n, held⟩ (.array (xs.map encode)) = some xs := by
  cases n with
  | zero => simp at hdepth
  | succ n =>
    rw [Value.depth_array_le] at hdepth
    exact Shape.items_map fun x hx => h n x hx (hdepth _ (List.mem_map_of_mem hx))

/-- What is read from its members is read back as an object. -/
theorem object_encode {α : Type} {record : Readers → Record α} {ms : Members} {a : α}
    (h : ∀ n (r : Readers), r.Inverts n → (∀ m ∈ ms, m.2.depth ≤ n) →
      (record r).read ⟨n, held⟩ ms = some a)
    (hdepth : (Value.object ms).depth ≤ n) :
    Readers.object record ⟨n, held⟩ (.object ms) = some a := by
  cases n with
  | zero => simp at hdepth
  | succ n => exact h n _ (Readers.upTo_inverts n held) (Value.depth_object_le.1 hdepth)

theorem GroupDef.shape_encode {g : GroupDef} (hfits : g.group.fitsWords = true)
    (hdepth : g.encode.depth ≤ n) : GroupDef.shape ⟨n, held⟩ g.encode = some g := by
  have hkeys : ([("name", g.name.encode), ("group", g.group.encode),
    ("documentation", Value.ofTexts g.documentation)].map (·.1)).Nodup := by simp
  cases n with
  | zero => simp [encode] at hdepth
  | succ n =>
    simp only [encode, Value.depth_object_le, List.forall_mem_cons] at hdepth
    obtain ⟨-, hgroup, hdocumentation, -⟩ := hdepth
    obtain ⟨m, rfl⟩ := Value.depth_ofTexts_le hdocumentation
    have hgroup : ModelGroup.shape ⟨m + 1, held⟩ g.group.encode = some g.group :=
      object_encode (fun _ _ h hd => ModelGroup.read_members h hfits hd) hgroup
    rw [encode, shape, Shape.object_object]
    simp only [record, Members.required_of_nodup hkeys, Members.withDefault_of_nodup hkeys,
      Members.list]
    simp [List.lookup_cons, hgroup]

theorem AttributeGroupDef.shape_encode {g : AttributeGroupDef}
    (hfits : AttributeItem.allFitWords g.attributes = true) (hdepth : g.encode.depth ≤ n) :
    AttributeGroupDef.shape ⟨n, held⟩ g.encode = some g := by
  rw [AttributeItem.allFitWords_iff] at hfits
  rw [encode, AttributeItem.encodeAll_eq_map] at hdepth ⊢
  have hkeys : ([("name", g.name.encode),
    ("attributes", Value.array (g.attributes.map AttributeItem.encode)),
    ("anyAttribute", Wildcard.encode? g.anyAttribute),
    ("documentation", .ofTexts g.documentation)].map (·.1)).Nodup := by simp
  cases n with
  | zero => simp at hdepth
  | succ n =>
    simp only [Value.depth_object_le, List.forall_mem_cons] at hdepth
    obtain ⟨-, hattributes, hany, hdocumentation, -⟩ := hdepth
    obtain ⟨m, rfl⟩ := Value.depth_ofTexts_le hdocumentation
    have hattributes : AttributeItem.shape.items ⟨m + 1, held⟩
        (.array (g.attributes.map AttributeItem.encode)) = some g.attributes :=
      items_encode (fun n i hi hd =>
        (Readers.upTo_inverts n held).attributeItem i (hfits i hi) hd) hattributes
    rw [shape, Shape.object_object]
    simp only [record, Members.required_of_nodup hkeys, Members.withDefault_of_nodup hkeys,
      Members.list, Members.optional]
    simp [List.lookup_cons, hattributes, Wildcard.orNull_shape_encode? hany]

/-- The members of a document. -/
def Document.members (d : Document) : Members :=
  [("location", .string d.location), ("targetNamespace", .stringOrNull d.targetNamespace),
   ("includes", .ofTexts d.includes), ("imports", .ofTexts d.imports),
   ("types", .array (d.types.map TypeDefinition.encode)),
   ("elements", .array (d.elements.map ElementDecl.encode)),
   ("groups", .array (d.groups.map GroupDef.encode)),
   ("attributeGroups", .array (d.attributeGroups.map AttributeGroupDef.encode)),
   ("attributes", .array (d.attributes.map AttributeDecl.encode))]

theorem Document.read_members {d : Document} (hfits : d.fitsWords = true)
    (hdepth : ∀ m ∈ d.members, m.2.depth ≤ n) :
    Document.record.read ⟨n, held⟩ d.members = some d := by
  have hkeys : (d.members.map (·.1)).Nodup := by simp [members]
  simp only [fitsWords, Bool.and_eq_true, List.all_eq_true] at hfits
  obtain ⟨⟨⟨⟨htypes, helements⟩, hgroups⟩, hattributeGroups⟩, hattributes⟩ := hfits
  simp only [members, List.forall_mem_cons] at hdepth
  obtain ⟨-, -, hincludes, -, htypesDepth, helementsDepth, hgroupsDepth, hattributeGroupsDepth,
    hattributesDepth, -⟩ := hdepth
  obtain ⟨m, rfl⟩ := Value.depth_ofTexts_le hincludes
  have htypesRead : TypeDefinition.shape.items ⟨m + 1, held⟩
      (.array (d.types.map TypeDefinition.encode)) = some d.types :=
    items_encode (fun n t ht hd => (Readers.upTo_inverts n held).typeDefinition t (htypes t ht) hd)
      htypesDepth
  have helementsRead : ElementDecl.shape.items ⟨m + 1, held⟩
      (.array (d.elements.map ElementDecl.encode)) = some d.elements :=
    items_encode (fun n e he hd =>
      object_encode (fun _ _ h hm => ElementDecl.read_members h (helements e he) hm) hd)
      helementsDepth
  have hgroupsRead : GroupDef.shape.items ⟨m + 1, held⟩
      (.array (d.groups.map GroupDef.encode)) = some d.groups :=
    items_encode (fun n g hg hd => GroupDef.shape_encode (hgroups g hg) hd) hgroupsDepth
  have hattributeGroupsRead : AttributeGroupDef.shape.items ⟨m + 1, held⟩
      (.array (d.attributeGroups.map AttributeGroupDef.encode)) = some d.attributeGroups :=
    items_encode (fun n g hg hd => AttributeGroupDef.shape_encode (hattributeGroups g hg) hd)
      hattributeGroupsDepth
  have hattributesRead : AttributeDecl.shape.items ⟨m + 1, held⟩
      (.array (d.attributes.map AttributeDecl.encode)) = some d.attributes :=
    items_encode (fun n a ha hd =>
      object_encode (fun _ _ h hm => AttributeDecl.read_members h (hattributes a ha) hm) hd)
      hattributesDepth
  simp only [record, Members.required_of_nodup hkeys, Members.withDefault_of_nodup hkeys,
    Members.list, Members.optional]
  simp [members, List.lookup_cons, htypesRead, helementsRead, hgroupsRead, hattributeGroupsRead,
    hattributesRead]

/-- A document is read back. -/
theorem Document.shape_encode {d : Document} (hfits : d.fitsWords = true)
    (hdepth : d.encode.depth ≤ n) : Document.shape ⟨n, held⟩ d.encode = some d := by
  cases n with
  | zero => simp [encode] at hdepth
  | succ n => exact read_members hfits (Value.depth_object_le.1 hdepth)

/-- A schema set is read back. -/
theorem SchemaSet.shape_encode {s : SchemaSet} (hfits : s.fitsWords = true)
    (hdepth : s.encode.depth ≤ n) : SchemaSet.shape ⟨n, held⟩ s.encode = some s := by
  have hkeys : ([("documents", Value.array (s.documents.map Document.encode))].map
    (·.1)).Nodup := by simp
  cases n with
  | zero => simp [encode] at hdepth
  | succ n =>
    rw [encode, Value.depth_object_le] at hdepth
    have hdocuments : Document.shape.items ⟨n, held⟩
        (.array (s.documents.map Document.encode)) = some s.documents :=
      items_encode (fun n d hd h => Document.shape_encode (List.all_eq_true.1 hfits d hd) h)
        (hdepth ("documents", .array (s.documents.map Document.encode)) (by simp))
    rw [encode, shape, Shape.object_object]
    simp only [record, Members.required_of_nodup hkeys]
    simp [hdocuments]

end Schema

/-! ## Configurations -/

@[simp]
theorem SubstitutionStrategy.shape_key (room : Room) (s : SubstitutionStrategy) :
    SubstitutionStrategy.shape room (.string s.key) = some s := by
  cases s <;> rfl

@[simp]
theorem AnnotationMode.shape_key (room : Room) (m : AnnotationMode) :
    AnnotationMode.shape room (.string m.key) = some m := by
  cases m <;> rfl

/-- The members of options. -/
def Options.members (o : Options) : Members :=
  [("generateInterfaces", .bool o.generateInterfaces),
   ("substitutionStrategy", .string o.substitutionStrategy.key),
   ("uniqueTypeNamesAcrossNamespaces", .bool o.uniqueNames),
   ("annotationMode", .string o.annotationMode.key), ("emitOrder", .bool o.emitOrder),
   ("mapUnionToWidestCommonType", .bool o.widenUnions)]

/-- Options are read back. -/
theorem Options.shape_encode (o : Options) : Options.shape ⟨n + 1, held⟩ o.encode = some o := by
  have hkeys : (o.members.map (·.1)).Nodup := by simp [members]
  show record.read ⟨n, held⟩ o.members = some o
  simp only [record, Members.withDefault_of_nodup hkeys]
  simp [members, List.lookup_cons]

/-- The members of a rule. -/
def NamespaceRule.members (r : NamespaceRule) : Members :=
  [("source", .stringOrNull r.source), ("namespace", .stringOrNull r.uri),
   ("output", .string r.output)]

/-- A rule is read back. -/
theorem NamespaceRule.shape_encode (r : NamespaceRule) :
    NamespaceRule.shape ⟨n + 1, held⟩ r.encode = some r := by
  have hkeys : (r.members.map (·.1)).Nodup := by simp [members]
  show record.read ⟨n, held⟩ r.members = some r
  simp only [record, Members.required_of_nodup hkeys, Members.withDefault_of_nodup hkeys,
    Members.optional]
  simp [members, List.lookup_cons]

/-- The members of a configuration. -/
def Configuration.members (c : Configuration) : Members :=
  [("options", c.options.encode), ("namespaces", .array (c.rules.map NamespaceRule.encode))]

/-- A configuration is read back. -/
theorem Configuration.shape_encode (c : Configuration) :
    Configuration.shape ⟨n + 3, held⟩ c.encode = some c := by
  have hkeys : (c.members.map (·.1)).Nodup := by simp [members]
  have hrules : NamespaceRule.shape.items ⟨n + 2, held⟩
      (.array (c.rules.map NamespaceRule.encode)) = some c.rules :=
    Shape.items_map fun r _ => r.shape_encode
  show record.read ⟨n + 2, held⟩ c.members = some c
  simp only [record, Members.withDefault_of_nodup hkeys, Members.list]
  simp [members, List.lookup_cons, Options.shape_encode, hrules]

theorem Configuration.isPlain_encode (c : Configuration) : c.encode.isPlain = true := by
  have hrule (r : NamespaceRule) : r.encode.isPlain = true := by
    simp [NamespaceRule.encode]
  have hrules : (Value.array (c.rules.map NamespaceRule.encode)).isPlain = true :=
    Value.isPlain_array_map fun r _ => hrule r
  have hoptions : c.options.encode.isPlain = true := by
    simp [Options.encode]
  exact Value.isPlain_object.2 (by simp [hoptions, hrules])

/-! ## Texts -/

/-- The texts of a value. -/
def IsTextOf (text : String) (v : Value) : Prop := text = v.toCompact ∨ text = v.toIndented

theorem IsTextOf.read? {text : String} {v : Value} (h : IsTextOf text v)
    (hplain : v.isPlain = true) : Value.read? text = some v := by
  have hwell := Value.isWellFormed_of_isPlain v hplain
  rcases h with rfl | rfl
  · exact Value.read?_toCompact hwell
  · exact Value.read?_toIndented hwell

/-- Schemas and configurations are read back from either text of their written form: a schema set
whose counts fit machine words and whose text nests at most 127 levels deep, and every
configuration. -/
theorem texts_read_back :
    (∀ (s : Schema.SchemaSet) (text : String), s.fitsWords = true → s.encode.depth ≤ 127 →
      IsTextOf text s.encode → Schema.SchemaSet.ofJson text = .ok s) ∧
    ∀ (c : Configuration) (text : String), IsTextOf text c.encode →
      Configuration.ofJson text = .ok c := by
  constructor
  · intro s text hfits hdepth htext
    exact Shape.readText_of_read? (htext.read? (Schema.SchemaSet.isPlain_encode hfits))
      (Schema.SchemaSet.shape_encode hfits hdepth)
  · intro c text htext
    exact Shape.readText_of_read? (htext.read? c.isPlain_encode) c.shape_encode

/-- An element with a group whose element has a type given in place, with the greatest counts and
an escape in a literal. -/
def nestedSchema : Schema.SchemaSet :=
  let digits : Schema.SimpleType :=
    { content := .restriction (.xsd "decimal")
        [.totalDigits 4294967295, .enumeration "\"\\\n\x01é" ["𝄞"] true] }
  let item : Schema.Particle :=
    { term := .element { name := ⟨none, "item"⟩, typeRef := some (.inline (.simple digits)) }
      occurs := ⟨0, none⟩ }
  let list : Schema.ComplexType :=
    { particle := some (.one (.group { compositor := .choice, particles := [item] }))
      attributes := [.ref ⟨some "urn:t", "lang"⟩] }
  { documents := [{ location := "a.xsd", targetNamespace := some "urn:t"
                    elements := [{ name := ⟨some "urn:t", "list"⟩
                                   typeRef := some (.inline (.complex list)) }] }] }

theorem nestedSchema_read_back :
    nestedSchema.fitsWords = true ∧ nestedSchema.encode.depth = 18 ∧
      Schema.SchemaSet.ofJson nestedSchema.encode.toIndented = .ok nestedSchema ∧
      Configuration.ofJson (Configuration.encode {}).toCompact = .ok {} := by
  have hfits : nestedSchema.fitsWords = true := by decide
  have hdepth : nestedSchema.encode.depth = 18 := by decide +kernel
  have hle : nestedSchema.encode.depth ≤ 127 := by omega
  exact ⟨hfits, hdepth, texts_read_back.1 nestedSchema _ hfits hle (.inr rfl),
    texts_read_back.2 {} _ (.inl rfl)⟩

end XmlTypes
