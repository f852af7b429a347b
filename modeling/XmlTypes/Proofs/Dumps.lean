import XmlTypes.Dump.Json
import XmlTypes.Dump.OfGraph
import XmlTypes.Proofs.Shapes
import XmlTypes.Proofs.Spelling
/-!
# A dump is read back from its text

What is false, absent or empty is left out of the text of a dump, and is what a reader takes a
missing member for. So both texts of a dump are read back as the dump, with whatever is in its
strings.
-/

namespace XmlTypes

open Json (Value Shape Room Members Record written textField)

/-- What is left out when it is false. -/
def flagField (b : Bool) : Option Value := if b then some (.bool true) else none

/-- What is left out when it is empty. -/
def listField (vs : List Value) : Option Value := if vs.isEmpty then none else some (.array vs)

/-- What is left out when there is no number. -/
def numberField : Option Nat → Option Value := Option.map .ofNat

section written

variable (key : String) (fields : List (String × Option Value))

theorem written_textField (o : Option String) :
    written ((key, textField o) :: fields) = textMember key o ++ written fields := by
  cases o <;> rfl

theorem written_flagField (b : Bool) :
    written ((key, flagField b) :: fields) = flagMember key b ++ written fields := by
  cases b <;> rfl

theorem written_listField (vs : List Value) :
    written ((key, listField vs) :: fields) = listMember key vs ++ written fields := by
  cases vs <;> rfl

theorem written_numberField (o : Option Nat) :
    written ((key, numberField o) :: fields) =
      (o.map fun n => (key, Value.ofNat n)).toList ++ written fields := by
  cases o <;> rfl

end written

@[simp]
theorem elim_flagField (room : Room) (b : Bool) :
    (flagField b).elim (some false) (Shape.bool room) = some b := by
  cases b <;> rfl

theorem elim_listField {α : Type} {s : Shape α} {encode : α → Value} {levels : Nat} {held : Bool}
    {xs : List α} (h : ∀ x ∈ xs, s ⟨levels, held⟩ (encode x) = some x) :
    (listField (xs.map encode)).elim (some []) (s.items ⟨levels + 1, held⟩) = some xs := by
  cases xs with
  | nil => rfl
  | cons x xs => exact Shape.items_map h

@[simp]
theorem elim_listField_text {levels : Nat} {held : Bool} (ss : List String) :
    (listField (ss.map .string)).elim (some []) (Shape.text.items ⟨levels + 1, held⟩) = some ss :=
  elim_listField fun s _ => Shape.text_string _ s

variable {levels : Nat} {held : Bool}

/-- The fields of a restriction. -/
def RestrictionDump.fields (r : RestrictionDump) : List (String × Option Value) :=
  [("kind", some (.string r.kind)), ("value", some (.string r.value))]

/-- A restriction is read back. -/
theorem RestrictionDump.shape_encode (r : RestrictionDump) :
    RestrictionDump.shape ⟨levels + 1, held⟩ r.encode = some r := by
  have hkeys : (r.fields.map (·.1)).Nodup := by simp [fields]
  show RestrictionDump.record.read ⟨levels, held⟩ (written r.fields) = some r
  simp only [record, Members.required_written hkeys]
  simp [fields, List.lookup_cons]

/-- The fields of a value of an enumeration. -/
def EnumValueDump.fields (v : EnumValueDump) : List (String × Option Value) :=
  [("name", some (.string v.name)), ("value", some (.string v.value)),
   ("deprecated", flagField v.deprecated)]

theorem EnumValueDump.encode_eq (v : EnumValueDump) : v.encode = .object (written v.fields) := by
  simp [encode, fields, written_flagField]

/-- A value of an enumeration is read back. -/
theorem EnumValueDump.shape_encode (v : EnumValueDump) :
    EnumValueDump.shape ⟨levels + 1, held⟩ v.encode = some v := by
  have hkeys : (v.fields.map (·.1)).Nodup := by simp [fields]
  rw [encode_eq, shape, Shape.object_object]
  simp only [record, Members.required_written hkeys, Members.withDefault_written hkeys]
  simp [fields, List.lookup_cons]

/-- The fields of a property. -/
def PropertyDump.fields (p : PropertyDump) : List (String × Option Value) :=
  [("name", some (.string p.name)), ("schema_name", some (.string p.schemaName)),
   ("type", some (.string p.type)), ("attribute", flagField p.isAttribute),
   ("collection", flagField p.isCollection), ("nullable", flagField p.isNullable),
   ("nillable", flagField p.isNillable), ("required", flagField p.isRequired),
   ("wildcard", flagField p.isWildcard), ("default", textField p.default),
   ("fixed", textField p.fixed), ("form", some (.string p.form)),
   ("explicit_namespace", textField p.explicitNamespace), ("order", numberField p.order),
   ("substitutes", listField (p.substitutes.map .string)),
   ("restrictions", listField (p.restrictions.map RestrictionDump.encode))]

theorem PropertyDump.encode_eq (p : PropertyDump) : p.encode = .object (written p.fields) := by
  simp [encode, fields, written_flagField, written_textField, written_numberField,
    written_listField]

/-- A property is read back, if its number fits a machine word. -/
theorem PropertyDump.shape_encode (p : PropertyDump) (h : ∀ n ∈ p.order, n < Nat.pow 2 64) :
    PropertyDump.shape ⟨levels + 3, held⟩ p.encode = some p := by
  have hkeys : (p.fields.map (·.1)).Nodup := by simp [fields]
  have horder (room : Room) :
      (numberField p.order).elim (some none) (Shape.nat64.orNull room) = some p.order := by
    cases horder : p.order with
    | none => rfl
    | some n =>
      rw [numberField, Option.map_some, Option.elim_some,
        Shape.orNull_of_ne_null (by simp [Value.ofNat]), Shape.nat64_ofNat (h n horder),
        Option.map_some]
  have hrestrictions : (listField (p.restrictions.map RestrictionDump.encode)).elim (some [])
      (RestrictionDump.shape.items ⟨levels + 2, held⟩) = some p.restrictions :=
    elim_listField fun r _ => r.shape_encode
  rw [encode_eq, shape, Shape.object_object]
  simp only [record, Members.required_written hkeys, Members.withDefault_written hkeys,
    Members.optional, Members.list]
  simp [fields, List.lookup_cons, horder, hrestrictions]

/-- The fields of a type. -/
def TypeDump.fields (t : TypeDump) : List (String × Option Value) :=
  [("name", some (.string t.name)), ("kind", some (.string t.kind)),
   ("schema_name", textField t.schemaName), ("anonymous", flagField t.anonymous),
   ("root_element", textField t.rootElement), ("abstract_root", flagField t.abstractRoot),
   ("is_abstract", flagField t.isAbstract), ("mixed", flagField t.mixed),
   ("base_class", textField t.baseClass), ("interfaces", listField (t.interfaces.map .string)),
   ("derived_types", listField (t.derivedTypes.map .string)),
   ("text_type", textField t.textType), ("value_type", textField t.valueType),
   ("is_list", flagField t.isList),
   ("properties", listField (t.properties.map PropertyDump.encode)),
   ("values", listField (t.values.map EnumValueDump.encode)),
   ("restrictions", listField (t.restrictions.map RestrictionDump.encode)),
   ("documentation", listField (t.documentation.map .string))]

theorem TypeDump.encode_eq (t : TypeDump) : t.encode = .object (written t.fields) := by
  simp [encode, fields, written_flagField, written_textField, written_listField]

/-- Whether the numbers of all properties fit a machine word. -/
def TypeDump.FitsWords (t : TypeDump) : Prop :=
  ∀ p ∈ t.properties, ∀ n ∈ p.order, n < Nat.pow 2 64

/-- A type is read back. -/
theorem TypeDump.shape_encode (t : TypeDump) (h : t.FitsWords) :
    TypeDump.shape ⟨levels + 5, held⟩ t.encode = some t := by
  have hkeys : (t.fields.map (·.1)).Nodup := by simp [fields]
  have hproperties : (listField (t.properties.map PropertyDump.encode)).elim (some [])
      (PropertyDump.shape.items ⟨levels + 4, held⟩) = some t.properties :=
    elim_listField fun p hp => p.shape_encode (h p hp)
  have hvalues : (listField (t.values.map EnumValueDump.encode)).elim (some [])
      (EnumValueDump.shape.items ⟨levels + 4, held⟩) = some t.values :=
    elim_listField fun v _ => v.shape_encode
  have hrestrictions : (listField (t.restrictions.map RestrictionDump.encode)).elim (some [])
      (RestrictionDump.shape.items ⟨levels + 4, held⟩) = some t.restrictions :=
    elim_listField fun r _ => r.shape_encode
  rw [encode_eq, shape, Shape.object_object]
  simp only [record, Members.required_written hkeys, Members.withDefault_written hkeys,
    Members.optional, Members.list]
  simp [fields, List.lookup_cons, hproperties, hvalues, hrestrictions]

/-- The fields of a namespace. -/
def NamespaceDump.fields (ns : NamespaceDump) : List (String × Option Value) :=
  [("name", some (.string ns.name)), ("source", textField ns.source),
   ("xml_namespace", textField ns.uri), ("ambiguous", flagField ns.ambiguous),
   ("types", some (.array (ns.types.map TypeDump.encode)))]

theorem NamespaceDump.encode_eq (ns : NamespaceDump) :
    ns.encode = .object (written ns.fields) := by
  simp [encode, fields, written_flagField, written_textField]

/-- A namespace is read back. -/
theorem NamespaceDump.shape_encode (ns : NamespaceDump) (h : ∀ t ∈ ns.types, t.FitsWords) :
    NamespaceDump.shape ⟨levels + 7, held⟩ ns.encode = some ns := by
  have hkeys : (ns.fields.map (·.1)).Nodup := by simp [fields]
  have htypes : TypeDump.shape.items ⟨levels + 6, held⟩ (.array (ns.types.map TypeDump.encode)) =
      some ns.types :=
    Shape.items_map fun t ht => t.shape_encode (h t ht)
  rw [encode_eq, shape, Shape.object_object]
  simp only [record, Members.required_written hkeys, Members.withDefault_written hkeys,
    Members.optional]
  simp [fields, List.lookup_cons, htypes]

/-- Whether the numbers of all properties fit a machine word. -/
def GraphDump.FitsWords (d : GraphDump) : Prop :=
  ∀ ns ∈ d.namespaces, ∀ t ∈ ns.types, t.FitsWords

/-- The fields of a dump. -/
def GraphDump.fields (d : GraphDump) : List (String × Option Value) :=
  [("namespaces", some (.array (d.namespaces.map NamespaceDump.encode)))]

/-- A dump is read back. -/
theorem GraphDump.shape_encode (d : GraphDump) (h : d.FitsWords) :
    GraphDump.shape ⟨levels + 9, held⟩ d.encode = some d := by
  have hkeys : (d.fields.map (·.1)).Nodup := by simp [fields]
  have hspaces : NamespaceDump.shape.items ⟨levels + 8, held⟩
      (.array (d.namespaces.map NamespaceDump.encode)) = some d.namespaces :=
    Shape.items_map fun ns hns => ns.shape_encode (h ns hns)
  show record.read ⟨levels + 8, held⟩ (written d.fields) = some d
  simp only [record, Members.required_written hkeys]
  simp [fields, hspaces]

/-! ## Texts -/

/-- Whether a field is left out or holds a well-formed value. -/
abbrev fieldWellFormed (o : Option Value) : Bool := o.all Value.isWellFormed

theorem isWellFormed_written {fields : List (String × Option Value)}
    (h : fields.all (fun f => fieldWellFormed f.2) = true) :
    (Value.object (written fields)).isWellFormed = true := by
  refine (Value.membersWellFormed_iff _).2 fun m hm => ?_
  simp only [written, List.mem_filterMap, Option.map_eq_some_iff] at hm
  obtain ⟨f, hf, v, hv, rfl⟩ := hm
  have hall := List.all_eq_true.1 h f hf
  rwa [fieldWellFormed, hv] at hall

@[simp]
theorem isWellFormed_string (s : String) : (Value.string s).isWellFormed = true := by
  simp [Value.isWellFormed]

@[simp]
theorem isWellFormed_array_map {α : Type} {f : α → Value} (h : ∀ x, (f x).isWellFormed = true)
    (xs : List α) : (Value.array (xs.map f)).isWellFormed = true :=
  (Value.itemsWellFormed_iff _).2 (List.forall_mem_map.2 fun x _ => h x)

@[simp]
theorem all_textField (o : Option String) : (textField o).all Value.isWellFormed = true := by
  cases o <;> rfl

@[simp]
theorem all_numberField (o : Option Nat) : (numberField o).all Value.isWellFormed = true := by
  cases o <;> rfl

@[simp]
theorem all_flagField (b : Bool) : (flagField b).all Value.isWellFormed = true := by
  cases b <;> rfl

@[simp]
theorem all_listField {α : Type} {f : α → Value} (h : ∀ x, (f x).isWellFormed = true)
    (xs : List α) : (listField (xs.map f)).all Value.isWellFormed = true := by
  cases xs with
  | nil => rfl
  | cons x xs => exact isWellFormed_array_map h (x :: xs)

@[simp]
theorem RestrictionDump.isWellFormed_encode (r : RestrictionDump) :
    r.encode.isWellFormed = true := by
  show (Value.object (written r.fields)).isWellFormed = true
  exact isWellFormed_written (by simp [fields])

@[simp]
theorem EnumValueDump.isWellFormed_encode (v : EnumValueDump) :
    v.encode.isWellFormed = true := by
  rw [encode_eq]
  exact isWellFormed_written (by simp [fields])

@[simp]
theorem PropertyDump.isWellFormed_encode (p : PropertyDump) :
    p.encode.isWellFormed = true := by
  rw [encode_eq]
  exact isWellFormed_written (by simp [fields])

@[simp]
theorem TypeDump.isWellFormed_encode (t : TypeDump) : t.encode.isWellFormed = true := by
  rw [encode_eq]
  exact isWellFormed_written (by simp [fields])

@[simp]
theorem NamespaceDump.isWellFormed_encode (ns : NamespaceDump) :
    ns.encode.isWellFormed = true := by
  rw [encode_eq]
  exact isWellFormed_written (by simp [fields])

theorem GraphDump.isWellFormed_encode (d : GraphDump) : d.encode.isWellFormed = true := by
  show (Value.object (written d.fields)).isWellFormed = true
  exact isWellFormed_written (by simp [fields])

/-- Both texts of a dump are texts of the same value. -/
theorem GraphDump.read?_toJson (d : GraphDump) (pretty : Bool) :
    Value.read? (d.toJson pretty) = some d.encode := by
  cases pretty with
  | true => exact Value.read?_toIndented d.isWellFormed_encode
  | false => exact Value.read?_toCompact d.isWellFormed_encode

/-- Whether the positions of all properties fit a machine word. -/
def Graph.FitsWords (g : Graph) : Prop :=
  ∀ n ∈ g.nodes, ∀ p ∈ n.properties, ∀ k ∈ p.order, k < Nat.pow 2 64

theorem Node.dump_properties (g : Graph) (n : Node) :
    (n.dump g).properties = n.properties.map (Property.dump g) := by
  unfold Node.dump Node.properties
  cases n.kind <;> rfl

theorem Graph.dump_fitsWords {g : Graph} (h : g.FitsWords) : g.dump.FitsWords := by
  intro ns hns t ht p hp
  obtain ⟨entry, -, rfl⟩ := List.mem_map.1 hns
  obtain ⟨id, -, hid⟩ := List.mem_filterMap.1 ht
  obtain ⟨n, hn, rfl⟩ := Option.map_eq_some_iff.1 hid
  rw [Node.dump_properties] at hp
  obtain ⟨q, hq, rfl⟩ := List.mem_map.1 hp
  exact h n (Array.mem_of_getElem? hn) q hq

/-- Both texts of the dump of a graph, whatever its strings are, are texts of the same value, and
are read back as the dump. -/
theorem Graph.readText_toJson_dump (g : Graph) (h : g.FitsWords) (pretty : Bool) :
    Value.read? (g.dump.toJson pretty) = some g.dump.encode ∧
      GraphDump.shape.readText (g.dump.toJson pretty) = .ok g.dump := by
  have hread := g.dump.read?_toJson pretty
  have hshape : GraphDump.shape .whole g.dump.encode = some g.dump :=
    g.dump.shape_encode (g.dump_fitsWords h)
  exact ⟨hread, Shape.readText_of_read? hread hshape⟩

/-- A class with a numbered property whose default has a quote, a line break and a control
character. -/
def quotedGraph : Graph :=
  let property : Property :=
    { Property.make 0 "Text" ⟨none, "text"⟩ (.primitive .string) with
      default := some "\"\\\n\x01é", order := some 3 }
  let node := Node.make "Item" "T" ⟨some "urn:t", "item"⟩ (.classLike { properties := [property] })
  ((({} : Graph).ensureNamespace "T" ⟨some "a.xsd", some "urn:t"⟩).allocate node).register 0

theorem quotedGraph_readText :
    quotedGraph.FitsWords ∧ quotedGraph.dump.typeCount = 1 ∧
      GraphDump.shape.readText (quotedGraph.dump.toJson true) = .ok quotedGraph.dump := by
  have hfits : quotedGraph.FitsWords := by
    unfold Graph.FitsWords
    decide
  exact ⟨hfits, by decide, (quotedGraph.readText_toJson_dump hfits true).2⟩

end XmlTypes
