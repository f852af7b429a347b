import XmlTypes.Build.State
import XmlTypes.Proofs.Tables
import XmlTypes.Schema.Order
/-!
# Where declarations are found

The index of a schema finds the first declaration of each name, and it finds each declaration under
its own name. The order of documents leaves none of them out.
-/

namespace XmlTypes.Schema

namespace Index

variable {α : Type}

/-- A declaration is found under the name it declares, and a document at its location. -/
structure Lawful (ix : Index) : Prop where
  types : ∀ n g, ix.type? n = some g → g.definition.name = some n
  elements : ∀ n g, ix.element? n = some g → g.definition.name = n
  attributes : ∀ n g, ix.attribute? n = some g → g.definition.name = n
  groups : ∀ n g, ix.group? n = some g → g.definition.name = n
  attributeGroups : ∀ n g, ix.attributeGroup? n = some g → g.definition.name = n
  locations : ∀ l d, ix.document? l = some d → d.location = l

theorem at?_eq_some {docs : List Document} {items : Document → List α} {s : Slot} {g : Global α} :
    at? docs items s = some g ↔
      docs[s.document]? = some g.document ∧ (items g.document)[s.item]? = some g.definition ∧
        g.slot = s := by
  obtain ⟨x, doc, t⟩ := g
  simp only [at?, Option.pure_def, Option.bind_eq_bind, Option.bind_eq_some_iff, Option.some.injEq,
    Global.mk.injEq]
  constructor
  · rintro ⟨_, hd, _, hx, rfl, rfl, rfl⟩
    exact ⟨hd, hx, rfl⟩
  · rintro ⟨hd, hx, rfl⟩
    exact ⟨doc, hd, x, hx, rfl, rfl, rfl⟩

theorem mem_of_at? {docs : List Document} {items : Document → List α} {s : Slot} {g : Global α}
    (h : at? docs items s = some g) : g.document ∈ docs ∧ g.definition ∈ items g.document := by
  obtain ⟨hd, hx, -⟩ := at?_eq_some.1 h
  exact ⟨List.mem_of_getElem? hd, List.mem_of_getElem? hx⟩

theorem mem_of_found {docs : List Document} {items : Document → List α} {table : Table QName Slot}
    {n : QName} {g : Global α} (h : (table.get? n).bind (at? docs items) = some g) :
    g.document ∈ docs ∧ g.definition ∈ items g.document := by
  obtain ⟨_, -, hg⟩ := Option.bind_eq_some_iff.1 h
  exact mem_of_at? hg

theorem mem_entriesOf {docs : List Document} {items : Document → List α} {name : α → Option QName}
    {q : QName} {s : Slot} :
    (q, s) ∈ entriesOf docs items name ↔
      ∃ g, at? docs items s = some g ∧ name g.definition = some q := by
  obtain ⟨d, i⟩ := s
  simp only [entriesOf, List.mem_flatMap, List.mem_filterMap, Option.map_eq_some_iff,
    Prod.mk.injEq, Slot.mk.injEq, Prod.exists, List.mk_mem_zipIdx_iff_getElem?]
  constructor
  · rintro ⟨doc, d', hd, x, i', hx, _, hq, rfl, rfl, rfl⟩
    exact ⟨⟨x, doc, ⟨d', i'⟩⟩, at?_eq_some.2 ⟨hd, hx, rfl⟩, hq⟩
  · rintro ⟨g, hg, hq⟩
    obtain ⟨hd, hx, -⟩ := at?_eq_some.1 hg
    exact ⟨_, d, hd, _, i, hx, q, hq, rfl, rfl, rfl⟩

theorem name_of_found {docs : List Document} {items : Document → List α} {name : α → Option QName}
    {n : QName} {g : Global α}
    (h : ((Table.ofEntries (entriesOf docs items name)).get? n).bind (at? docs items) = some g) :
    name g.definition = some n := by
  obtain ⟨s, hs, hg⟩ := Option.bind_eq_some_iff.1 h
  obtain ⟨g', hg', hn⟩ := mem_entriesOf.1 (Table.mem_of_get?_ofEntries hs)
  rw [hg, Option.some.injEq] at hg'
  rw [hg', hn]

/-- What is found stands at its slot, which is in the table. -/
theorem slot_of_found {docs : List Document} {items : Document → List α} {table : Table QName Slot}
    {n : QName} {g : Global α} (h : (table.get? n).bind (at? docs items) = some g) :
    table.get? n = some g.slot ∧ docs[g.slot.document]? = some g.document ∧
      (items g.document)[g.slot.item]? = some g.definition := by
  obtain ⟨s, hs, hg⟩ := Option.bind_eq_some_iff.1 h
  obtain ⟨hd, hx, rfl⟩ := at?_eq_some.1 hg
  exact ⟨hs, hd, hx⟩

theorem lawful_ofSet (set : SchemaSet) : (ofSet set).Lawful where
  types _ _ h := name_of_found h
  elements _ _ h := Option.some.inj (name_of_found h)
  attributes _ _ h := Option.some.inj (name_of_found h)
  groups _ _ h := Option.some.inj (name_of_found h)
  attributeGroups _ _ h := Option.some.inj (name_of_found h)
  locations l doc h := by
    obtain ⟨d, hd, hdoc⟩ := Option.bind_eq_some_iff.1 h
    obtain ⟨⟨doc', d'⟩, hmem, he⟩ := List.mem_map.1 (Table.mem_of_get?_ofEntries hd)
    obtain ⟨rfl, rfl⟩ := Prod.mk.inj he
    exact congrArg Document.location
      (Option.some.inj (hdoc.symm.trans (List.mk_mem_zipIdx_iff_getElem?.1 hmem)))

section
variable {ix : Index} {n : QName} {doc : Document} {d i : Nat}

theorem at?_of_element? {g : Global ElementDecl} (h : ix.element? n = some g) :
    at? ix.documents Document.elements g.slot = some g :=
  at?_eq_some.2 ⟨(slot_of_found h).2.1, (slot_of_found h).2.2, rfl⟩

theorem mem_documents_of_element? {g : Global ElementDecl} (h : ix.element? n = some g) :
    g.document ∈ ix.documents :=
  (mem_of_at? (at?_of_element? h)).1

theorem mem_documents_of_document? {location : String} (h : ix.document? location = some doc) :
    doc ∈ ix.documents := by
  obtain ⟨d, -, hd⟩ := Option.bind_eq_some_iff.1 h
  exact List.mem_of_getElem? hd

/-- A global element is known by where it stands. -/
theorem element?_eq_of_slot {m : QName} {g g' : Global ElementDecl} (h : ix.element? n = some g)
    (h' : ix.element? m = some g') (hs : g.slot = g'.slot) : g = g' := by
  have hg := at?_of_element? h
  rw [hs, at?_of_element? h'] at hg
  exact (Option.some.inj hg).symm

theorem type?_of_slot {t : TypeDefinition} (h : ix.types.get? n = some ⟨d, i⟩)
    (hd : ix.documents[d]? = some doc) (ht : doc.types[i]? = some t) :
    ix.type? n = some ⟨t, doc, ⟨d, i⟩⟩ :=
  Option.bind_eq_some_iff.2 ⟨_, h, at?_eq_some.2 ⟨hd, ht, rfl⟩⟩

theorem element?_of_slot {e : ElementDecl} (h : ix.elements.get? n = some ⟨d, i⟩)
    (hd : ix.documents[d]? = some doc) (he : doc.elements[i]? = some e) :
    ix.element? n = some ⟨e, doc, ⟨d, i⟩⟩ :=
  Option.bind_eq_some_iff.2 ⟨_, h, at?_eq_some.2 ⟨hd, he, rfl⟩⟩

end

/-! ## The first declaration -/

/-- The items of all documents, in order. -/
def globals (docs : List Document) (items : Document → List α) : List (Global α) :=
  docs.zipIdx.flatMap fun (doc, d) => (items doc).zipIdx.map fun (x, i) => ⟨x, doc, ⟨d, i⟩⟩

theorem at?_of_mem_globals {docs : List Document} {items : Document → List α} {g : Global α}
    (h : g ∈ globals docs items) : at? docs items g.slot = some g := by
  simp only [globals, List.mem_flatMap, List.mem_map, Prod.exists,
    List.mk_mem_zipIdx_iff_getElem?] at h
  obtain ⟨doc, d, hd, x, i, hx, rfl⟩ := h
  exact at?_eq_some.2 ⟨hd, hx, rfl⟩

theorem mem_globals_of_at? {docs : List Document} {items : Document → List α} {s : Slot}
    {g : Global α} (h : at? docs items s = some g) : g ∈ globals docs items := by
  obtain ⟨hd, hx, rfl⟩ := at?_eq_some.1 h
  simp only [globals, List.mem_flatMap, List.mem_map, Prod.exists, List.mk_mem_zipIdx_iff_getElem?]
  exact ⟨g.document, g.slot.document, hd, g.definition, g.slot.item, hx, rfl⟩

theorem length_globals (docs : List Document) (items : Document → List α) :
    (globals docs items).length = (docs.flatMap items).length := by
  simp only [globals, List.length_flatMap, List.length_map, List.length_zipIdx]
  conv => rhs; rw [← List.zipIdx_map_fst 0 docs, List.map_map]
  rfl

theorem entriesOf_eq (docs : List Document) (items : Document → List α) (name : α → Option QName) :
    entriesOf docs items name =
      (globals docs items).filterMap fun g => (name g.definition).map fun q => (q, g.slot) := by
  simp only [entriesOf, globals, List.filterMap_flatMap, List.filterMap_map, Function.comp_def]

/-- A declaration is found where it stands first. -/
theorem found_eq (docs : List Document) (items : Document → List α) (name : α → Option QName)
    (n : QName) :
    ((Table.ofEntries (entriesOf docs items name)).get? n).bind (at? docs items) =
      (globals docs items).find? fun g => name g.definition = some n := by
  -- Under a filter map the search asks what the search for the declaration asks.
  have hany : (fun g : Global α => Option.any (fun e : QName × Slot => decide (e.1 = n))
      ((name g.definition).map fun q => (q, g.slot))) =
      fun g => decide (name g.definition = some n) := by
    funext g
    cases name g.definition <;> simp
  rw [Table.get?_ofEntries, entriesOf_eq, Table.get?, List.find?_filterMap, hany]
  cases h : (globals docs items).find? fun g => decide (name g.definition = some n) with
  | none => rfl
  | some g =>
    have hn : name g.definition = some n := by simpa using List.find?_some h
    simp [hn, at?_of_mem_globals (List.mem_of_find?_eq_some h)]

/-- The declared types of a schema in document order, each with its document. -/
def declaredTypes (set : SchemaSet) : List (Document × TypeDefinition) :=
  set.documents.flatMap fun doc => doc.types.map fun t => (doc, t)

theorem globals_types (docs : List Document) :
    (globals docs Document.types).map (fun g => (g.document, g.definition)) =
      docs.flatMap fun doc => doc.types.map fun t => (doc, t) := by
  simp only [globals, List.map_flatMap, List.map_map, Function.comp_def]
  have hinner (doc : Document) : (doc.types.zipIdx.map fun x => (doc, x.1)) =
      doc.types.map fun t => (doc, t) := by
    conv => rhs; rw [← List.zipIdx_map_fst 0 doc.types, List.map_map]
    rfl
  simp only [hinner]
  conv => rhs; rw [← List.zipIdx_map_fst 0 docs, List.flatMap_map]

/-- A global type is found where it is declared first. -/
theorem type?_ofSet (set : SchemaSet) (n : QName) :
    ((ofSet set).type? n).map (fun g => (g.document, g.definition)) =
      (declaredTypes set).find? fun x => x.2.name = some n := by
  rw [declaredTypes, ← globals_types, List.find?_map]
  exact congrArg _ (found_eq set.documents Document.types TypeDefinition.name n)

/-- So is a global element. -/
theorem element?_ofSet (set : SchemaSet) (n : QName) :
    (ofSet set).element? n =
      (globals set.documents Document.elements).find? (·.definition.name = n) := by
  refine (found_eq set.documents Document.elements (fun e => some e.name) n).trans ?_
  simp only [Option.some.injEq]

/-! ## Members of substitution groups -/

/-- The table of substitutions has under each head the elements that name it, in order. -/
theorem getD_substitutionsOf (docs : List Document) (elements : Table QName Slot) (head : QName) :
    ((substitutionsOf docs elements).get? head).getD [] = elements.values.filter fun s =>
      (at? docs Document.elements s).bind (·.definition.substitutionGroup) = some head :=
  Table.getD_foldl_gather (fun t s j h => by simp only [h]) (fun t s h => by simp only [h])
    elements.values {} head

/-- An element that counts is a member of the group that it names. -/
theorem mem_substitutionMembers {set : SchemaSet} {n head : QName} {g : Global ElementDecl}
    (hg : (ofSet set).element? n = some g) (hhead : g.definition.substitutionGroup = some head) :
    g ∈ (ofSet set).substitutionMembers head := by
  have hat : at? set.documents Document.elements g.slot = some g := at?_of_element? hg
  have hslot : g.slot ∈
      ((substitutionsOf set.documents (ofSet set).elements).get? head).getD [] := by
    rw [getD_substitutionsOf, List.mem_filter, hat, Option.bind_some, hhead]
    exact ⟨Table.mem_values_of_get? (slot_of_found hg).1, decide_eq_true rfl⟩
  exact List.mem_filterMap.2 ⟨g.slot, hslot, hat⟩

end Index

/-! ## The order of documents -/

section
variable {dependencies : Nat → List Nat}

/-- What a visit does to a walk: documents are entered and left for good, what is entered newly is
left, and nothing else is. So nothing is left twice. -/
structure Walk.Visits (w w' : Walk) : Prop where
  entered : w.entered ⊆ w'.entered
  left : w.left ⊆ w'.left
  done : ∀ j ∈ w'.entered, j ∈ w.entered ∨ j ∈ w'.left
  fresh : ∀ j ∈ w'.left, j ∈ w.left ∨ j ∈ w'.entered ∧ j ∉ w.entered
  nodup : w.left ⊆ w.entered → w.left.Nodup → w'.left.Nodup

theorem Walk.Visits.refl (w : Walk) : w.Visits w :=
  ⟨List.Subset.refl _, List.Subset.refl _, fun _ => .inl, fun _ => .inl, fun _ => id⟩

theorem Walk.Visits.left_subset {v w : Walk} (h : v.Visits w) (hv : v.left ⊆ v.entered) :
    w.left ⊆ w.entered := by
  intro j hj
  rcases h.fresh j hj with hj | hj
  · exact h.entered (hv hj)
  · exact hj.1

theorem Walk.Visits.trans {u v w : Walk} (h : u.Visits v) (h' : v.Visits w) : u.Visits w where
  entered := List.Subset.trans h.entered h'.entered
  left := List.Subset.trans h.left h'.left
  done j hj := by
    rcases h'.done j hj with hj | hj
    · exact (h.done j hj).imp_right fun hj => h'.left hj
    · exact .inr hj
  fresh j hj := by
    rcases h'.fresh j hj with hj | ⟨hj, hv⟩
    · exact (h.fresh j hj).imp_right fun hj => ⟨h'.entered hj.1, hj.2⟩
    · exact .inr ⟨hj, fun hu => hv (h.entered hu)⟩
  nodup hu hn := h'.nodup (h.left_subset hu) (h.nodup hu hn)

theorem Walk.foldl_visits {f : Walk → Nat → Walk} (hf : ∀ (w : Walk) (i : Nat), w.Visits (f w i))
    (is : List Nat) (w : Walk) : w.Visits (is.foldl f w) :=
  List.foldlRecOn (motive := w.Visits) _ _ (.refl w) fun w' h i _ => h.trans (hf w' i)

theorem Walk.visit_visits (fuel : Nat) :
    ∀ (w : Walk) (i : Nat), w.Visits (w.visit dependencies fuel i) := by
  induction fuel with
  | zero => exact fun w _ => .refl w
  | succ fuel ih =>
    intro w i
    unfold visit
    split
    · exact .refl w
    · rename_i hnew
      rw [List.contains_iff_mem] at hnew
      have h := foldl_visits ih (dependencies i) { w with entered := i :: w.entered }
      refine ⟨fun j hj => h.entered (by simp [hj]), fun j hj => by simp [h.left hj], fun j hj => ?_,
        fun j hj => ?_, fun hsub hn => ?_⟩
      · -- The document itself is left once its dependencies are visited.
        rcases h.done j hj with hj | hj
        · rcases List.mem_cons.1 hj with rfl | hj
          · exact .inr (by simp)
          · exact .inl hj
        · exact .inr (by simp [hj])
      · rcases List.mem_append.1 hj with hj | hj
        · exact (h.fresh j hj).imp_right fun hj => ⟨hj.1, fun hw => hj.2 (by simp [hw])⟩
        · obtain rfl := List.mem_singleton.1 hj
          exact .inr ⟨h.entered (by simp), hnew⟩
      · -- It is not left before that, as it is entered already.
        have hleft := h.nodup (fun j hj => by simp [hsub hj]) hn
        refine List.nodup_append.2 ⟨hleft, List.pairwise_singleton _ i, ?_⟩
        rintro j hj _ hi rfl
        obtain rfl := List.mem_singleton.1 hi
        rcases h.fresh j hj with hj | hj
        · exact hnew (hsub hj)
        · exact hj.2 (by simp)

/-- A visit with fuel enters its document. -/
theorem Walk.mem_visit (fuel : Nat) (w : Walk) (i : Nat) :
    i ∈ (w.visit dependencies (fuel + 1) i).entered := by
  unfold visit
  split
  · rename_i h
    simpa using h
  · exact (foldl_visits (visit_visits fuel) _ _).entered (by simp)

theorem Walk.mem_foldl_visit (fuel : Nat) (is : List Nat) :
    ∀ w : Walk, ∀ i ∈ is, i ∈ (is.foldl (visit dependencies (fuel + 1)) w).entered := by
  induction is with
  | nil => intro _ i hi; cases hi
  | cons j is ih =>
    intro w i hi
    rcases List.mem_cons.1 hi with rfl | hi
    · exact (foldl_visits (visit_visits (fuel + 1)) is _).entered (mem_visit fuel w i)
    · exact ih _ i hi

end

/-- Every document has its place in the order. -/
theorem Index.mem_buildOrder {ix : Index} {d : Nat} (h : d < ix.documents.length) :
    d ∈ ix.buildOrder := by
  have hv := Walk.foldl_visits (f := Walk.visit ix.dependencies (ix.documents.length + 1))
    (Walk.visit_visits _) (List.range ix.documents.length) {}
  rcases hv.done d (Walk.mem_foldl_visit _ _ _ d (List.mem_range.2 h)) with h | h
  · cases h
  · exact h

/-- No document has two. -/
theorem Index.nodup_buildOrder (ix : Index) : ix.buildOrder.Nodup :=
  (Walk.foldl_visits (f := Walk.visit ix.dependencies (ix.documents.length + 1))
    (Walk.visit_visits _) (List.range ix.documents.length) {}).nodup (List.Subset.refl _)
    List.nodup_nil

end XmlTypes.Schema
