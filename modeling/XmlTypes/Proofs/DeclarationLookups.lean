import XmlTypes.Proofs.Declarations
/-!
# Look-ups agree with a scan

The tables of an index are filled in one pass, and each keeps the first slot of every name. So a
look-up gives what a scan of all declarations, document after document, meets first
(`Index.found_eq`). The members of substitution groups come from the table of elements, which lists
the elements that are the first of their name, in the order of the scan (`values_elements`): a
member is one of these, and a later declaration of its name adds nothing.
-/

namespace XmlTypes

/-! ## First occurrences -/

section
variable {κ α β : Type} [DecidableEq κ]

/-- The items that are the first ones with their key, in order. -/
def firstsBy (key : α → κ) (items : List α) : List α :=
  items.eraseDupsBy fun a b => key a == key b

theorem firstsBy_cons (key : α → κ) (x : α) (items : List α) :
    firstsBy key (x :: items) = x :: firstsBy key (items.filter fun y => key y ≠ key x) := by
  simp only [firstsBy, List.eraseDupsBy_cons, beq_eq_false_iff_ne]

/-- Items that stand for others, with the keys of those. -/
theorem firstsBy_map (f : α → β) (key : β → κ) (items : List α) :
    firstsBy key (items.map f) = (firstsBy (key ∘ f) items).map f := by
  match items with
  | [] => rfl
  | x :: items =>
    rw [List.map_cons, firstsBy_cons, firstsBy_cons, List.map_cons, List.filter_map,
      firstsBy_map f key (items.filter _)]
    rfl
termination_by items.length
decreasing_by exact Nat.lt_succ_of_le (List.length_filter_le _ _)

/-- A scan for the key of an item stops at the first one with it. -/
theorem find?_of_mem_firstsBy {key : α → κ} {items : List α} {x : α} (h : x ∈ firstsBy key items) :
    items.find? (fun y => key y = key x) = some x := by
  match items with
  | [] => cases h
  | a :: items =>
    rw [firstsBy_cons, List.mem_cons] at h
    rcases h with rfl | h
    · rw [List.find?_cons_of_pos (by simp)]
    · have hfind := find?_of_mem_firstsBy h
      rw [List.find?_filter] at hfind
      have hne : key x ≠ key a := by
        have hx := List.find?_some hfind
        simp only [decide_eq_true_eq] at hx
        exact hx.1
      rw [List.find?_cons_of_neg (by simpa using hne.symm), ← hfind]
      -- What has the key of `x` is not left out by the filter.
      refine congrArg (fun p => items.find? p) (funext fun y => ?_)
      by_cases hy : key y = key x
      · simp [hy, hne]
      · simp [hy]
termination_by items.length
decreasing_by exact Nat.lt_succ_of_le (List.length_filter_le _ _)

theorem mem_of_mem_firstsBy {key : α → κ} {items : List α} {x : α} (h : x ∈ firstsBy key items) :
    x ∈ items :=
  List.mem_of_find?_eq_some (find?_of_mem_firstsBy h)

namespace Table

theorem contains_push (t : Table κ α) (k j : κ) (a : α) :
    (Table.mk (t.entries ++ [(k, a)])).contains j = (t.contains j || decide (k = j)) := by
  simp [contains]

/-- Filling a table further adds the first entry of each key that it lacks. -/
theorem entries_foldl_insertNew (es : List (κ × α)) : ∀ t : Table κ α,
    (es.foldl (fun t e => t.insertNew e.1 e.2) t).entries =
      t.entries ++ firstsBy Prod.fst (es.filter fun e => !t.contains e.1) := by
  induction es with
  | nil => intro t; exact (List.append_nil _).symm
  | cons e es ih =>
    intro t
    rw [List.foldl_cons, ih, insertNew]
    by_cases he : t.contains e.1 = true
    · rw [if_pos he, List.filter_cons_of_neg (by simp [he])]
    · rw [if_neg he, List.filter_cons_of_pos (by simpa using he), firstsBy_cons,
        List.append_assoc, List.filter_filter]
      simp only [contains_push, Bool.not_or, List.singleton_append]
      refine congrArg (fun p => t.entries ++ e :: firstsBy Prod.fst (es.filter p))
        (funext fun y => ?_)
      rw [Bool.and_comm]
      simp [eq_comm]

theorem entries_ofEntries (es : List (κ × α)) : (ofEntries es).entries = firstsBy Prod.fst es := by
  rw [ofEntries, entries_foldl_insertNew]
  simp [empty, contains]

end Table

end

namespace Schema.Index

variable {α : Type}

/-! ## Tables of an index -/

theorem document?_eq (set : SchemaSet) (location : String) :
    (ofSet set).document? location = set.documents.find? (·.location = location) := by
  have hentries : (set.documents.zipIdx.map fun x => (x.1.location, x.2)).find?
      (fun e => decide (e.1 = location)) = (set.documents.zipIdx.find? fun x =>
        decide (x.1.location = location)).map fun x => (x.1.location, x.2) := by
    rw [List.find?_map]
    rfl
  have hdocs : set.documents.find? (·.location = location) =
      (set.documents.zipIdx.find? fun x => decide (x.1.location = location)).map (·.1) := by
    conv => lhs; rw [← List.zipIdx_map_fst 0 set.documents, List.find?_map]
    rfl
  change ((Table.ofEntries _).get? location).bind (fun d => set.documents[d]?) = _
  rw [Table.get?_ofEntries, Table.get?, hentries, hdocs]
  cases h : set.documents.zipIdx.find? fun x => decide (x.1.location = location) with
  | none => rfl
  | some x => exact List.mk_mem_zipIdx_iff_getElem?.1 (List.mem_of_find?_eq_some h)

/-- Where every item has a name, a look-up is for that. -/
theorem found_named_eq (docs : List Document) (items : Document → List α) (name : α → QName)
    (n : QName) :
    ((Table.ofEntries (entriesOf docs items fun x => some (name x))).get? n).bind (at? docs items) =
      (globals docs items).find? fun g => name g.definition = n := by
  simpa only [Option.some.injEq] using found_eq docs items (fun x => some (name x)) n

/-- The elements that are the first ones of their name, by document and then by position. -/
def firstElements (docs : List Document) : List (Global ElementDecl) :=
  firstsBy (·.definition.name) (globals docs Document.elements)

theorem element?_of_mem_firstElements {set : SchemaSet} {g : Global ElementDecl}
    (h : g ∈ firstElements set.documents) : (ofSet set).element? g.definition.name = some g := by
  rw [element?_ofSet]
  exact find?_of_mem_firstsBy h

/-- The table of elements lists the first ones of their names. -/
theorem values_elements (set : SchemaSet) :
    (ofSet set).elements.values = (firstElements set.documents).map (·.slot) := by
  have hentries : entriesOf set.documents Document.elements (fun e => some e.name) =
      (globals set.documents Document.elements).map fun g => (g.definition.name, g.slot) := by
    simp only [entriesOf_eq, Option.map_some, List.filterMap_eq_map']
  change ((Table.ofEntries _).entries).map Prod.snd = _
  rw [Table.entries_ofEntries, hentries, firstsBy_map, List.map_map]
  rfl

theorem substitutionMembers_eq (set : SchemaSet) (head : QName) :
    (ofSet set).substitutionMembers head =
      (firstElements set.documents).filter (·.definition.substitutionGroup = some head) := by
  have hat {g : Global ElementDecl} (hg : g ∈ firstElements set.documents) :
      at? set.documents Document.elements g.slot = some g :=
    at?_of_mem_globals (mem_of_mem_firstsBy hg)
  have hslots : (((ofSet set).substitutions.get? head).getD []) =
      ((firstElements set.documents).map (·.slot)).filter fun s =>
        (at? set.documents Document.elements s).bind (·.definition.substitutionGroup) =
          some head := by
    rw [← values_elements]
    exact getD_substitutionsOf set.documents (ofSet set).elements head
  change (((ofSet set).substitutions.get? head).getD []).filterMap
    (at? set.documents Document.elements) = _
  rw [hslots, List.filter_map, List.filterMap_map]
  have hfilter : (firstElements set.documents).filter ((fun s => decide
      ((at? set.documents Document.elements s).bind (·.definition.substitutionGroup) = some head)) ∘
        (·.slot)) =
      (firstElements set.documents).filter (·.definition.substitutionGroup = some head) :=
    List.filter_congr fun g hg => by simp only [Function.comp, hat hg, Option.bind_some]
  rw [hfilter]
  have hsome : ∀ g ∈ (firstElements set.documents).filter
      (·.definition.substitutionGroup = some head),
      (at? set.documents Document.elements ∘ (·.slot)) g = some g :=
    fun g hg => hat (List.mem_of_mem_filter hg)
  rw [List.filterMap_congr hsome, List.filterMap_some]

theorem mem_substitutionMembers_iff {set : SchemaSet} {head : QName} {g : Global ElementDecl} :
    g ∈ (ofSet set).substitutionMembers head ↔
      (ofSet set).element? g.definition.name = some g ∧
        g.definition.substitutionGroup = some head := by
  constructor
  · intro h
    rw [substitutionMembers_eq, List.mem_filter, decide_eq_true_eq] at h
    exact ⟨element?_of_mem_firstElements h.1, h.2⟩
  · rintro ⟨hg, hhead⟩
    exact mem_substitutionMembers hg hhead

/-- Every look-up gives the first declaration of the name, by document and then by position, or
nothing if there is none. The members of a substitution group are those elements, among the first
ones of their names, that name its head. -/
theorem lookups_agree_with_scans (set : SchemaSet) :
    let ix := ofSet set
    let docs := set.documents
    (∀ n, ix.type? n = (globals docs Document.types).find? (·.definition.name = some n)) ∧
      (∀ n, ix.element? n = (globals docs Document.elements).find? (·.definition.name = n)) ∧
      (∀ n, ix.group? n = (globals docs Document.groups).find? (·.definition.name = n)) ∧
      (∀ n, ix.attributeGroup? n =
        (globals docs Document.attributeGroups).find? (·.definition.name = n)) ∧
      (∀ n, ix.attribute? n = (globals docs Document.attributes).find? (·.definition.name = n)) ∧
      (∀ location, ix.document? location = docs.find? (·.location = location)) ∧
      ∀ head,
        ix.substitutionMembers head =
          (firstElements docs).filter (·.definition.substitutionGroup = some head) ∧
        ∀ g, g ∈ ix.substitutionMembers head ↔
          ix.element? g.definition.name = some g ∧ g.definition.substitutionGroup = some head := by
  intro ix docs
  exact ⟨found_eq docs Document.types TypeDefinition.name, element?_ofSet set,
    found_named_eq docs Document.groups GroupDef.name,
    found_named_eq docs Document.attributeGroups AttributeGroupDef.name,
    found_named_eq docs Document.attributes AttributeDecl.name, document?_eq set,
    fun head => ⟨substitutionMembers_eq set head, fun g => mem_substitutionMembers_iff⟩⟩

end Schema.Index

end XmlTypes
