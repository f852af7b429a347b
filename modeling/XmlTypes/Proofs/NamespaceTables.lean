import Mathlib.Data.List.Perm.Basic
import Mathlib.Order.Bounds.Basic
import XmlTypes.Dump.OfGraph
import XmlTypes.Proofs.Closure
import XmlTypes.Proofs.FreshNames
import XmlTypes.Proofs.TypeNames
/-!
# The tables of a graph

Names stand in two places: a node has one, and the table of its namespace has an entry under it. A
new node gets both, and making names unique changes both. So in every graph that is built each node
has exactly one entry in all the tables, in the namespace and under the name that it has itself,
and there are no others (`Graph.Catalogued`); a dump lists each node once.
-/

namespace XmlTypes

/-! ## Tables with distinct keys -/

namespace Table

variable {κ α : Type} [DecidableEq κ] {t : Table κ α}

theorem keys_modify (t : Table κ α) (k : κ) (f : α → α) : (t.modify k f).keys = t.keys := by
  simp only [keys, modify, List.map_map]
  refine List.map_congr_left fun e _ => ?_
  simp only [Function.comp]
  split <;> rfl

theorem nodup_push (h : t.keys.Nodup) {k : κ} (hk : ¬ t.contains k = true) (a : α) :
    (Table.mk (t.entries ++ [(k, a)])).keys.Nodup := by
  rw [contains_iff_mem_keys] at hk
  rw [keys, List.map_append, List.nodup_append]
  refine ⟨h, List.nodup_singleton _, fun j hj j' hj' heq => hk ?_⟩
  obtain rfl := List.mem_singleton.1 hj'
  exact heq ▸ hj

theorem nodup_insertNew (h : t.keys.Nodup) (k : κ) (a : α) : (t.insertNew k a).keys.Nodup := by
  unfold insertNew
  split
  · exact h
  · exact nodup_push h ‹_› a

theorem nodup_insert (h : t.keys.Nodup) (k : κ) (a : α) : (t.insert k a).keys.Nodup := by
  unfold insert
  split
  · rw [keys_modify]
    exact h
  · exact nodup_push h ‹_› a

/-- Among distinct keys every entry is the one that is found. -/
theorem mem_entries_iff (h : t.keys.Nodup) {k : κ} {a : α} :
    (k, a) ∈ t.entries ↔ t.get? k = some a := by
  rw [get?, Option.map_eq_some_iff]
  constructor
  · intro hmem
    exact ⟨(k, a), (find?_key_iff h).2 ⟨hmem, rfl⟩, rfl⟩
  · rintro ⟨e, he, rfl⟩
    obtain ⟨hmem, rfl⟩ := (find?_key_iff h).1 he
    exact hmem

/-- Among distinct keys there is only one entry to take out. -/
theorem eraseIdx_findIdx? {es : List (κ × α)} (h : (es.map (·.1)).Nodup) {k : κ} {i : Nat}
    (hi : es.findIdx? (fun e => decide (e.1 = k)) = some i) :
    es.eraseIdx i = es.filter fun e => decide (e.1 ≠ k) := by
  induction es generalizing i with
  | nil => cases hi
  | cons e es ih =>
    rw [List.map_cons, List.nodup_cons] at h
    rw [List.findIdx?_cons] at hi
    by_cases he : e.1 = k
    · rw [if_pos (decide_eq_true he)] at hi
      obtain rfl := Option.some.inj hi
      rw [List.filter_cons_of_neg (by simp [he]), List.eraseIdx_cons_zero, eq_comm,
        List.filter_eq_self]
      intro d hd
      rw [decide_eq_true_iff]
      intro hk
      exact h.1 (List.mem_map.2 ⟨d, hd, hk.trans he.symm⟩)
    · rw [if_neg (by simpa using he)] at hi
      obtain ⟨j, hj, rfl⟩ := Option.map_eq_some_iff.1 hi
      rw [List.eraseIdx_cons_succ, ih h.2 hj, List.filter_cons_of_pos (by simpa using he)]

/-- Up to their order, the entries after a renaming are the new one and those of other keys. -/
theorem perm_rename (h : t.keys.Nodup) {old : κ} (hold : t.contains old = true) (new : κ) (a : α) :
    (t.rename old new a).entries.Perm
      ((new, a) :: t.entries.filter fun e => decide (e.1 ≠ new) && decide (e.1 ≠ old)) := by
  unfold rename
  split
  · rename_i hnone
    obtain ⟨e, he, hkey⟩ := List.any_eq_true.1 hold
    rw [List.findIdx?_eq_none_iff.1 hnone e he] at hkey
    cases hkey
  · rename_i i hi
    dsimp only
    rw [eraseIdx_findIdx? h hi, List.filter_filter]
    refine List.perm_middle.trans ?_
    rw [List.take_append_drop]

theorem nodup_rename (h : t.keys.Nodup) {old : κ} (hold : t.contains old = true) (new : κ) (a : α) :
    (t.rename old new a).keys.Nodup := by
  have hperm := (perm_rename h hold new a).map (·.1)
  rw [keys, hperm.nodup_iff, List.map_cons, List.nodup_cons]
  refine ⟨fun hnew => ?_, h.sublist (List.filter_sublist.map _)⟩
  obtain ⟨e, he, hkey⟩ := List.mem_map.1 hnew
  have hne := (List.mem_filter.1 he).2
  simp [hkey] at hne

/-- A renaming moves a value from one key to another. -/
theorem get?_rename (h : t.keys.Nodup) {old : κ} (hold : t.contains old = true) (new k : κ) (a : α) :
    (t.rename old new a).get? k =
      if k = new then some a else if k = old then none else t.get? k := by
  have hiff (b : α) : (t.rename old new a).get? k = some b ↔
      (k, b) = (new, a) ∨ (k, b) ∈ t.entries ∧ k ≠ new ∧ k ≠ old := by
    rw [← mem_entries_iff (nodup_rename h hold new a), (perm_rename h hold new a).mem_iff,
      List.mem_cons, List.mem_filter]
    simp
  refine Option.ext fun b => (hiff b).trans ?_
  by_cases hnew : k = new
  · simp [hnew, eq_comm]
  · by_cases hk : k = old
    · subst hk
      simp [hnew]
    · simp [hnew, hk, mem_entries_iff h]

/-- The same keys, with something else under each. -/
theorem get?_map {β : Type} (t : Table κ α) (f : κ → α → β) (k : κ) :
    (Table.mk (t.entries.map fun e => (e.1, f e.1 e.2))).get? k = (t.get? k).map (f k) := by
  simp only [get?, List.find?_map, Function.comp_def, Option.map_map]
  cases he : t.entries.find? fun e => decide (e.1 = k) with
  | none => rfl
  | some e =>
    have hkey : e.1 = k := by simpa using List.find?_some he
    simp [hkey]

end Table

namespace Graph

variable {g g' : Graph} {id : NodeId} {n : Node}

/-! ## Tables that agree with their nodes -/

/-- Each namespace stands once in the tables, and each name once in it; an entry is that of a node
with this namespace and this name. There may be nodes without an entry. -/
structure Indexed (g : Graph) : Prop where
  spaces : g.namespaces.keys.Nodup
  names : ∀ e ∈ g.namespaces.entries, e.2.types.keys.Nodup
  entries : ∀ e ∈ g.namespaces.entries, ∀ x ∈ e.2.types.entries,
    ∃ n, g.node? x.2 = some n ∧ n.space = e.1 ∧ n.name = x.1

/-- A table lists a node under its name only, so once. -/
theorem Indexed.values_nodup (h : g.Indexed) {e : String × Namespace}
    (he : e ∈ g.namespaces.entries) : e.2.types.values.Nodup := by
  refine List.Nodup.map_on (fun a ha b hb hab => ?_) (List.Nodup.of_map _ (h.names e he))
  obtain ⟨m, hm, -, hname⟩ := h.entries e he a ha
  obtain ⟨n, hn, -, hname'⟩ := h.entries e he b hb
  obtain rfl := Option.some.inj (hm.symm.trans (hab ▸ hn))
  exact Prod.ext (hname.symm.trans hname') hab

/-- A node stands in the table of its own namespace only. -/
theorem Indexed.space_eq (h : g.Indexed) {e : String × Namespace}
    (he : e ∈ g.namespaces.entries) (hid : id ∈ e.2.types.values) {n : Node}
    (hn : g.node? id = some n) : n.space = e.1 := by
  obtain ⟨x, hx, rfl⟩ := List.mem_map.1 hid
  obtain ⟨m, hm, hspace, -⟩ := h.entries e he x hx
  obtain rfl := Option.some.inj (hn.symm.trans hm)
  exact hspace

theorem Indexed.listed_nodup (h : g.Indexed) : g.listed.Nodup := by
  rw [listed, Table.values, List.flatMap_map, List.nodup_flatMap]
  refine ⟨fun e he => h.values_nodup he, ?_⟩
  refine (List.pairwise_map.1 h.spaces).imp_of_mem fun {a b} ha hb hne id hid hid' => hne ?_
  obtain ⟨x, hx, hxid⟩ := List.mem_map.1 hid
  obtain ⟨n, hn, -⟩ := h.entries a ha x hx
  rw [hxid] at hn
  exact (h.space_eq ha hid hn).symm.trans (h.space_eq hb hid' hn)

/-- What is listed stands in one of the tables. -/
theorem mem_listed : id ∈ g.listed ↔
    ∃ e ∈ g.namespaces.entries, id ∈ e.2.types.values := by
  rw [listed, Table.values, List.flatMap_map]
  exact List.mem_flatMap

theorem Indexed.node? (h : g.Indexed) (hid : id ∈ g.listed) : ∃ n, g.node? id = some n := by
  obtain ⟨e, he, hid⟩ := mem_listed.1 hid
  obtain ⟨x, hx, rfl⟩ := List.mem_map.1 hid
  obtain ⟨n, hn, -⟩ := h.entries e he x hx
  exact ⟨n, hn⟩

/-! ## Tables that list every node -/

/-- Where a node is. -/
abbrev place (n : Node) : String × String := (n.name, n.space)

/-- Each namespace stands once in the tables, with some nodes, and each name once in it; every node
has its entry, and there are no others. -/
structure Catalogued (g : Graph) : Prop where
  spaces : g.namespaces.keys.Nodup
  names : ∀ space ns, g.namespaces.get? space = some ns → ns.types.keys.Nodup
  inhabited : ∀ space ns, g.namespaces.get? space = some ns → ns.types.entries ≠ []
  tabled : g.Tabled

/-- The tables say of a node only where it is. -/
theorem Catalogued.alike (h : g.Catalogued) (halike : Alike place g g')
    (hspaces : g'.namespaces = g.namespaces) : g'.Catalogued where
  spaces := hspaces ▸ h.spaces
  names := hspaces ▸ h.names
  inhabited := hspaces ▸ h.inhabited
  tabled space name id := by
    have hfind : g'.find? space name = g.find? space name := by rw [find?, find?, hspaces]
    rw [hfind, h.tabled]
    constructor
    · rintro ⟨n, hn, rfl, rfl⟩
      obtain ⟨m, hm, hplace⟩ := halike.symm.exists_node hn
      exact ⟨m, hm, (congrArg Prod.snd hplace).symm, (congrArg Prod.fst hplace).symm⟩
    · rintro ⟨n, hn, rfl, rfl⟩
      obtain ⟨m, hm, hplace⟩ := halike.exists_node hn
      exact ⟨m, hm, (congrArg Prod.snd hplace).symm, (congrArg Prod.fst hplace).symm⟩

/-- The namespace of a node lists it. -/
theorem Catalogued.exists_types (h : g.Catalogued) (hn : g.node? id = some n) :
    ∃ ns, g.namespaces.get? n.space = some ns ∧ ns.types.get? n.name = some id :=
  Option.bind_eq_some_iff.1 ((h.tabled n.space n.name id).2 ⟨n, hn, rfl, rfl⟩)

theorem namespaces_rename (hn : g.node? id = some n) (name : String) :
    (g.rename id name).namespaces =
      g.namespaces.modify n.space fun ns => { ns with types := ns.types.rename n.name name id } := by
  rw [rename, hn]
  rfl

theorem node?_rename (hn : g.node? id = some n) (name : String) (j : NodeId) :
    (g.rename id name).node? j = if j = id then some { n with name } else g.node? j := by
  rw [rename, hn]
  dsimp only
  rw [node?_congr (nodes_modifyTypes _ _), node?_modify]
  split
  · rename_i hj
    rw [hj, hn]
    rfl
  · rfl

/-- A renaming to a name that no node has moves one entry along with its node. -/
theorem Catalogued.rename (h : g.Catalogued) (hn : g.node? id = some n) {name : String}
    (hfresh : ∀ j m, g.node? j = some m → m.name ≠ name) : (g.rename id name).Catalogued := by
  obtain ⟨ns, hns, htypes⟩ := h.exists_types hn
  have hold : ns.types.contains n.name = true := Table.contains_iff.2 ⟨id, htypes⟩
  have hnames := h.names _ ns hns
  have hspace (space : String) : (g.rename id name).namespaces.get? space =
      if space = n.space then some { ns with types := ns.types.rename n.name name id }
      else g.namespaces.get? space := by
    rw [namespaces_rename hn, Table.get?_modify]
    split
    · rename_i hspace
      rw [hspace, hns]
      rfl
    · rfl
  constructor
  case spaces =>
    rw [namespaces_rename hn, Table.keys_modify]
    exact h.spaces
  case names =>
    intro space ns' hns'
    rw [hspace] at hns'
    split at hns'
    · obtain rfl := Option.some.inj hns'
      exact Table.nodup_rename hnames hold name id
    · exact h.names space ns' hns'
  case inhabited =>
    intro space ns' hns'
    rw [hspace] at hns'
    split at hns'
    · obtain rfl := Option.some.inj hns'
      intro hnil
      have hlen := (Table.perm_rename hnames hold name id).length_eq
      rw [hnil] at hlen
      cases hlen
    · exact h.inhabited space ns' hns'
  case tabled =>
    intro space name' j
    have hfind : (g.rename id name).find? space name' =
        if space = n.space then
          if name' = name then some id
          else if name' = n.name then none else g.find? space name'
        else g.find? space name' := by
      rw [find?, hspace]
      by_cases hs : space = n.space
      · rw [if_pos hs, if_pos hs, Option.bind_some, Table.get?_rename hnames hold, find?, hs, hns]
        rfl
      · rw [if_neg hs, if_neg hs, find?]
    have hfound := h.tabled space name' j
    have hself := h.tabled n.space n.name j
    rw [(h.tabled n.space n.name id).2 ⟨n, hn, rfl, rfl⟩] at hself
    rw [hfind, node?_rename hn]
    have hname := hfresh id n hn
    by_cases hj : j = id
    · -- The node itself is found under its new name only.
      subst hj
      simp only [if_true, Option.some.injEq, exists_eq_left'] at hfound ⊢
      grind
    · -- Any other node is found where it was.
      have hname' := hfresh j
      simp only [hj, if_false] at hfound ⊢
      grind

/-- A name that is new gets the smallest number that makes it none of the names in use. -/
theorem firstFree_isLeast (taken : List String) (base : String) :
    ∃ k, firstFree taken.contains base taken.length 1 = suffixed base k ∧
      IsLeast {k | 0 < k ∧ suffixed base k ∉ taken} k := by
  have hused (i : Nat) (h : taken.contains (suffixed base i) = true) :
      suffixed base i ∈ taken := by simpa using h
  obtain ⟨k, hk, heq, hfree, hbefore⟩ := firstFree_eq (suffixed base) taken (suffixed_injective base)
    hused (Nat.le_refl _) 1
  refine ⟨k, heq, ⟨hk, by simpa using hfree⟩, fun j hj => Nat.le_of_not_lt fun hlt => hj.2 ?_⟩
  simpa using hbefore j hj.1 hlt

/-- A new name is none that is in use or was. -/
theorem firstFree_notMem (taken : List String) (name : String) :
    firstFree taken.contains name taken.length 1 ∉ taken := by
  obtain ⟨k, hk, hleast⟩ := firstFree_isLeast taken name
  exact hk ▸ hleast.1.2

/-- Making names unique keeps the tables as they should be: the names in use are known, so a node
gets one that no node has. -/
theorem Catalogued.enforceUniqueNames (h : g.Catalogued) : g.enforceUniqueNames.Catalogued := by
  refine (List.foldlRecOn (motive := fun u : NameUse => u.graph.Catalogued ∧
    ∀ j m, u.graph.node? j = some m → m.name ∈ u.taken) _ _ ⟨h, fun j m hm => ?_⟩
    fun u hu id _ => ?_).1
  · exact Array.mem_toList_iff.2 (Array.mem_map.2 ⟨m, Array.mem_of_getElem? hm, rfl⟩)
  · obtain ⟨hcat, hused⟩ := hu
    unfold NameUse.settle
    dsimp only
    split
    · exact ⟨hcat, hused⟩
    · have hfresh := firstFree_notMem u.taken (u.graph.nameOf id)
      generalize firstFree u.taken.contains (u.graph.nameOf id) u.taken.length 1 = unique at hfresh ⊢
      cases hn : u.graph.node? id with
      | none =>
        have hsame : u.graph.rename id unique = u.graph := by rw [Graph.rename, hn]
        rw [hsame]
        exact ⟨hcat, fun j m hm => List.mem_cons_of_mem _ (hused j m hm)⟩
      | some n =>
        refine ⟨hcat.rename hn fun j m hm heq => hfresh (heq ▸ hused j m hm), fun j m hm => ?_⟩
        rw [node?_rename hn] at hm
        split at hm
        · obtain rfl := Option.some.inj hm
          exact List.mem_cons_self
        · exact List.mem_cons_of_mem _ (hused j m hm)

/-- Flags do not matter to the tables. -/
theorem Catalogued.markAmbiguous (h : g.Catalogued) : g.markAmbiguous.Catalogued := by
  have hget (space : String) : g.markAmbiguous.namespaces.get? space =
      (g.namespaces.get? space).map fun ns =>
        { ns with isAmbiguous := ns.isAmbiguous || isShadowed g.namespaces.keys space } :=
    Table.get?_map g.namespaces (fun space ns =>
      { ns with isAmbiguous := ns.isAmbiguous || isShadowed g.namespaces.keys space }) space
  constructor
  case spaces =>
    have hkeys : g.markAmbiguous.namespaces.keys = g.namespaces.keys := by
      simp [Graph.markAmbiguous, Table.keys]
    rw [hkeys]
    exact h.spaces
  case names =>
    intro space ns' hns'
    rw [hget] at hns'
    obtain ⟨ns, hns, rfl⟩ := Option.map_eq_some_iff.1 hns'
    exact h.names space ns hns
  case inhabited =>
    intro space ns' hns'
    rw [hget] at hns'
    obtain ⟨ns, hns, rfl⟩ := Option.map_eq_some_iff.1 hns'
    exact h.inhabited space ns hns
  case tabled =>
    intro space name id
    have hfind : g.markAmbiguous.find? space name = g.find? space name := by
      rw [find?, hget, find?, Option.bind_map]
      rfl
    rw [hfind]
    exact h.tabled space name id

/-! ## What the tables list -/

/-- An entry is that of a node with its namespace and its name, and every node has one. -/
theorem Catalogued.mem_entries_iff (h : g.Catalogued) {space name : String} {id : NodeId} :
    (∃ ns, (space, ns) ∈ g.namespaces.entries ∧ (name, id) ∈ ns.types.entries) ↔
      ∃ n, g.node? id = some n ∧ n.space = space ∧ n.name = name := by
  rw [← h.tabled space name id, find?, Option.bind_eq_some_iff]
  refine exists_congr fun ns => ?_
  rw [Table.mem_entries_iff h.spaces]
  exact and_congr_right fun hns => Table.mem_entries_iff (h.names space ns hns)

theorem Catalogued.indexed (h : g.Catalogued) : g.Indexed where
  spaces := h.spaces
  names e he := h.names e.1 e.2 ((Table.mem_entries_iff h.spaces).1 he)
  entries e he _ hx := h.mem_entries_iff.1 ⟨e.2, he, hx⟩

/-- The tables list every node, and each once. -/
theorem Catalogued.listed_perm (h : g.Catalogued) : g.listed.Perm g.ids := by
  refine (List.perm_ext_iff_of_nodup h.indexed.listed_nodup List.nodup_range).2 fun id => ?_
  rw [List.mem_range]
  constructor
  · intro hid
    obtain ⟨n, hn⟩ := h.indexed.node? hid
    exact lt_size_of_node? hn
  · intro hid
    obtain ⟨n, hn⟩ := Option.isSome_iff_exists.1 (node?_isSome.2 hid)
    obtain ⟨ns, hns, htypes⟩ := h.exists_types hn
    exact List.mem_flatMap.2
      ⟨ns, Table.mem_values_of_get? hns, Table.mem_values_of_get? htypes⟩

theorem filterMap_ids {α : Type} (g : Graph) (f : Node → α) :
    g.ids.filterMap (fun id => (g.node? id).map f) = g.nodes.toList.map f := by
  have hlist (l : List Node) :
      (List.range l.length).filterMap (fun i => l[i]?.map f) = l.map f := by
    induction l using List.reverseRecOn with
    | nil => rfl
    | append_singleton l a ih =>
      have hinit : (List.range l.length).filterMap (fun i => (l ++ [a])[i]?.map f) = l.map f := by
        rw [← ih]
        refine List.filterMap_congr fun i hi => ?_
        rw [List.getElem?_append_left (List.mem_range.1 hi)]
      rw [List.length_append, List.length_singleton, List.range_succ, List.filterMap_append, hinit]
      simp
  rw [← hlist, Array.length_toList]
  exact List.filterMap_congr fun i _ => by rw [node?, Array.getElem?_toList]

/-- A dump lists every node, and each once. -/
theorem Catalogued.dump_perm (h : g.Catalogued) :
    (g.dump.namespaces.flatMap (·.types)).Perm (g.nodes.toList.map (Node.dump g)) := by
  have hlisted : g.dump.namespaces.flatMap (·.types) =
      g.listed.filterMap fun id => (g.node? id).map (Node.dump g) := by
    rw [listed, List.filterMap_flatMap, dump, List.flatMap_map, Table.values, List.flatMap_map]
    rfl
  rw [hlisted, ← filterMap_ids]
  exact h.listed_perm.filterMap _

theorem Catalogued.dump_typeCount (h : g.Catalogued) : g.dump.typeCount = g.size := by
  rw [GraphDump.typeCount, h.dump_perm.length_eq, List.length_map, Array.length_toList]
  rfl

end Graph

namespace Build

open Schema

variable {env : Environment} {s t : State}

/-! ## Along a construction -/

/-- A new node is placed in a namespace that is there for it. -/
theorem Creation.catalogued {n : Node} {key : Option CacheKey} {place : Option Place}
    (h : Creation env s t n key place) (hs : s.graph.Catalogued) (ht : t.graph.Tabled) :
    t.graph.Catalogued := by
  obtain ⟨key, hspaces⟩ := h.placing
  let before : Namespace := (s.graph.namespaces.get? n.space).getD { key }
  have hget (space : String) : t.graph.namespaces.get? space =
      if space = n.space then
        some { before with types := before.types.insert n.name s.graph.size }
      else s.graph.namespaces.get? space := by
    rw [hspaces, Table.get?_modify, Table.get?_insertNew]
    by_cases hspace : space = n.space
    · rw [if_pos hspace, if_pos hspace, if_pos hspace.symm, hspace]
      cases hn : s.graph.namespaces.get? n.space <;> simp [before, hn]
    · rw [if_neg hspace, if_neg hspace, if_neg (Ne.symm hspace), Option.or_none]
  have hbefore : before.types.keys.Nodup := by
    cases hn : s.graph.namespaces.get? n.space with
    | none => simp [before, hn, Table.keys]
    | some ns => simpa [before, hn] using hs.names n.space ns hn
  constructor
  case spaces =>
    rw [hspaces, Table.keys_modify]
    exact Table.nodup_insertNew hs.spaces _ _
  case names =>
    intro space ns hns
    rw [hget] at hns
    split at hns
    · obtain rfl := Option.some.inj hns
      exact Table.nodup_insert hbefore _ _
    · exact hs.names space ns hns
  case inhabited =>
    intro space ns hns
    rw [hget] at hns
    split at hns
    · obtain rfl := Option.some.inj hns
      intro hnil
      have hnew : (before.types.insert n.name s.graph.size).get? n.name = some s.graph.size := by
        rw [Table.get?_insert, if_pos rfl]
      have hmem := (Table.mem_entries_iff (Table.nodup_insert hbefore _ _)).2 hnew
      rw [hnil] at hmem
      cases hmem
    · exact hs.inhabited space ns hns
  case tabled => exact ht

theorem Moves.catalogued (h : Moves env s t) (hs : s.graph.Catalogued) (ht : t.graph.Tabled) :
    t.graph.Catalogued := by
  cases h with
  | change h =>
    have hspaces := h.namespaces
    exact ⟨hspaces ▸ hs.spaces, hspaces ▸ hs.names, hspaces ▸ hs.inhabited, ht⟩
  | create h => exact h.catalogued hs ht
  | opening _ => exact hs

/-- In every state of a construction the tables are as they should be. -/
theorem run_catalogued {resolver : Resolver} (hix : env.index.Lawful)
    (h : run env resolver = .ok s) : s.graph.Catalogued := by
  suffices hboth : Listed env s ∧ s.graph.Catalogued from hboth.2
  refine run_invariant (P := fun s => Listed env s ∧ s.graph.Catalogued) hix ?_ ?_ h
  · exact ⟨listed_start env resolver, List.nodup_nil, nofun, nofun,
      (listed_start env resolver).tabled⟩
  · rintro t u hm ⟨hlisted, hcatalogued⟩
    have hlisted' := hm.listed hlisted
    exact ⟨hlisted', hm.catalogued hcatalogued hlisted'.tabled⟩

/-- So they are when the graph is finished. -/
theorem State.finished_catalogued (h : s.graph.Catalogued) : (s.finished env).Catalogued := by
  have hspaces : (s.attached env).propagateRenames.pruneDuplicates.disambiguateRoots.namespaces =
      s.graph.namespaces :=
    ((Graph.namespaces_pruneDuplicates _).trans
      (Graph.namespaces_of_renames (Graph.propagateRenames_renames _))).trans
        (namespaces_of_attaches (s.attaches env))
  have htidied := h.alike (alike_tidied env s) hspaces
  unfold State.finished Graph.finish
  dsimp only
  split
  · exact htidied.enforceUniqueNames.markAmbiguous
  · exact htidied.markAmbiguous

end Build

/-- In every graph that is built, also where names are unique across namespaces, each namespace has
one table with some nodes, each table has each name once, and the entries are those of the nodes:
each node stands in the table of its own namespace under its own name and nowhere else, so it is
what is found there. A dump lists each node once. -/
theorem buildGraph_tables {set : Schema.SchemaSet} {options : Options} {naming : Naming}
    {resolver : Resolver} {g : Graph} (h : buildGraph set options naming resolver = .ok g) :
    g.namespaces.keys.Nodup ∧
    (∀ space ns, (space, ns) ∈ g.namespaces.entries →
      ns.types.keys.Nodup ∧ ns.types.entries ≠ []) ∧
    (∀ space name id,
      (∃ ns, (space, ns) ∈ g.namespaces.entries ∧ (name, id) ∈ ns.types.entries) ↔
        ∃ n, g.node? id = some n ∧ n.space = space ∧ n.name = name) ∧
    (∀ space name id, g.find? space name = some id ↔
      ∃ n, g.node? id = some n ∧ n.space = space ∧ n.name = name) ∧
    (g.dump.namespaces.flatMap (·.types)).Perm (g.nodes.toList.map (Node.dump g)) ∧
    g.dump.typeCount = g.size := by
  obtain ⟨s, hs, hg⟩ := Build.exists_run h
  have hcat : g.Catalogued :=
    hg ▸ Build.State.finished_catalogued (Build.run_catalogued (Schema.Index.lawful_ofSet set) hs)
  refine ⟨hcat.spaces, fun space ns hns => ?_, fun _ _ _ => hcat.mem_entries_iff, hcat.tabled,
    hcat.dump_perm, hcat.dump_typeCount⟩
  have hget := (Table.mem_entries_iff hcat.spaces).1 hns
  exact ⟨hcat.names space ns hget, hcat.inhabited space ns hget⟩

open Build in
theorem buildGraph_tables_unique :
    ∃ g, buildGraph sharedName { uniqueNames := true } .conventional twoNamespaces = .ok g ∧
      (g.find? "A" "Item" = some 0 ∧ g.find? "B" "Item" = none ∧
        (g.find? "B" "Item1").isSome = true) ∧
      g.namespaces.keys.Nodup ∧
      (∀ space ns, (space, ns) ∈ g.namespaces.entries →
        ns.types.keys.Nodup ∧ ns.types.entries ≠ []) ∧
      (∀ space name id,
        (∃ ns, (space, ns) ∈ g.namespaces.entries ∧ (name, id) ∈ ns.types.entries) ↔
          ∃ n, g.node? id = some n ∧ n.space = space ∧ n.name = name) ∧
      (∀ space name id, g.find? space name = some id ↔
        ∃ n, g.node? id = some n ∧ n.space = space ∧ n.name = name) ∧
      (g.dump.namespaces.flatMap (·.types)).Perm (g.nodes.toList.map (Node.dump g)) ∧
      g.dump.typeCount = g.size := by
  obtain ⟨g, h, hnames⟩ := exists_of_any
    (x := buildGraph sharedName { uniqueNames := true } .conventional twoNamespaces)
    (p := fun g => (g.find? "A" "Item" = some 0 && g.find? "B" "Item" = none &&
      (g.find? "B" "Item1").isSome)) (by decide +kernel)
  simp only [Bool.and_eq_true, decide_eq_true_eq] at hnames
  exact ⟨g, h, ⟨hnames.1.1, hnames.1.2, hnames.2⟩, buildGraph_tables h⟩

end XmlTypes
