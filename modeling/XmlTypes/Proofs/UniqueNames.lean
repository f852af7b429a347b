import XmlTypes.Proofs.NamespaceTables
/-!
# Names that are unique across namespaces

Making names unique goes through the tables and gives names to the nodes listed there, one after
the other (`NamedAfter`). It is a loop over what is listed; after some nodes their names are
distinct, and a name is known to be taken if a node had it in the beginning or one of them has got
it (`Settles`). Nothing but names changes, and each entry stays in its place, under the name of its
node (`withNames`).
-/

namespace XmlTypes

namespace Table

variable {κ α : Type} [DecidableEq κ] {t : Table κ α}

omit [DecidableEq κ] in
theorem map_ite_eq_self [DecidableEq κ] {es : List (κ × α)} {k : κ} (h : ∀ e ∈ es, e.1 ≠ k)
    (x : κ × α) : es.map (fun e => if e.1 = k then x else e) = es :=
  (List.map_congr_left fun e he => if_neg (h e he)).trans (List.map_id es)

/-- To put an entry in the place of one that is taken out is to change it there. -/
theorem insert_at_findIdx? {es : List (κ × α)} (h : (es.map (·.1)).Nodup) {k : κ} {i : Nat}
    (hi : es.findIdx? (fun e => decide (e.1 = k)) = some i) (x : κ × α) :
    (es.eraseIdx i).take i ++ x :: (es.eraseIdx i).drop i =
      es.map fun e => if e.1 = k then x else e := by
  induction es generalizing i with
  | nil => cases hi
  | cons e es ih =>
    rw [List.map_cons, List.nodup_cons] at h
    rw [List.findIdx?_cons] at hi
    by_cases he : e.1 = k
    · rw [if_pos (decide_eq_true he)] at hi
      obtain rfl := Option.some.inj hi
      have hrest : ∀ e' ∈ es, e'.1 ≠ k := fun e' he' heq =>
        h.1 (List.mem_map.2 ⟨e', he', heq.trans he.symm⟩)
      simp [he, map_ite_eq_self hrest]
    · rw [if_neg (by simpa using he)] at hi
      obtain ⟨j, hj, rfl⟩ := Option.map_eq_some_iff.1 hi
      simp [he, ← ih h.2 hj]

/-- If no other entry gives way, a renaming changes one entry in its place. -/
theorem rename_eq_map (h : t.keys.Nodup) (old : κ) {new : κ} (hnew : new ∉ t.keys) (a : α) :
    t.rename old new a = ⟨t.entries.map fun e => if e.1 = old then (new, a) else e⟩ := by
  unfold rename
  split
  · rename_i hnone
    have hold : ∀ e ∈ t.entries, e.1 ≠ old := by
      simpa using List.findIdx?_eq_none_iff.1 hnone
    rw [map_ite_eq_self hold]
  · rename_i i hi
    have hothers : (t.entries.eraseIdx i).filter (fun e => decide (e.1 ≠ new)) =
        t.entries.eraseIdx i := by
      refine List.filter_eq_self.2 fun e he => decide_eq_true fun heq => hnew ?_
      exact heq ▸ List.mem_map_of_mem ((List.eraseIdx_sublist _ _).subset he)
    dsimp only
    rw [hothers, insert_at_findIdx? h hi]

end Table

namespace Graph

variable {g g' : Graph} {id : NodeId} {name : NodeId → String}

/-! ## Other names -/

/-- The graph with other names. -/
def withNames (g : Graph) (name : NodeId → String) : Graph where
  nodes := g.nodes.mapIdx fun id n => { n with name := name id }
  namespaces := ⟨g.namespaces.entries.map fun e => (e.1, { e.2 with
    types := ⟨e.2.types.entries.map fun x => (name x.2, x.2)⟩ })⟩

theorem node?_withNames (g : Graph) (name : NodeId → String) (id : NodeId) :
    (g.withNames name).node? id = (g.node? id).map fun n => { n with name := name id } := by
  simp [withNames, node?]

theorem nameOf_withNames {n : Node} (hn : g.node? id = some n) (name : NodeId → String) :
    (g.withNames name).nameOf id = name id := by
  rw [nameOf, node?_withNames, hn]
  rfl

/-- A graph has the names that it has. -/
theorem Indexed.withNames_nameOf (h : g.Indexed) : g.withNames g.nameOf = g := by
  have hnodes : (g.withNames g.nameOf).nodes = g.nodes := Array.ext_getElem? fun id => by
    change (g.withNames g.nameOf).node? id = g.node? id
    rw [node?_withNames]
    cases hn : g.node? id with
    | none => rfl
    | some n => rw [Option.map_some, nameOf_of_node? hn]
  have hspaces : (g.withNames g.nameOf).namespaces = g.namespaces := by
    refine congrArg Table.mk ((List.map_congr_left fun e he => ?_).trans (List.map_id _))
    have hentries : (e.2.types.entries.map fun x => (g.nameOf x.2, x.2)) = e.2.types.entries := by
      refine (List.map_congr_left fun x hx => ?_).trans (List.map_id _)
      obtain ⟨n, hn, -, hname⟩ := h.entries e he x hx
      rw [nameOf_of_node? hn, hname]
      rfl
    rw [hentries]
    rfl
  exact congr (congrArg Graph.mk hnodes) hspaces

/-- One more node gets another name, one that is new in its table. -/
theorem Indexed.rename_withNames (h : g.Indexed) (hid : id ∈ g.listed)
    (hinj : ∀ e ∈ g.namespaces.entries, Set.InjOn name {j | j ∈ e.2.types.values})
    {new : String} (hnew : ∀ j ∈ g.listed, name j ≠ new) :
    (g.withNames name).rename id new = g.withNames (Function.update name id new) := by
  obtain ⟨n, hn⟩ := h.node? hid
  have hnode : (g.withNames name).node? id = some { n with name := name id } := by
    rw [node?_withNames, hn]
    rfl
  have hnodes : ((g.withNames name).rename id new).nodes =
      (g.withNames (Function.update name id new)).nodes := Array.ext_getElem? fun j => by
    change ((g.withNames name).rename id new).node? j =
      (g.withNames (Function.update name id new)).node? j
    rw [node?_rename hnode, node?_withNames, node?_withNames]
    by_cases hj : j = id
    · subst hj
      simp [hn]
    · simp [hj]
  refine congr (congrArg Graph.mk hnodes) ((namespaces_rename hnode new).trans ?_)
  -- In the other tables the node does not occur.
  refine congrArg Table.mk ?_
  dsimp only [withNames]
  rw [List.map_map]
  refine List.map_congr_left fun e he => ?_
  simp only [Function.comp_apply]
  have hvalues {x : String × NodeId} (hx : x ∈ e.2.types.entries) : x.2 ∈ e.2.types.values :=
    List.mem_map_of_mem hx
  split
  · rename_i hspace
    have hid : id ∈ e.2.types.values := by
      obtain ⟨e', he', hid⟩ := mem_listed.1 hid
      obtain rfl : e = e' := List.inj_on_of_nodup_map h.spaces he he'
        (hspace.trans (h.space_eq he' hid hn))
      exact hid
    have hkeys : (Table.mk (e.2.types.entries.map fun x => (name x.2, x.2))).keys =
        e.2.types.values.map name := by
      simp [Table.keys, Table.values]
    rw [Table.rename_eq_map, List.map_map]
    · have hentries : (e.2.types.entries.map
            ((fun x => if x.1 = name id then (new, id) else x) ∘ fun x => (name x.2, x.2))) =
          e.2.types.entries.map fun x => (Function.update name id new x.2, x.2) := by
        refine List.map_congr_left fun x hx => ?_
        by_cases hx' : x.2 = id
        · simp [hx']
        · have hname : name x.2 ≠ name id := fun heq => hx' (hinj e he (hvalues hx) hid heq)
          simp [hx', hname]
      rw [hentries]
    · rw [hkeys]
      exact (h.values_nodup he).map_on (hinj e he)
    · rw [hkeys, List.mem_map]
      rintro ⟨j, hj, hname⟩
      exact hnew j (mem_listed.2 ⟨e, he, hj⟩) hname
  · rename_i hspace
    have hentries : (e.2.types.entries.map fun x => (name x.2, x.2)) =
        e.2.types.entries.map fun x => (Function.update name id new x.2, x.2) := by
      refine List.map_congr_left fun x hx => ?_
      have hne : x.2 ≠ id := by
        rintro rfl
        exact hspace (h.space_eq he (hvalues hx) hn).symm
      rw [Function.update_of_ne hne]
    rw [hentries]

/-! ## One node after the other -/

/-- The names that nodes have. -/
def nodeNames (g : Graph) : List String := (g.nodes.map (·.name)).toList

/-- The name that a node gets after those in `before`: its own if it is the first with it, and else
that name with the smallest positive number that makes it none that a node had and none that one of
those in `before` has got. -/
structure NamedAfter (g : Graph) (before : List NodeId) (name : NodeId → String) (id : NodeId) :
    Prop where
  first : g.nameOf id ∉ before.map g.nameOf → name id = g.nameOf id
  later : g.nameOf id ∈ before.map g.nameOf →
    ∃ k, name id = suffixed (g.nameOf id) k ∧ IsLeast {k | 0 < k ∧
      suffixed (g.nameOf id) k ∉ g.nodeNames ∧ suffixed (g.nameOf id) k ∉ before.map name} k

/-- What is known once the nodes in `done` have their names. -/
structure Settles (g : Graph) (done : List NodeId) (name : NodeId → String) (u : NameUse) :
    Prop where
  graph : u.graph = g.withNames name
  others : ∀ id ∉ done, name id = g.nameOf id
  taken : ∀ x, x ∈ u.taken ↔ x ∈ g.nodeNames ∨ x ∈ done.map name
  kept : ∀ x, x ∈ u.kept ↔ x ∈ done.map name
  distinct : (done.map name).Nodup
  tables : ∀ e ∈ g.namespaces.entries, Set.InjOn name {j | j ∈ e.2.types.values}
  /-- The names that nodes had are in use. -/
  inUse : ∀ id ∈ done, g.nameOf id ∈ done.map name
  named : ∀ before id after, done = before ++ id :: after → g.NamedAfter before name id

theorem nameOf_mem_nodeNames {n : Node} (hn : g.node? id = some n) : g.nameOf id ∈ g.nodeNames := by
  rw [nameOf_of_node? hn, nodeNames, Array.toList_map]
  exact List.mem_map_of_mem (Array.mem_toList_iff.2 (Array.mem_of_getElem? hn))

theorem Indexed.settles_nil (h : g.Indexed) :
    g.Settles [] g.nameOf { graph := g, taken := (g.nodes.map (·.name)).toList } where
  graph := h.withNames_nameOf.symm
  others _ _ := rfl
  taken x := by simp only [nodeNames, List.map_nil, List.not_mem_nil, or_false]
  kept x := by simp
  distinct := List.nodup_nil
  tables e he := by
    intro i hi j hj hname
    obtain ⟨x, hx, rfl⟩ := List.mem_map.1 hi
    obtain ⟨y, hy, rfl⟩ := List.mem_map.1 hj
    obtain ⟨m, hm, -, hmx⟩ := h.entries e he x hx
    obtain ⟨n, hn, -, hny⟩ := h.entries e he y hy
    rw [nameOf_of_node? hm, nameOf_of_node? hn, hmx, hny] at hname
    exact congrArg Prod.snd (List.inj_on_of_nodup_map (h.names e he) hx hy hname)
  inUse := nofun
  named before id after heq := by simp at heq

/-- The names of the nodes that have them stay when another one gets its own. -/
theorem NamedAfter.congr {before : List NodeId} {name' : NodeId → String}
    (h : g.NamedAfter before name id) (hbefore : ∀ j ∈ before, name' j = name j)
    (hid : name' id = name id) : g.NamedAfter before name' id := by
  have hmap : before.map name' = before.map name := List.map_congr_left hbefore
  exact ⟨fun hfirst => hid.trans (h.first hfirst), fun hlater => hid ▸ hmap ▸ h.later hlater⟩

theorem map_congr_of_notMem {done : List NodeId} (h : id ∉ done) (new : String) :
    done.map (Function.update name id new) = done.map name :=
  List.map_congr_left fun _ hj => Function.update_of_ne (ne_of_mem_of_not_mem hj h) _ _

/-- What is said of the nodes that have their names still holds with one more. -/
theorem named_append {done : List NodeId} {name' : NodeId → String}
    (h : ∀ before id after, done = before ++ id :: after → g.NamedAfter before name id)
    (hsame : ∀ j ∈ done, name' j = name j) (hid : g.NamedAfter done name' id) :
    ∀ before j after, done ++ [id] = before ++ j :: after → g.NamedAfter before name' j := by
  refine forall_before_concat.2 ⟨?_, hid⟩
  rintro before j after rfl
  exact (h before j after rfl).congr (fun i hi => hsame i (by simp [hi])) (hsame j (by simp))

/-- The first node with its name keeps it. -/
theorem Settles.keep {done : List NodeId} {u : NameUse} (hs : g.Settles done name u)
    {n : Node} (hn : g.node? id = some n) (hid : id ∉ done) (hfree : g.nameOf id ∉ u.kept) :
    g.Settles (done ++ [id]) name { u with kept := g.nameOf id :: u.kept } := by
  have hname : name id = g.nameOf id := hs.others id hid
  have hkept : g.nameOf id ∉ done.map name := fun h => hfree ((hs.kept _).2 h)
  constructor
  case graph => exact hs.graph
  case others => exact fun j hj => hs.others j fun h => hj (List.mem_append_left _ h)
  case taken =>
    intro x
    rw [hs.taken, List.map_append, List.mem_append, List.map_singleton, List.mem_singleton, hname]
    have := nameOf_mem_nodeNames hn
    grind
  case kept =>
    intro x
    rw [List.mem_cons, hs.kept, List.map_append, List.mem_append, List.map_singleton,
      List.mem_singleton, hname, or_comm]
  case distinct =>
    rw [List.map_append, List.map_singleton, hname]
    exact List.nodup_append.2 ⟨hs.distinct, List.nodup_singleton _, fun x hx y hy =>
      List.mem_singleton.1 hy ▸ fun heq => hkept (heq ▸ hx)⟩
  case tables => exact hs.tables
  case inUse =>
    intro j hj
    rw [List.map_append]
    rcases List.mem_append.1 hj with hj | hj
    · exact List.mem_append_left _ (hs.inUse j hj)
    · obtain rfl := List.mem_singleton.1 hj
      exact List.mem_append_right _ (by simp [hname])
  case named =>
    refine named_append hs.named (fun _ _ => rfl) ⟨fun _ => hname, fun hlater => ?_⟩
    obtain ⟨j, hj, heq⟩ := List.mem_map.1 hlater
    exact absurd (heq ▸ hs.inUse j hj) hkept

/-- A later node gets a name that is new. -/
theorem Settles.rename (h : g.Indexed) {done : List NodeId} {u : NameUse}
    (hs : g.Settles done name u) (hid : id ∈ g.listed) (hnew : id ∉ done)
    (hkept : g.nameOf id ∈ u.kept) :
    let unique := firstFree u.taken.contains (g.nameOf id) u.taken.length 1
    g.Settles (done ++ [id]) (Function.update name id unique)
      { graph := u.graph.rename id unique, taken := unique :: u.taken, kept := unique :: u.kept } := by
  intro unique
  obtain ⟨k, hk, hleast⟩ := firstFree_isLeast u.taken (g.nameOf id)
  have hunique : unique ∉ u.taken := by
    rw [show unique = _ from hk]
    exact hleast.1.2
  have hfresh : ∀ j ∈ g.listed, name j ≠ unique := by
    rintro j hj heq
    refine hunique ((hs.taken _).2 ?_)
    by_cases hjd : j ∈ done
    · exact .inr (List.mem_map.2 ⟨j, hjd, heq⟩)
    · obtain ⟨n, hn⟩ := h.node? hj
      rw [← heq, hs.others j hjd]
      exact .inl (nameOf_mem_nodeNames hn)
  have hmap : (done ++ [id]).map (Function.update name id unique) = done.map name ++ [unique] := by
    rw [List.map_append, map_congr_of_notMem hnew, List.map_singleton, Function.update_self]
  constructor
  case graph => rw [hs.graph]; exact h.rename_withNames hid hs.tables hfresh
  case others =>
    intro j hj
    simp only [List.mem_append, List.mem_singleton, not_or] at hj
    rw [Function.update_of_ne hj.2, hs.others j hj.1]
  case taken =>
    intro x
    rw [hmap, List.mem_cons, hs.taken, List.mem_append, List.mem_singleton]
    grind
  case kept =>
    intro x
    rw [hmap, List.mem_cons, hs.kept, List.mem_append, List.mem_singleton, or_comm]
  case distinct =>
    rw [hmap]
    exact List.nodup_append.2 ⟨hs.distinct, List.nodup_singleton _, fun x hx y hy =>
      List.mem_singleton.1 hy ▸ fun heq => hunique ((hs.taken _).2 (.inr (heq ▸ hx)))⟩
  case tables =>
    intro e he i hi j hj heq
    have hother {j : NodeId} (hj : j ∈ e.2.types.values) : name j ≠ unique :=
      hfresh j (mem_listed.2 ⟨e, he, hj⟩)
    by_cases hii : i = id <;> by_cases hji : j = id
    · exact hii.trans hji.symm
    · rw [hii, Function.update_self, Function.update_of_ne hji] at heq
      exact absurd heq.symm (hother hj)
    · rw [hji, Function.update_self, Function.update_of_ne hii] at heq
      exact absurd heq (hother hi)
    · rw [Function.update_of_ne hii, Function.update_of_ne hji] at heq
      exact hs.tables e he hi hj heq
  case inUse =>
    intro j hj
    rw [hmap]
    rcases List.mem_append.1 hj with hj | hj
    · exact List.mem_append_left _ (hs.inUse j hj)
    · obtain rfl := List.mem_singleton.1 hj
      exact List.mem_append_left _ ((hs.kept _).1 hkept)
  case named =>
    have hdoneNames : done.map (Function.update name id unique) = done.map name :=
      map_congr_of_notMem hnew unique
    refine named_append hs.named
      (fun j hj => Function.update_of_ne (ne_of_mem_of_not_mem hj hnew) _ _)
      ⟨fun hfirst => ?_, fun _ => ⟨k, ?_, ?_⟩⟩
    · -- A name that a node had in the beginning was kept by one that had it.
      obtain ⟨j, hj, heq⟩ := List.mem_map.1 ((hs.kept _).1 hkept)
      obtain ⟨before, after, hsplit⟩ := List.append_of_mem hj
      have hnamed := hs.named before j after hsplit
      by_cases hj' : g.nameOf j ∈ before.map g.nameOf
      · obtain ⟨l, hl, hleast'⟩ := hnamed.later hj'
        obtain ⟨n, hn⟩ := h.node? hid
        exact absurd (heq ▸ nameOf_mem_nodeNames hn) (hl ▸ hleast'.1.2.1)
      · exact absurd (List.mem_map.2 ⟨j, hj, (hnamed.first hj').symm.trans heq⟩) hfirst
    · rw [Function.update_self]
      exact hk
    · have hfree (x : String) : x ∉ u.taken ↔
          x ∉ g.nodeNames ∧ x ∉ done.map (Function.update name id unique) := by
        rw [hdoneNames, hs.taken, not_or]
      simpa only [hfree] using hleast

/-- One node gets its name. -/
theorem Settles.settle (h : g.Indexed) {done : List NodeId} {u : NameUse}
    (hs : g.Settles done name u) (hid : id ∈ g.listed) (hnew : id ∉ done) :
    ∃ name', g.Settles (done ++ [id]) name' (u.settle id) := by
  obtain ⟨n, hn⟩ := h.node? hid
  have hname : u.graph.nameOf id = g.nameOf id := by
    rw [hs.graph, nameOf_withNames hn, hs.others id hnew]
  unfold NameUse.settle
  simp only [hname]
  split
  · rename_i hfree
    exact ⟨name, hs.keep hn hnew (by simpa using hfree)⟩
  · rename_i hkept
    exact ⟨_, hs.rename h hid hnew (by simpa using hkept)⟩

/-- All nodes that are listed get their names. -/
theorem Indexed.settles_listed (h : g.Indexed) : ∃ name u,
    g.Settles g.listed name u ∧ u.graph = g.enforceUniqueNames := by
  suffices hfold : ∀ (rest done : List NodeId), done ++ rest = g.listed → ∀ (name) (u : NameUse),
      g.Settles done name u → ∃ name', g.Settles g.listed name' (rest.foldl NameUse.settle u) by
    obtain ⟨name, hs⟩ := hfold g.listed [] rfl g.nameOf _ h.settles_nil
    exact ⟨name, _, hs, rfl⟩
  intro rest
  induction rest with
  | nil =>
    rintro done hdone name u hs
    rw [List.append_nil] at hdone
    exact ⟨name, hdone ▸ hs⟩
  | cons id rest ih =>
    intro done hdone name u hs
    have hnodup : (done ++ id :: rest).Nodup := hdone ▸ h.listed_nodup
    have hnew : id ∉ done := (List.nodup_middle.1 hnodup |> List.nodup_cons.1).1 ∘
      List.mem_append_left rest
    obtain ⟨name', hs'⟩ := hs.settle h (hdone ▸ by simp) hnew
    exact ih (done ++ [id]) (by rw [List.append_assoc]; exact hdone) name' _ hs'

/-! ## The names that there are in the end -/

theorem listed_withNames (g : Graph) (name : NodeId → String) :
    (g.withNames name).listed = g.listed := by
  simp [listed, withNames, Table.values, List.flatMap_map, Function.comp_def]

/-- The tables list nodes under their names. -/
theorem Indexed.keys_eq (h : g.Indexed) :
    (g.namespaces.values.flatMap fun ns => ns.types.keys) = g.listed.map g.nameOf := by
  rw [listed, List.map_flatMap, Table.values, List.flatMap_map, List.flatMap_map]
  refine List.flatMap_congr fun e he => ?_
  rw [Table.keys, Table.values, List.map_map]
  refine List.map_congr_left fun x hx => ?_
  obtain ⟨n, hn, -, hname⟩ := h.entries e he x hx
  exact hname.symm.trans (nameOf_of_node? hn).symm

theorem Indexed.of_withNames (h : g.Indexed)
    (hinj : ∀ e ∈ g.namespaces.entries, Set.InjOn name {j | j ∈ e.2.types.values}) :
    (g.withNames name).Indexed := by
  constructor
  case spaces => simpa [withNames, Table.keys, Function.comp_def] using h.spaces
  case names =>
    intro e' he'
    obtain ⟨e, he, rfl⟩ := List.mem_map.1 he'
    have hkeys : (Table.mk (e.2.types.entries.map fun x => (name x.2, x.2))).keys =
        e.2.types.values.map name := by
      simp [Table.keys, Table.values]
    rw [hkeys]
    exact (h.values_nodup he).map_on (hinj e he)
  case entries =>
    intro e' he' x' hx'
    obtain ⟨e, he, rfl⟩ := List.mem_map.1 he'
    obtain ⟨x, hx, rfl⟩ := List.mem_map.1 hx'
    obtain ⟨n, hn, hspace, -⟩ := h.entries e he x hx
    exact ⟨{ n with name := name x.2 }, by rw [node?_withNames, hn]; rfl, hspace, rfl⟩

/-- The graph has the names that its nodes have got. -/
theorem Settles.nameOf_eq (h : g.Indexed) {u : NameUse} (hs : g.Settles g.listed name u) :
    u.graph.nameOf = name := by
  funext id
  rw [hs.graph]
  cases hn : g.node? id with
  | some n => exact nameOf_withNames hn name
  | none =>
    have hid : id ∉ g.listed := fun hid => by
      obtain ⟨n, hn'⟩ := h.node? hid
      cases hn.symm.trans hn'
    rw [hs.others id hid, nameOf, nameOf, node?_withNames, hn]
    rfl

/-- If names are distinct, all nodes keep theirs. -/
theorem Indexed.enforceUniqueNames_eq_self (h : g.Indexed) (hnames : (g.listed.map g.nameOf).Nodup) :
    g.enforceUniqueNames = g := by
  obtain ⟨name, u, hs, hu⟩ := h.settles_listed
  have hname : name = g.nameOf := by
    funext id
    by_cases hid : id ∈ g.listed
    · obtain ⟨before, after, hsplit⟩ := List.append_of_mem hid
      refine (hs.named before id after hsplit).first fun hlater => ?_
      rw [hsplit, List.map_append, List.map_cons] at hnames
      exact (List.nodup_middle.1 hnames |> List.nodup_cons.1).1 (List.mem_append_left _ hlater)
    · exact hs.others id hid
  rw [← hu, hs.graph, hname, h.withNames_nameOf]

/-- Making names unique gives every node that is listed its name in the order of the namespaces and
of their tables. In the end all names in the tables are distinct; nothing but these names has
changed, each entry stands in its place under the name of its node; and names that are unique stay
as they are. -/
theorem enforceUniqueNames_distinct (g : Graph) (h : g.Indexed) :
    let g' := g.enforceUniqueNames
    (g'.namespaces.values.flatMap fun ns => ns.types.keys).Nodup ∧
    (∀ before id after, g.listed = before ++ id :: after → g.NamedAfter before g'.nameOf id) ∧
    (∀ id ∉ g.listed, g'.nameOf id = g.nameOf id) ∧
    g' = g.withNames g'.nameOf ∧
    g'.Indexed ∧
    g'.enforceUniqueNames = g' := by
  obtain ⟨name, u, hs, hu⟩ := h.settles_listed
  have hname : u.graph.nameOf = name := hs.nameOf_eq h
  rw [hs.graph] at hu
  have hindexed : (g.withNames name).Indexed := h.of_withNames hs.tables
  have hlisted : (g.withNames name).listed = g.listed := listed_withNames g name
  rw [hs.graph] at hname
  intro g'
  have hg' : g' = g.withNames name := hu.symm
  have hnames : (g'.listed.map g'.nameOf).Nodup := by
    rw [hg', hname, hlisted]
    exact hs.distinct
  have hnameOf : g'.nameOf = name := hg' ▸ hname
  have hindexed' : g'.Indexed := hg' ▸ hindexed
  refine ⟨?_, ?_, ?_, ?_, hindexed', hindexed'.enforceUniqueNames_eq_self hnames⟩
  · rw [hindexed'.keys_eq]
    exact hnames
  · rw [hnameOf]
    exact hs.named
  · rw [hnameOf]
    exact hs.others
  · rw [hnameOf]
    exact hg'

/-- Four classes in three namespaces; the suffix that comes first is the name of a later one. -/
def items : Graph where
  nodes := #[.make "Item" "A" default (.classLike {}), .make "Item" "B" default (.classLike {}),
    .make "Item1" "B" default (.classLike {}), .make "Item" "C" default (.classLike {})]
  namespaces := ⟨[("A", { key := default, types := ⟨[("Item", 0)]⟩ }),
    ("B", { key := default, types := ⟨[("Item", 1), ("Item1", 2)]⟩ }),
    ("C", { key := default, types := ⟨[("Item", 3)]⟩ })]⟩

theorem items_indexed : items.Indexed where
  spaces := by decide
  names := by decide
  entries e he x hx := by
    have hplaces : ∀ e ∈ items.namespaces.entries, ∀ x ∈ e.2.types.entries,
        (items.node? x.2).map place = some (x.1, e.1) := by decide
    obtain ⟨n, hn, hplace⟩ := Option.map_eq_some_iff.1 (hplaces e he x hx)
    exact ⟨n, hn, congrArg Prod.snd hplace, congrArg Prod.fst hplace⟩

theorem enforceUniqueNames_items :
    let g' := items.enforceUniqueNames
    items.Indexed ∧
    (g'.namespaces.values.flatMap fun ns => ns.types.keys).Nodup ∧
    items.NamedAfter [0, 1, 2] g'.nameOf 3 ∧
    g' = items.withNames g'.nameOf ∧
    g'.Indexed ∧
    g'.enforceUniqueNames = g' := by
  obtain ⟨hnames, hnamed, -, hsame, hindexed, hagain⟩ :=
    enforceUniqueNames_distinct items items_indexed
  exact ⟨items_indexed, hnames, hnamed [0, 1, 2] 3 [] rfl, hsame, hindexed, hagain⟩

example : items.enforceUniqueNames.listed.map items.enforceUniqueNames.nameOf =
    ["Item", "Item2", "Item1", "Item3"] := by decide +kernel

end Graph

end XmlTypes
