import XmlTypes.Proofs.Names
/-!
# Where renames clash

Before an interface takes over a name, each place that is to get it is asked whether the name is
taken there, in its base classes or in the classes derived from it (`isNameTaken`). That compares
the new name with the names that are there. It does not compare the places with one another: where
a class and one of its base classes implement the interface and neither has the name yet, both get
it. Nothing else makes names clash (`propagateRenames_distinct_iff`).
-/

namespace XmlTypes.Graph

variable {g g' : Graph} {c a interface : NodeId} {i j index : Nat} {implementers : List NodeId}

/-! ## The renames that are carried out -/

/-- The places that get another name together when an interface takes over a name for one of its
properties, and the name, if it is free for all of them. -/
def takeover? (g : Graph) (interface : NodeId) (implementers : List NodeId) (index : Nat) :
    Option (List (NodeId × Nat) × String) := do
  let p ← (g.properties interface)[index]?
  let name ← g.newName? implementers p
  let targets := g.declarations interface index implementers p
  if targets.any fun (owner, position) => g.isNameTaken owner position name then none
  else some (targets, name)

theorem propagateRename_eq (interface : NodeId) (implementers : List NodeId) (g : Graph)
    (index : Nat) : propagateRename interface implementers g index =
      match g.takeover? interface implementers index with
      | none => g
      | some (targets, name) => g.renameAll targets name := by
  unfold propagateRename takeover?
  cases (g.properties interface)[index]? with
  | none => rfl
  | some p =>
    cases hname : g.newName? implementers p with
    | none => simp [hname]
    | some name =>
      simp only [hname, Option.bind_eq_bind, Option.bind_some]
      split <;> rfl

theorem takeover?_eq_some {targets : List (NodeId × Nat)} {name : String}
    (h : g.takeover? interface implementers index = some (targets, name)) :
    ∃ p, (g.properties interface)[index]? = some p ∧
      targets = g.declarations interface index implementers p ∧
      ∀ t ∈ targets, g.isNameTaken t.1 t.2 name = false := by
  simp only [takeover?, Option.bind_eq_bind, Option.bind_eq_some_iff] at h
  obtain ⟨p, hp, name', -, h⟩ := h
  split at h
  · cases h
  · rename_i hfree
    obtain ⟨rfl, rfl⟩ := Prod.mk.inj (Option.some.inj h)
    exact ⟨p, hp, rfl, by simpa using hfree⟩

/-- There is a property at every place where an interface looks for one. -/
theorem exists_of_mem_declarations {p : Property} (hp : (g.properties interface)[index]? = some p)
    (h : (a, j) ∈ g.declarations interface index implementers p) :
    ∃ q, (g.properties a)[j]? = some q := by
  rcases List.mem_cons.1 h with h | h
  · obtain ⟨rfl, rfl⟩ := Prod.mk.inj h
    exact ⟨p, hp⟩
  · obtain ⟨id, -, hid⟩ := List.mem_filterMap.1 h
    obtain ⟨k, hk, he⟩ := Option.map_eq_some_iff.1 hid
    obtain ⟨rfl, rfl⟩ := Prod.mk.inj he
    exact ⟨_, List.getElem?_eq_getElem (List.findIdx?_eq_some_iff_getElem.1 hk).1⟩

/-- Carries out one rename and keeps the places that it affects. -/
def takeOver (interface : NodeId) (implementers : List NodeId)
    (x : Graph × List (List (NodeId × Nat))) (index : Nat) : Graph × List (List (NodeId × Nat)) :=
  match x.1.takeover? interface implementers index with
  | none => x
  | some (targets, name) => (x.1.renameAll targets name, x.2 ++ [targets])

/-- All renames that are carried out, with the places that each of them affects. -/
def takeOvers (g : Graph) : Graph × List (List (NodeId × Nat)) :=
  g.interfaceIds.foldl (fun x interface =>
    (List.range (x.1.properties interface).length).foldl
      (takeOver interface (x.1.implementersOf interface)) x) (g, [])

theorem takeOvers_fst (g : Graph) : g.takeOvers.1 = g.propagateRenames := by
  refine (List.foldl_hom Prod.fst fun x interface => ?_).symm
  refine List.foldl_hom Prod.fst fun y index => ?_
  rw [propagateRename_eq]
  unfold takeOver implementersOf
  split <;> simp_all

/-! ## Names after the renames -/

/-- Of the renames that affect one of two places the last one affects both. -/
def LastTogether (takeovers : List (List (NodeId × Nat))) (x y : NodeId × Nat) : Prop :=
  ∃ targets, takeovers.reverse.find? (fun ts => x ∈ ts ∨ y ∈ ts) = some targets ∧
    x ∈ targets ∧ y ∈ targets

theorem lastTogether_append (takeovers : List (List (NodeId × Nat))) (targets : List (NodeId × Nat))
    (x y : NodeId × Nat) : LastTogether (takeovers ++ [targets]) x y ↔
      if x ∈ targets ∨ y ∈ targets then x ∈ targets ∧ y ∈ targets
      else LastTogether takeovers x y := by
  unfold LastTogether
  rw [List.reverse_append, List.reverse_singleton, List.singleton_append, List.find?_cons]
  split <;> split <;> simp_all

/-- Two different places of a class, or one of a class and one of a base class. -/
def Compared (g : Graph) (c : NodeId) (i : Nat) (a : NodeId) (j : Nat) : Prop :=
  (g.class? c).isSome ∧ (a = c ∧ i ≠ j ∨ a ∈ g.ancestors c)

theorem apart_congr (hc : (g'.properties c)[i]? = (g.properties c)[i]?)
    (ha : (g'.properties a)[j]? = (g.properties a)[j]?) :
    g'.Apart c i a j ↔ g.Apart c i a j := by
  rw [Apart, Apart, hc, ha]

/-- One rename. Where it affects both places, it gives them one name; where it affects one of them,
it gives that one a name that the other does not have. -/
theorem takeOver_apart {x : Graph × List (List (NodeId × Nat))}
    (hbases : ∀ a b, x.1.base? a = some b → a ∈ x.1.derivedClasses b)
    (hc : x.1.Compared c i a j)
    (h : x.1.Apart c i a j ↔ ¬ LastTogether x.2 (c, i) (a, j)) (index : Nat) :
    let y := takeOver interface (x.1.implementersOf interface) x index
    y.1.Apart c i a j ↔ ¬ LastTogether y.2 (c, i) (a, j) := by
  dsimp only
  unfold takeOver
  split
  · exact h
  · rename_i targets name hsome
    obtain ⟨p, hp, rfl, hfree⟩ := takeover?_eq_some hsome
    rw [lastTogether_append]
    set targets := x.1.declarations interface index (x.1.implementersOf interface) p with htargets
    by_cases hboth : (c, i) ∈ targets ∧ (a, j) ∈ targets
    · -- The property has its place in both nodes, and gets the name there.
      obtain ⟨q, hq⟩ := exists_of_mem_declarations hp hboth.1
      obtain ⟨r, hr⟩ := exists_of_mem_declarations hp hboth.2
      rw [if_pos (.inl hboth.1)]
      refine iff_of_false (fun hap => hap { q with name } { r with name } ?_ ?_ rfl)
        (not_not.2 hboth)
      · rw [getElem?_renameAll, hq, Option.map_some, if_pos hboth.1]
      · rw [getElem?_renameAll, hr, Option.map_some, if_pos hboth.2]
    · by_cases hone : (c, i) ∈ targets ∨ (a, j) ∈ targets
      · rw [if_pos hone]
        exact iff_of_true (apart_renameAll hbases hfree hc.2 (fun hx hy => hboth ⟨hx, hy⟩)
          fun hx hy => absurd hone (not_or.2 ⟨hx, hy⟩)) hboth
      · rw [if_neg hone, ← h]
        obtain ⟨hx, hy⟩ := not_or.1 hone
        exact apart_congr (by simp [getElem?_renameAll, hx]) (by simp [getElem?_renameAll, hy])

/-- What holds after some of the renames. -/
structure Traced (g : Graph) (x : Graph × List (List (NodeId × Nat))) : Prop where
  shares : g.Shares x.1
  apart : ∀ c i a j, g.Compared c i a j →
    (x.1.Apart c i a j ↔ ¬ LastTogether x.2 (c, i) (a, j))
  /-- A rename affects one property of a class. -/
  once : ∀ targets ∈ x.2, ∀ c i j, (g.class? c).isSome → (c, i) ∈ targets → (c, j) ∈ targets →
    i = j

theorem Shares.derivedClasses (h : g.Shares g') (id : NodeId) :
    g'.derivedClasses id = g.derivedClasses id := by
  rw [derivedClasses_eq, derivedClasses_eq, h.map_node? fun _ _ hs => hs.derived]

/-- Base classes still know what derives from them. -/
theorem Shares.mem_derivedClasses (h : g.Shares g')
    (hbases : ∀ a b, g.base? a = some b → a ∈ g.derivedClasses b) (a b : NodeId)
    (hb : g'.base? a = some b) : a ∈ g'.derivedClasses b := by
  rw [h.derivedClasses]
  exact hbases a b (h.base? a ▸ hb)

theorem Traced.takeOver {x : Graph × List (List (NodeId × Nat))} (h : g.Traced x)
    (hbases : ∀ a b, g.base? a = some b → a ∈ g.derivedClasses b)
    (hi : (g.interface? interface).isSome) (index : Nat) :
    g.Traced (takeOver interface (x.1.implementersOf interface) x index) := by
  have hi' : (x.1.interface? interface).isSome := h.shares.isSome_interface? interface ▸ hi
  refine ⟨?_, fun c i a j hc => ?_, ?_⟩
  · unfold Graph.takeOver
    split
    · exact h.shares
    · exact h.shares.trans (shares_renameAll _ _ _)
  · refine takeOver_apart (h.shares.mem_derivedClasses hbases) ⟨?_, ?_⟩ (h.apart c i a j hc) index
    · rw [h.shares.isSome_class?]
      exact hc.1
    · rw [h.shares.ancestors]
      exact hc.2
  · unfold Graph.takeOver
    split
    · exact h.once
    · rename_i targets name hsome
      obtain ⟨p, hp, rfl, -⟩ := takeover?_eq_some hsome
      intro ts hts c i j hc hci hcj
      rcases List.mem_append.1 hts with hts | hts
      · exact h.once ts hts c i j hc hci hcj
      · rw [List.mem_singleton] at hts
        subst hts
        by_contra hij
        exact not_together_self (h.shares.isSome_class? c ▸ hc) hij
          ⟨interface, index, p, hi', hp, hci, hcj⟩

theorem takeOvers_traced (hbases : ∀ a b, g.base? a = some b → a ∈ g.derivedClasses b)
    (hapart : ∀ c i a j, g.Compared c i a j → g.Apart c i a j) : g.Traced g.takeOvers := by
  have hstart : g.Traced (g, []) :=
    ⟨.refl g, fun c i a j hc => iff_of_true (hapart c i a j hc) (by simp [LastTogether]), nofun⟩
  -- One fold over the interfaces, and for each of them one over its properties.
  refine List.foldlRecOn (motive := g.Traced) _ _ hstart fun x hx interface hi => ?_
  have hi' : (g.interface? interface).isSome := (List.mem_filter.1 hi).2
  refine (List.foldlRecOn (motive := fun y => g.Traced y ∧
    y.1.implementersOf interface = x.1.implementersOf interface) _ _ ⟨hx, rfl⟩
      fun y hy index _ => ?_).1
  have htraced := hy.1.takeOver hbases hi' index
  rw [hy.2] at htraced
  refine ⟨htraced, ?_⟩
  rw [htraced.shares.implementersOf, hx.shares.implementersOf]

/-! ## Distinct names -/

/-- The names of what a class declares and inherits are distinct, in every class. -/
def DistinctNames (g : Graph) : Prop :=
  ∀ c, (g.class? c).isSome → ((g.flattenedProperties c).map (·.name)).Nodup

theorem isSome_class?_of_derived {b : NodeId} (h : a ∈ g.derivedClasses b) :
    (g.class? b).isSome := by
  unfold derivedClasses at h
  cases hb : g.class? b with
  | none => rw [hb] at h; cases h
  | some _ => rfl

theorem distinctNames_iff (hbases : ∀ a b, g.base? a = some b → a ∈ g.derivedClasses b) :
    g.DistinctNames ↔ ∀ c i a j, g.Compared c i a j → g.Apart c i a j := by
  constructor
  · rintro h c i a j ⟨hc, ha⟩
    obtain ⟨hnodup, hpairs⟩ := nodup_flattened_iff.1 (h c hc)
    rcases ha with ⟨rfl, hij⟩ | ha
    · exact nodup_names_iff.1 (hnodup a (by simp)) i j hij
    · exact (List.pairwise_cons.1 hpairs).1 a ha i j
  · intro h c hc
    have hclass : ∀ a ∈ c :: g.ancestors c, (g.class? a).isSome := by
      intro a ha
      rcases List.mem_cons.1 ha with rfl | ha
      · exact hc
      · obtain ⟨b, -, hb⟩ := Relation.TransGen.tail'_iff.1 (mem_ancestors.1 ha).2
        exact isSome_class?_of_derived (hbases b a hb)
    exact nodup_flattened_iff.2 ⟨fun a ha => nodup_names_iff.2 fun i j hij =>
        h a i a j ⟨hclass a ha, .inl ⟨rfl, hij⟩⟩,
      ancestors_pairwise.imp_of_mem fun {a b} ha _ hb i j => h a i b j ⟨hclass a ha, .inr hb⟩⟩

/-- After the renames names are distinct exactly if no class shares its last rename at some place
with a base class. -/
theorem propagateRenames_distinct_iff
    (hbases : ∀ a b, g.base? a = some b → a ∈ g.derivedClasses b) (hnames : g.DistinctNames) :
    g.propagateRenames.DistinctNames ↔ ∀ c a i j, (g.class? c).isSome → a ∈ g.ancestors c →
      ¬ LastTogether g.takeOvers.2 (c, i) (a, j) := by
  have h := takeOvers_traced hbases ((distinctNames_iff hbases).1 hnames)
  have hbases' (a b : NodeId) (hb : g.takeOvers.1.base? a = some b) :
      a ∈ g.takeOvers.1.derivedClasses b := by
    rw [h.shares.derivedClasses]
    exact hbases a b (h.shares.base? a ▸ hb)
  rw [← takeOvers_fst, distinctNames_iff hbases']
  simp only [Compared, h.shares.isSome_class?, h.shares.ancestors]
  constructor
  · intro hall c a i j hc ha
    exact (h.apart c i a j ⟨hc, .inr ha⟩).1 (hall c i a j ⟨hc, .inr ha⟩)
  · intro hall c i a j hca
    refine (h.apart c i a j hca).2 ?_
    rcases hca with ⟨hc, ⟨rfl, hij⟩ | ha⟩
    · -- No rename affects two properties of a class.
      rintro ⟨targets, hfind, hi, hj⟩
      have hmem : targets ∈ g.takeOvers.2 := List.mem_reverse.1 (List.mem_of_find?_eq_some hfind)
      exact hij (h.once targets hmem a i j hc hi hj)
    · exact hall c a i j hc ha

/-! ## A clash -/

theorem mem_ids_of_class? (h : (g.class? c).isSome) : c ∈ g.ids := by
  obtain ⟨n, hn, -⟩ := class?_isSome.1 h
  exact List.mem_range.2 (Array.getElem?_eq_some_iff.1 hn).1

instance (g : Graph) : Decidable g.DistinctNames :=
  decidable_of_iff (∀ c ∈ g.ids, (g.class? c).isSome → ((g.flattenedProperties c).map (·.name)).Nodup)
    ⟨fun h c hc => h c (mem_ids_of_class? hc) hc, fun h c _ hc => h c hc⟩

/-- The properties of a node that has one, with the given name, for the element `x`. -/
def holds (owner : NodeId) (name : String) : List Property :=
  [.make owner name ⟨"urn:t", "x"⟩ (.primitive .string)]

/-- An interface, and three classes that declare its member. -/
def unlinked : Graph :=
  { nodes :=
      #[.make "I" "" default (.interface { properties := holds 0 "X" }),
        .make "D" "" default (.classLike { properties := holds 1 "Y" }),
        .make "A" "" default (.classLike { properties := holds 2 "X" }),
        .make "C" "" default (.classLike { properties := holds 3 "X1" })] }

/-- All three classes implement the interface, and the last is derived from the one before it. -/
def clashing : Graph :=
  (((unlinked.addImplementer 0 1).addImplementer 0 2).addImplementer 0 3).setBase 3 2

theorem clashing_linked : clashing.Linked := by
  have h₀ : unlinked.Linked := (unlinked_of_nodes (by decide)).linked
  have h₁ : (unlinked.addImplementer 0 1).Linked :=
    linked_addImplementer h₀ ⟨_, rfl, rfl⟩ ⟨_, rfl, rfl⟩
  have h₂ : ((unlinked.addImplementer 0 1).addImplementer 0 2).Linked :=
    linked_addImplementer h₁ ⟨_, rfl, rfl⟩ ⟨_, rfl, rfl⟩
  have h₃ : (((unlinked.addImplementer 0 1).addImplementer 0 2).addImplementer 0 3).Linked :=
    linked_addImplementer h₂ ⟨_, rfl, rfl⟩ ⟨_, rfl, rfl⟩
  exact linked_setBase h₃ rfl rfl rfl

theorem propagateRenames_distinct_clashing :
    clashing.DistinctNames ∧ LastTogether clashing.takeOvers.2 (3, 0) (2, 0) ∧
      (clashing.propagateRenames.DistinctNames ↔ ∀ c a i j, (clashing.class? c).isSome →
        a ∈ clashing.ancestors c → ¬ LastTogether clashing.takeOvers.2 (c, i) (a, j)) := by
  have hnames : clashing.DistinctNames := by decide
  exact ⟨hnames, ⟨_, rfl, by decide, by decide⟩,
    propagateRenames_distinct_iff (fun a b => (clashing_linked.bases a b).1) hnames⟩

/-- The third class has another name for what its base class declares, and both take over the name
that the first class gives it. -/
theorem propagateRenames_clash : clashing.Linked ∧ clashing.DistinctNames ∧
    ¬ clashing.propagateRenames.DistinctNames :=
  ⟨clashing_linked, by decide, by decide⟩

end XmlTypes.Graph
