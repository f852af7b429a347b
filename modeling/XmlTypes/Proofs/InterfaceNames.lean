import XmlTypes.Proofs.RenameClashes
/-!
# Interfaces and what implements them

Interfaces take over names in turn, in order of creation, and each of their properties has one turn.
When a property has had its turn, it is named as the first property for its member in each class
that implements the interface, unless the name that it was to take over was taken
(`Matches.sameName_takeTurn`). A later turn, that of another interface with the same classes or of
another property for the same member, may rename one of the two and leave the other as it is; so
what holds in the end is said with the renames that come after a turn (`propagateRenames_aligns`).
-/

namespace XmlTypes.Graph

variable {g g' : Graph} {interface : NodeId} {index : Nat} {p q : Property} {x y : NodeId × Nat}

/-! ## Turns -/

/-- One property of an interface takes over a name, if it can. -/
def takeTurn (g : Graph) (turn : NodeId × Nat) : Graph :=
  propagateRename turn.1 (g.implementersOf turn.1) g turn.2

/-- The properties of all interfaces, in the order in which they have their turns. -/
def turns (g : Graph) : List (NodeId × Nat) :=
  g.interfaceIds.flatMap fun interface =>
    (List.range (g.properties interface).length).map fun index => (interface, index)

/-- Nothing but names is different. -/
structure Renamed (g g' : Graph) : Prop where
  shares : g.Shares g'
  unnamed : ∀ id, (g'.properties id).map Property.unnamed = (g.properties id).map Property.unnamed

theorem Renamed.refl (g : Graph) : g.Renamed g := ⟨.refl g, fun _ => rfl⟩

theorem Renamed.trans {g'' : Graph} (h : g.Renamed g') (h' : g'.Renamed g'') : g.Renamed g'' :=
  ⟨h.shares.trans h'.shares, fun id => (h'.unnamed id).trans (h.unnamed id)⟩

theorem renamed_propagateRename (implementers : List NodeId) :
    g.Renamed (propagateRename interface implementers g index) := by
  rw [propagateRename_eq]
  split
  · exact .refl g
  · exact ⟨shares_renameAll _ _ g, unnamed_renameAll _ _ g⟩

theorem renamed_takeTurns (turns : List (NodeId × Nat)) (g : Graph) :
    g.Renamed (turns.foldl takeTurn g) :=
  List.foldlRecOn (motive := g.Renamed) _ _ (.refl g)
    fun _ h _ _ => h.trans (renamed_propagateRename _)

/-- The properties of one interface have their turns one after the other. -/
theorem foldl_takeTurn (interface : NodeId) (indices : List Nat) (g : Graph) :
    (indices.map fun index => (interface, index)).foldl takeTurn g =
      indices.foldl (propagateRename interface (g.implementersOf interface)) g := by
  induction indices generalizing g with
  | nil => rfl
  | cons index indices ih =>
    have hturn : g.Renamed (g.takeTurn (interface, index)) := renamed_propagateRename _
    rw [List.map_cons, List.foldl_cons, ih, List.foldl_cons, hturn.shares.implementersOf]
    rfl

/-- All turns together are what propagating renames does. -/
theorem propagateRenames_eq (g : Graph) : g.propagateRenames = g.turns.foldl takeTurn g := by
  unfold propagateRenames turns
  suffices hfold : ∀ (interfaces : List NodeId) (g' : Graph), g.Renamed g' →
      interfaces.foldl propagateInterface g' = (interfaces.flatMap fun interface =>
        (List.range (g.properties interface).length).map fun index =>
          (interface, index)).foldl takeTurn g' from hfold _ g (.refl g)
  intro interfaces
  induction interfaces with
  | nil => exact fun _ _ => rfl
  | cons interface interfaces ih =>
    intro g' h
    have hlength : (g'.properties interface).length = (g.properties interface).length := by
      simpa using congrArg List.length (h.unnamed interface)
    have hturns : propagateInterface g' interface = ((List.range
        (g.properties interface).length).map fun index => (interface, index)).foldl takeTurn g' := by
      rw [foldl_takeTurn, ← hlength]
      rfl
    rw [List.foldl_cons, List.flatMap_cons, List.foldl_append, ← hturns]
    refine ih _ (h.trans ?_)
    rw [hturns]
    exact renamed_takeTurns _ g'

/-! ## Names at two places -/

/-- The properties at two places have one name, if they are there. -/
def SameName (g : Graph) (x y : NodeId × Nat) : Prop :=
  ∀ p q, (g.properties x.1)[x.2]? = some p → (g.properties y.1)[y.2]? = some q → q.name = p.name

/-- The places that get another name together in each of the renames that some turns carry out. -/
def takenOver (g : Graph) : (turns : List (NodeId × Nat)) → List (List (NodeId × Nat))
  | [] => []
  | turn :: turns =>
    match g.takeover? turn.1 (g.implementersOf turn.1) turn.2 with
    | none => takenOver (g.takeTurn turn) turns
    | some (targets, _) => targets :: takenOver (g.takeTurn turn) turns

/-- Of the renames that affect one of two places the last one leaves the other as it is. -/
def LastApart (takeovers : List (List (NodeId × Nat))) (x y : NodeId × Nat) : Prop :=
  (∃ targets ∈ takeovers, x ∈ targets ∨ y ∈ targets) ∧ ¬ LastTogether takeovers x y

theorem lastApart_append (takeovers : List (List (NodeId × Nat))) (targets : List (NodeId × Nat))
    (x y : NodeId × Nat) : LastApart (takeovers ++ [targets]) x y ↔
      if x ∈ targets ∨ y ∈ targets then ¬ (x ∈ targets ∧ y ∈ targets)
      else LastApart takeovers x y := by
  rw [LastApart, lastTogether_append]
  by_cases h : x ∈ targets ∨ y ∈ targets
  · rw [if_pos h, if_pos h]
    exact and_iff_right ⟨targets, List.mem_append_right _ List.mem_cons_self, h⟩
  · rw [if_neg h, if_neg h, LastApart]
    refine and_congr_left fun _ => ⟨?_, ?_⟩
    · rintro ⟨ts, hts, hor⟩
      rcases List.mem_append.1 hts with hts | hts
      · exact ⟨ts, hts, hor⟩
      · exact absurd (List.mem_singleton.1 hts ▸ hor) h
    · rintro ⟨ts, hts, hor⟩
      exact ⟨ts, List.mem_append_left _ hts, hor⟩

theorem takeTurn_eq (g : Graph) (turn : NodeId × Nat) : g.takeTurn turn =
    match g.takeover? turn.1 (g.implementersOf turn.1) turn.2 with
    | none => g
    | some (targets, name) => g.renameAll targets name := propagateRename_eq _ _ g _

/-- One rename leaves two places with one name, unless it affects one of them only. -/
theorem sameName_renameAll (h : g.SameName x y) {targets : List (NodeId × Nat)} {name : String}
    (hboth : x ∈ targets ↔ y ∈ targets) : (g.renameAll targets name).SameName x y := by
  intro p q hp hq
  rw [getElem?_renameAll, Option.map_eq_some_iff] at hp hq
  obtain ⟨p, hp, rfl⟩ := hp
  obtain ⟨q, hq, rfl⟩ := hq
  by_cases hx : x ∈ targets
  · simp [hx, hboth.1 hx]
  · simpa [hx, mt hboth.2 hx] using h p q hp hq

/-- A rename that affects both places gives them one name. -/
theorem sameName_of_mem {targets : List (NodeId × Nat)} (hx : x ∈ targets) (hy : y ∈ targets)
    (name : String) : (g.renameAll targets name).SameName x y := by
  intro p q hp hq
  rw [getElem?_renameAll, Option.map_eq_some_iff] at hp hq
  obtain ⟨p, -, rfl⟩ := hp
  obtain ⟨q, -, rfl⟩ := hq
  simp [hx, hy]

/-- After some turns two places have one name, or the last rename that affected one of them left the
other as it was. -/
theorem sameName_takeTurns (turns : List (NodeId × Nat)) :
    ∀ (g : Graph) (before : List (List (NodeId × Nat))), g.SameName x y ∨ LastApart before x y →
      (turns.foldl takeTurn g).SameName x y ∨ LastApart (before ++ g.takenOver turns) x y := by
  induction turns with
  | nil =>
    intro g before h
    rwa [takenOver, List.append_nil]
  | cons turn turns ih =>
    intro g before h
    rw [List.foldl_cons]
    have hturn := takeTurn_eq g turn
    unfold takenOver
    split
    · rename_i hnone
      rw [hnone] at hturn
      exact ih _ before (hturn ▸ h)
    · rename_i targets name hsome
      rw [hsome] at hturn
      rw [← List.singleton_append, ← List.append_assoc]
      refine ih _ (before ++ [targets]) ?_
      rw [lastApart_append, hturn]
      by_cases hx : x ∈ targets <;> by_cases hy : y ∈ targets
      · exact .inl (sameName_of_mem hx hy name)
      · exact .inr (by simp [hx, hy])
      · exact .inr (by simp [hx, hy])
      · rw [if_neg (by simp [hx, hy])]
        exact h.imp_left fun h => sameName_renameAll h (iff_of_false hx hy)

/-! ## One turn -/

/-- One member stands at `x` in an interface, as `p`, and at `y` in a class that implements it, as
`q`. -/
structure Matches (g : Graph) (x y : NodeId × Nat) (p q : Property) : Prop where
  isInterface : (g.interface? x.1).isSome
  isClass : (g.class? y.1).isSome
  implements : y.1 ∈ g.implementersOf x.1
  declares : (g.properties x.1)[x.2]? = some p
  gives : (g.properties y.1)[y.2]? = some q
  same : q.sameMember p = true

/-- The name is taken at one of the places where the property `p` of an interface at `x` is declared,
by the interface and by what implements it. -/
def Blocked (g : Graph) (x : NodeId × Nat) (p : Property) (name : String) : Prop :=
  ∃ t ∈ g.declarations x.1 x.2 (g.implementersOf x.1) p, g.isNameTaken t.1 t.2 name = true

/-- In its turn the property takes over nothing, as the first other name that a class gives it is
taken. -/
def Refuses (g : Graph) (x : NodeId × Nat) : Prop :=
  ∃ p name, (g.properties x.1)[x.2]? = some p ∧
    g.newName? (g.implementersOf x.1) p = some name ∧ g.Blocked x p name

/-- If no class has another name for the property, none has. -/
theorem Matches.name_eq (h : g.Matches x y p q)
    (hnone : g.newName? (g.implementersOf x.1) p = none) : q.name = p.name := by
  unfold newName? at hnone
  have hfind := List.findSome?_eq_none_iff.1 hnone y.1 (List.mem_filter.2 ⟨h.implements, h.isClass⟩)
  rw [Option.map_eq_none_iff, List.find?_eq_none] at hfind
  simpa [h.same] using hfind q (List.mem_of_getElem? h.gives)

/-- When a property has had its turn, all that declare it have one name for it, or its new name was
taken. -/
theorem Matches.sameName_takeTurn (h : g.Matches x y p q)
    (hdeclared : y ∈ g.declarations x.1 x.2 (g.implementersOf x.1) p) :
    (g.takeTurn x).SameName x y ∨ g.Refuses x := by
  rw [takeTurn, propagateRename, h.declares]
  dsimp only
  cases hname : g.newName? (g.implementersOf x.1) p with
  | none =>
    refine .inl fun p' q' hp' hq' => ?_
    obtain rfl := Option.some.inj (h.declares.symm.trans hp')
    obtain rfl := Option.some.inj (h.gives.symm.trans hq')
    exact h.name_eq hname
  | some name =>
    dsimp only
    split
    · rename_i htaken
      obtain ⟨t, ht, htaken⟩ := List.any_eq_true.1 htaken
      exact .inr ⟨p, name, h.declares, hname, t, ht, htaken⟩
    · exact .inl (sameName_of_mem List.mem_cons_self hdeclared name)

/-- A class declares a member in its first place for it; what stands in another place takes the name
that it has. -/
theorem Matches.declared_or_blocked (h : g.Matches x y p q) :
    y ∈ g.declarations x.1 x.2 (g.implementersOf x.1) p ∨ g.Blocked x p q.name := by
  have hmem : q ∈ g.properties y.1 := List.mem_of_getElem? h.gives
  have hsome : ((g.properties y.1).findIdx? (·.sameMember p)).isSome = true := by
    rw [List.findIdx?_isSome]
    exact List.any_eq_true.2 ⟨q, hmem, h.same⟩
  obtain ⟨first, hfirst⟩ := Option.isSome_iff_exists.1 hsome
  have hdeclared : (y.1, first) ∈ g.declarations x.1 x.2 (g.implementersOf x.1) p :=
    List.mem_cons_of_mem _ (List.mem_filterMap.2 ⟨y.1, h.implements, by rw [hfirst]; rfl⟩)
  by_cases hy : y.2 = first
  · rw [← hy] at hdeclared
    exact .inl hdeclared
  · refine .inr ⟨(y.1, first), hdeclared, ?_⟩
    rw [isNameTaken, Bool.or_eq_true]
    refine .inl (List.any_eq_true.2 ⟨q, ?_, decide_eq_true rfl⟩)
    exact List.mem_eraseIdx_iff_getElem?.2 ⟨y.2, hy, h.gives⟩

/-! ## All turns -/

/-- At a place there is the same property as before, under whatever name. -/
theorem Renamed.exists_getElem? (h : g.Renamed g') (hp : (g'.properties x.1)[x.2]? = some p) :
    ∃ p₀, (g.properties x.1)[x.2]? = some p₀ ∧ p₀.unnamed = p.unnamed := by
  have hat := congrArg (·[x.2]?) (h.unnamed x.1)
  simp only [List.getElem?_map, hp, Option.map_some] at hat
  exact Option.map_eq_some_iff.1 hat.symm

/-- What matches after some turns did so before them, at the places that declare the property. -/
theorem Renamed.exists_matches (h : g.Renamed g') (hm : g'.Matches x y p q) :
    ∃ p₀ q₀, g.Matches x y p₀ q₀ ∧ g'.declarations x.1 x.2 (g'.implementersOf x.1) p =
      g.declarations x.1 x.2 (g.implementersOf x.1) p₀ := by
  obtain ⟨p₀, hp₀, hp⟩ := h.exists_getElem? hm.declares
  obtain ⟨q₀, hq₀, hq⟩ := h.exists_getElem? hm.gives
  refine ⟨p₀, q₀, ⟨?_, ?_, ?_, hp₀, hq₀, ?_⟩, ?_⟩
  · rw [← h.shares.isSome_interface?]
    exact hm.isInterface
  · rw [← h.shares.isSome_class?]
    exact hm.isClass
  · rw [← h.shares.implementersOf]
    exact hm.implements
  · change q₀.unnamed.sameMember p₀.unnamed = true
    rw [hp, hq]
    exact hm.same
  · rw [h.shares.implementersOf]
    exact declarations_congr h.unnamed hp.symm x.1 x.2 _

/-- Every property of an interface has a turn. -/
theorem Matches.mem_turns (h : g.Matches x y p q) : x ∈ g.turns :=
  List.mem_flatMap.2 ⟨x.1, mem_interfaceIds.2 h.isInterface, List.mem_map.2
    ⟨x.2, List.mem_range.2 (List.getElem?_eq_some_iff.1 h.declares).1, rfl⟩⟩

/-- Once all properties of interfaces have had their turns, a class that implements an interface
names a member as the interface does, with these exceptions: the name that the class gives it is
taken; when the property of the interface had its turn, the first other name that a class gave it
was taken; a later turn renamed one of the two and not the other. -/
theorem propagateRenames_aligns (g : Graph) (x y : NodeId × Nat) (p q : Property)
    (h : g.propagateRenames.Matches x y p q) :
    ∃ before after, g.turns = before ++ x :: after ∧
      let atTurn := before.foldl takeTurn g
      (q.name = p.name ∨ g.propagateRenames.Blocked x p q.name ∨ atTurn.Refuses x ∨
        LastApart ((atTurn.takeTurn x).takenOver after) x y) := by
  have hall : g.Renamed g.propagateRenames := by
    rw [propagateRenames_eq]
    exact renamed_takeTurns g.turns g
  obtain ⟨p₀, q₀, h₀, -⟩ := hall.exists_matches h
  obtain ⟨before, after, hturns⟩ := List.append_of_mem h₀.mem_turns
  refine ⟨before, after, hturns, ?_⟩
  intro atTurn
  have hend : after.foldl takeTurn (atTurn.takeTurn x) = g.propagateRenames := by
    rw [propagateRenames_eq, hturns, List.foldl_append, List.foldl_cons]
  have hafter : atTurn.Renamed g.propagateRenames := by
    rw [← hend]
    exact (renamed_propagateRename _).trans (renamed_takeTurns after _)
  obtain ⟨p₁, q₁, h₁, hplaces⟩ := hafter.exists_matches h
  rcases h.declared_or_blocked with hdeclared | hblocked
  · rw [hplaces] at hdeclared
    rcases h₁.sameName_takeTurn hdeclared with hname | hrefuses
    · have hlater := sameName_takeTurns after (atTurn.takeTurn x) [] (.inl hname)
      rw [hend, List.nil_append] at hlater
      rcases hlater with hname | hlast
      · exact .inl (hname p q h.declares h.gives)
      · exact .inr (.inr (.inr hlast))
    · exact .inr (.inr (.inl hrefuses))
  · exact .inr (.inl hblocked)

/-! ## Interfaces with the same classes -/

/-- An interface and the classes that implement it name a member alike, unless the name that a class
gives it is taken. -/
def Aligned (g : Graph) : Prop :=
  ∀ x y p q, g.Matches x y p q → q.name = p.name ∨ g.Blocked x p q.name

/-- Two interfaces, and two classes that declare their member. -/
def unrelated : Graph :=
  { nodes :=
      #[.make "I" "" default (.interface { properties := holds 0 "X" }),
        .make "J" "" default (.interface { properties := holds 1 "X" }),
        .make "C" "" default (.classLike { properties := holds 2 "X" }),
        .make "D" "" default (.classLike { properties := holds 3 "Y" })] }

/-- The first class implements both interfaces, and the other one, which has another name for the
member, implements the second interface only. -/
def overlapping : Graph :=
  ((unrelated.addImplementer 0 2).addImplementer 1 2).addImplementer 1 3

theorem overlapping_linked : overlapping.Linked := by
  have h₀ : unrelated.Linked := (unlinked_of_nodes (by decide)).linked
  have h₁ : (unrelated.addImplementer 0 2).Linked :=
    linked_addImplementer h₀ ⟨_, rfl, rfl⟩ ⟨_, rfl, rfl⟩
  have h₂ : ((unrelated.addImplementer 0 2).addImplementer 1 2).Linked :=
    linked_addImplementer h₁ ⟨_, rfl, rfl⟩ ⟨_, rfl, rfl⟩
  exact linked_addImplementer h₂ ⟨_, rfl, rfl⟩ ⟨_, rfl, rfl⟩

/-- The property of the first interface. -/
def aloof : Property := .make 0 "X" ⟨"urn:t", "x"⟩ (.primitive .string)

/-- The property of the first class, in the end. -/
def swayed : Property := { Property.make 2 "X" ⟨"urn:t", "x"⟩ (.primitive .string) with name := "Y" }

theorem overlapping_matches :
    overlapping.propagateRenames.Matches (0, 0) (2, 0) aloof swayed where
  isInterface := by decide
  isClass := by decide
  implements := by decide
  declares := by decide
  gives := by decide
  same := by decide

theorem propagateRenames_aligns_overlapping :
    overlapping.propagateRenames.Matches (0, 0) (2, 0) aloof swayed ∧
    ∃ before after, overlapping.turns = before ++ (0, 0) :: after ∧
      let atTurn := before.foldl takeTurn overlapping
      (swayed.name = aloof.name ∨ overlapping.propagateRenames.Blocked (0, 0) aloof swayed.name ∨
        atTurn.Refuses (0, 0) ∨
        LastApart ((atTurn.takeTurn (0, 0)).takenOver after) (0, 0) (2, 0)) :=
  ⟨overlapping_matches,
    propagateRenames_aligns overlapping (0, 0) (2, 0) aloof swayed overlapping_matches⟩

/-- An interface with two classes that have other names for its member, and an interface for the
second member of one of them. -/
def strangers : Graph :=
  let second (owner : NodeId) (name : String) : Property :=
    .make owner name ⟨"urn:t", "z"⟩ (.primitive .string)
  { nodes :=
      #[.make "I" "" default (.interface { properties := holds 0 "X" }),
        .make "J" "" default (.interface { properties := [second 1 "V"] }),
        .make "B" "" default (.classLike { properties := holds 2 "Y" }),
        .make "C" "" default (.classLike { properties := holds 3 "Z" ++ [second 3 "Y"] }),
        .make "D" "" default (.classLike { properties := [second 4 "W"] })] }

/-- The name that the first class has is taken in the second one, until the other interface renames
the property that has it there. -/
def rivals : Graph :=
  (((strangers.addImplementer 0 2).addImplementer 0 3).addImplementer 1 4).addImplementer 1 3

theorem rivals_linked : rivals.Linked := by
  have h₀ : strangers.Linked := (unlinked_of_nodes (by decide)).linked
  have h₁ : (strangers.addImplementer 0 2).Linked :=
    linked_addImplementer h₀ ⟨_, rfl, rfl⟩ ⟨_, rfl, rfl⟩
  have h₂ : ((strangers.addImplementer 0 2).addImplementer 0 3).Linked :=
    linked_addImplementer h₁ ⟨_, rfl, rfl⟩ ⟨_, rfl, rfl⟩
  have h₃ : (((strangers.addImplementer 0 2).addImplementer 0 3).addImplementer 1 4).Linked :=
    linked_addImplementer h₂ ⟨_, rfl, rfl⟩ ⟨_, rfl, rfl⟩
  exact linked_addImplementer h₃ ⟨_, rfl, rfl⟩ ⟨_, rfl, rfl⟩

/-- The second interface gives its classes the name of the last one, and so parts the first class
from the first interface, whose turn is over. And where the first other name is taken, no further
one is tried, though in the end both are free. -/
theorem propagateRenames_not_aligned :
    (overlapping.Linked ∧ overlapping.DistinctNames ∧ ¬ overlapping.propagateRenames.Aligned) ∧
    rivals.Linked ∧ rivals.DistinctNames ∧ ¬ rivals.propagateRenames.Aligned := by
  refine ⟨⟨overlapping_linked, by decide, fun h => ?_⟩, rivals_linked, by decide, fun h => ?_⟩
  · rcases h _ _ _ _ overlapping_matches with hname | ⟨t, ht, htaken⟩
    · exact absurd hname (by decide)
    · revert t
      decide
  · have hmatches : rivals.propagateRenames.Matches (0, 0) (3, 0) aloof
        (.make 3 "Z" ⟨"urn:t", "x"⟩ (.primitive .string)) :=
      ⟨by decide, by decide, by decide, by decide, by decide, by decide⟩
    rcases h _ _ _ _ hmatches with hname | ⟨t, ht, htaken⟩
    · exact absurd hname (by decide)
    · revert t
      decide

end XmlTypes.Graph
