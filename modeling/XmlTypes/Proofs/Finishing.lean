import XmlTypes.Proofs.Attaching
/-!
# Finishing a graph

First interfaces take over names: the properties stay in their places, and only names change
(`Graph.Renames`). The passes after that leave the properties of classes alone, and drop some of
those of interfaces (`Graph.Tidies`). What a finished graph keeps of the state it comes from is put
together at the end.
-/

namespace XmlTypes.Graph

open Relation

variable {g g' g'' : Graph} {id : NodeId}

theorem mem_interfaceIds : id ∈ g.interfaceIds ↔ (g.interface? id).isSome := by
  rw [interfaceIds, List.mem_filter, and_iff_right_iff_imp, ids, List.mem_range]
  intro hi
  cases hn : g.node? id with
  | none => simp [interface?, hn] at hi
  | some n => exact lt_size_of_node? hn

/-! ## Renames -/

/-- Gives one name to the properties at all the given places. -/
def renameAll (g : Graph) (targets : List (NodeId × Nat)) (name : String) : Graph :=
  targets.foldl (fun g t => g.renameProperty t.1 t.2 name) g

/-- An interface and what refers to it take over a name that is free for all of them. -/
inductive Renames : Graph → Graph → Prop
  | mk {g interface index p name} : (g.interface? interface).isSome →
      (g.properties interface)[index]? = some p →
      (∀ t ∈ g.declarations interface index (g.implementersOf interface) p,
        g.isNameTaken t.1 t.2 name = false) →
      Renames g (g.renameAll
        (g.declarations interface index (g.implementersOf interface) p) name)

theorem shares_renameProperty (owner : NodeId) (position : Nat) (name : String) :
    g.Shares (g.renameProperty owner position name) :=
  .modify fun n => n.mapProperties_shares _

theorem getElem?_renameProperty (owner : NodeId) (position : Nat) (name : String) (i : Nat) :
    ((g.renameProperty owner position name).properties id)[i]? =
      ((g.properties id)[i]?).map fun p =>
        if (id, i) = (owner, position) then { p with name } else p := by
  rw [renameProperty, properties_modify_mapProperties (by cases position <;> rfl)]
  by_cases hid : id = owner
  · rw [if_pos hid, List.getElem?_modify, Option.map_eq_map]
    simp only [Prod.mk.injEq, hid, true_and, eq_comm]
  · simp [hid]

theorem shares_renameAll (targets : List (NodeId × Nat)) (name : String) (g : Graph) :
    g.Shares (g.renameAll targets name) :=
  List.foldlRecOn (motive := g.Shares) _ _ (.refl g)
    fun _ h t _ => h.trans (shares_renameProperty t.1 t.2 name)

/-- A property gets the name exactly if it stands at one of the places. -/
theorem getElem?_renameAll (targets : List (NodeId × Nat)) (name : String) (i : Nat) :
    ∀ g : Graph, ((g.renameAll targets name).properties id)[i]? =
      ((g.properties id)[i]?).map fun p => if (id, i) ∈ targets then { p with name } else p := by
  induction targets with
  | nil => intro g; simp [renameAll]
  | cons t ts ih =>
    intro g
    rw [renameAll, List.foldl_cons]
    refine (ih _).trans ?_
    rw [getElem?_renameProperty, Option.map_map]
    congr 1
    funext p
    by_cases h : (id, i) = t <;> by_cases h' : (id, i) ∈ ts <;> simp [h, h']

theorem Renames.shares (h : Renames g g') : g.Shares g' := by
  cases h with
  | mk _ _ _ => exact shares_renameAll _ _ g

/-- Properties stay in their places, and keep all but their names. -/
theorem unnamed_renameAll (targets : List (NodeId × Nat)) (name : String) (g : Graph)
    (id : NodeId) : ((g.renameAll targets name).properties id).map Property.unnamed =
      (g.properties id).map Property.unnamed := by
  apply List.ext_getElem?
  intro i
  rw [List.getElem?_map, List.getElem?_map, getElem?_renameAll, Option.map_map]
  congr 1
  funext p
  simp only [Function.comp]
  split <;> rfl

theorem Renames.unnamed (h : Renames g g') (id : NodeId) :
    (g'.properties id).map Property.unnamed = (g.properties id).map Property.unnamed := by
  cases h with
  | mk _ _ _ => exact unnamed_renameAll _ _ g id

theorem Shares.implementersOf (h : g.Shares g') (id : NodeId) :
    g'.implementersOf id = g.implementersOf id := by
  rw [implementersOf_eq, implementersOf_eq, h.map_node? fun _ _ hs => hs.implementers]

theorem propagateRename_renames {interface : NodeId} (hi : (g.interface? interface).isSome)
    (index : Nat) : ReflTransGen Renames g
      (propagateRename interface (g.implementersOf interface) g index) := by
  unfold propagateRename
  cases hp : (g.properties interface)[index]? with
  | none => exact .refl
  | some p =>
    dsimp only
    cases g.newName? (g.implementersOf interface) p with
    | none => exact .refl
    | some name =>
      dsimp only
      split
      · exact .refl
      · rename_i hfree
        exact .single (.mk hi hp (by simpa using hfree))

theorem shares_of_renames (h : ReflTransGen Renames g g') : g.Shares g' := by
  induction h with
  | refl => exact .refl g
  | tail _ h ih => exact ih.trans h.shares

theorem unnamed_of_renames (h : ReflTransGen Renames g g') (id : NodeId) :
    (g'.properties id).map Property.unnamed = (g.properties id).map Property.unnamed := by
  induction h with
  | refl => rfl
  | tail _ h ih => exact (h.unnamed id).trans ih

/-- Nothing but names changes on the way, so what a step looks at is what it was in the
beginning. -/
theorem propagateRenames_renames (g : Graph) : ReflTransGen Renames g g.propagateRenames := by
  -- One fold over the interfaces, and for each of them one over its properties.
  refine List.foldlRecOn (motive := ReflTransGen Renames g) _ _ .refl
    fun g₁ h₁ interface hi => h₁.trans ?_
  have hi₁ : (g₁.interface? interface).isSome := by
    rw [(shares_of_renames h₁).isSome_interface?]
    exact (List.mem_filter.1 hi).2
  refine List.foldlRecOn (motive := ReflTransGen Renames g₁) _ _ .refl
    fun g₂ h₂ index _ => h₂.trans ?_
  have hs₂ := shares_of_renames h₂
  change ReflTransGen Renames g₂
    (propagateRename interface (g₁.implementersOf interface) g₂ index)
  rw [← hs₂.implementersOf]
  exact propagateRename_renames (hs₂.isSome_interface? interface ▸ hi₁) index

/-! ## Other passes -/

/-- The properties of classes are the same, and interfaces have got none. -/
structure Tidies (g g' : Graph) : Prop where
  shares : g.Shares g'
  classes : ∀ id, (g.class? id).isSome → g'.properties id = g.properties id
  properties : ∀ id, g'.properties id ⊆ g.properties id

theorem Tidies.refl (g : Graph) : g.Tidies g :=
  ⟨.refl g, fun _ _ => rfl, fun _ => List.Subset.refl _⟩

theorem Tidies.trans (h : g.Tidies g') (h' : g'.Tidies g'') : g.Tidies g'' where
  shares := h.shares.trans h'.shares
  classes id hid := (h'.classes id (h.shares.isSome_class? id ▸ hid)).trans (h.classes id hid)
  properties id := List.Subset.trans (h'.properties id) (h.properties id)

/-- Names and roots of nodes do not matter. -/
theorem tidies_of_kind (hsize : g'.size = g.size) (h : ∀ id m, g.node? id = some m →
    ∃ n, g'.node? id = some n ∧ m.Shares n ∧ n.kind = m.kind) : g.Tidies g' := by
  have hshares : g.Shares g' := ⟨hsize, fun id m hm => by
    obtain ⟨n, hn, hs, -⟩ := h id m hm
    exact ⟨n, hn, hs⟩⟩
  have hprops (id : NodeId) : g'.properties id = g.properties id := by
    rcases hshares.node?_cases id with ⟨hm, hn⟩ | ⟨m, n, hm, hn, -⟩
    · rw [properties_eq, properties_eq, hm, hn]
    · obtain ⟨n', hn', -, hk⟩ := h id m hm
      rw [hn, Option.some.injEq] at hn'
      rw [properties_of_node? hm, properties_of_node? hn, Node.properties, Node.properties, hn', hk]
  exact ⟨hshares, fun id _ => hprops id, fun id => hprops id ▸ List.Subset.refl _⟩

theorem pruneInterface_tidies {interface : NodeId} (hi : (g.interface? interface).isSome) :
    g.Tidies (g.pruneInterface interface) := by
  have hprops (id : NodeId) : (g.pruneInterface interface).properties id = _ :=
    properties_modify_mapProperties rfl
  refine ⟨.modify fun n => n.mapProperties_shares _, fun id hid => (hprops id).trans (if_neg ?_),
    fun id => ?_⟩
  · rintro rfl
    obtain ⟨n, hn, hclass⟩ := class?_isSome.1 hid
    rw [interface?, hn] at hi
    rw [Node.isClass_false_of_isInterface hi] at hclass
    cases hclass
  · refine (hprops id).symm ▸ ?_
    split
    · exact List.filter_sublist.subset
    · exact List.Subset.refl _

theorem pruneDuplicates_tidies (g : Graph) : g.Tidies g.pruneDuplicates := by
  refine List.foldlRecOn (motive := g.Tidies) _ _ (.refl g) fun g' h i hi => ?_
  refine h.trans (pruneInterface_tidies ?_)
  rw [h.shares.isSome_interface?]
  exact (List.mem_filter.1 hi).2

theorem disambiguateRoots_tidies (g : Graph) : g.Tidies g.disambiguateRoots := by
  refine tidies_of_kind (by simp [disambiguateRoots, size]) fun id m hm => ?_
  have hnode : g.disambiguateRoots.node? id = (g.node? id).map fun n =>
      if mayBeRoot n && g.isSharedName n then { n with root := some n.identity } else n := by
    simp [disambiguateRoots, node?]
  rw [hnode, hm]
  -- Only a node that may get a root gets one.
  cases hmay : mayBeRoot m with
  | false => exact ⟨m, by simp [hmay], .rfl, rfl⟩
  | true =>
    refine ⟨_, rfl, Node.shares_of_kind ?_ ?_ ?_ (fun h => ?_) ?_, ?_⟩
    case refine_4 => exact absurd (h.symm.trans hmay) Bool.false_ne_true
    all_goals dsimp only; split <;> rfl

theorem rename_tidies (id : NodeId) (name : String) : g.Tidies (g.rename id name) := by
  unfold rename
  split
  · exact .refl g
  · refine tidies_of_kind (size_modify _ _) fun j m hm => ?_
    rw [node?_congr (nodes_modifyTypes _ _), node?_modify, hm]
    split
    · exact ⟨_, rfl, Node.shares_of_kind rfl rfl rfl (fun _ => rfl) rfl, rfl⟩
    · exact ⟨m, rfl, .rfl, rfl⟩

theorem enforceUniqueNames_tidies (g : Graph) : g.Tidies g.enforceUniqueNames := by
  refine List.foldlRecOn (motive := fun u : NameUse => g.Tidies u.graph) _ _ (.refl g)
    fun u h id _ => ?_
  unfold NameUse.settle
  dsimp only
  split
  · exact h
  · exact h.trans (rename_tidies _ _)

theorem markAmbiguous_tidies (g : Graph) : g.Tidies g.markAmbiguous := by
  have h : g.markAmbiguous.nodes = g.nodes := rfl
  exact tidies_of_kind (by rw [size, size, h]) fun id m hm =>
    ⟨m, by rw [node?_congr h, hm], .rfl, rfl⟩

theorem finish_tidies (options : Options) (g : Graph) :
    g.propagateRenames.Tidies (g.finish options).markAmbiguous := by
  have h := (pruneDuplicates_tidies g.propagateRenames).trans (disambiguateRoots_tidies _)
  unfold finish
  dsimp only
  split
  · exact (h.trans (enforceUniqueNames_tidies _)).trans (markAmbiguous_tidies _)
  · exact h.trans (markAmbiguous_tidies _)

end XmlTypes.Graph

namespace XmlTypes.Build

/-! ## The whole -/

variable {env : Environment} {s : State}

/-- The graph of a state once substitutes are attached. -/
def State.attached (env : Environment) (s : State) : Graph :=
  attachSubstitutes env s.context.substitutions s.graph

theorem State.attaches (env : Environment) (s : State) :
    Relation.ReflTransGen (Attaches env s.context.substitutions) s.graph (s.attached env) :=
  attachSubstitutes_attaches s.graph

theorem State.attached_of (env : Environment) (s : State) :
    Attached env s.context.substitutions s.graph (s.attached env) :=
  attached_of_attaches (s.attaches env)

theorem State.finished_tidies (env : Environment) (s : State) :
    (s.attached env).propagateRenames.Tidies (s.finished env) :=
  Graph.finish_tidies env.options _

theorem State.finished_shares (env : Environment) (s : State) :
    s.graph.Shares (s.finished env) :=
  ((s.attached_of env).shares.trans (Graph.shares_of_renames
    (Graph.propagateRenames_renames _))).trans (s.finished_tidies env).shares

/-- A node that is there before a graph is finished is there afterwards. -/
theorem finished_node? (env : Environment) {id : NodeId} {m : Node}
    (h : s.graph.node? id = some m) : ∃ n, (s.finished env).node? id = some n ∧ m.Shares n :=
  (s.finished_shares env).nodes id m h

/-- A node of a finished graph was there before. -/
theorem node?_of_finished {id : NodeId} {n : Node} (h : (s.finished env).node? id = some n) :
    ∃ m, s.graph.node? id = some m ∧ m.Shares n := by
  rcases (s.finished_shares env).node?_cases id with ⟨-, hnone⟩ | ⟨m, n', hm, hn', hs⟩
  · rw [h] at hnone
    cases hnone
  · obtain rfl := Option.some.inj (h.symm.trans hn')
    exact ⟨m, hm, hs⟩

theorem bare_of_plain {ps qs : List Property}
    (h : ps.map Property.plain <+: qs.map Property.plain) :
    ps.map Property.bare <+: qs.map Property.bare := by
  have hbare (ps : List Property) : ps.map Property.bare =
      (ps.map Property.plain).map Property.unnamed := by
    rw [List.map_map]; rfl
  rw [hbare, hbare]
  exact h.map _

theorem bare_of_unnamed {ps qs : List Property}
    (h : qs.map Property.unnamed = ps.map Property.unnamed) :
    qs.map Property.bare = ps.map Property.bare := by
  have hbare (ps : List Property) : ps.map Property.bare =
      (ps.map Property.unnamed).map Property.plain := by
    rw [List.map_map]; rfl
  rw [hbare, hbare, h]

/-- Nothing is done to the properties of a class after renaming. -/
theorem finished_properties {id : NodeId} (hid : (s.graph.class? id).isSome) :
    (s.finished env).properties id = (s.attached env).propagateRenames.properties id := by
  refine (s.finished_tidies env).classes id ?_
  rwa [(Graph.shares_of_renames (Graph.propagateRenames_renames _)).isSome_class?,
    (s.attached_of env).shares.isSome_class?]

/-- The properties of a class after renaming are what they were with substitutes attached. -/
theorem finished_bare {id : NodeId} (hid : (s.graph.class? id).isSome) :
    ((s.finished env).properties id).map Property.bare =
      ((s.attached env).properties id).map Property.bare := by
  rw [finished_properties hid]
  exact bare_of_unnamed (Graph.unnamed_of_renames (Graph.propagateRenames_renames _) id)

theorem finished_nil {id : NodeId} (hid : (s.graph.class? id).isSome)
    (h : s.graph.properties id = []) : (s.finished env).properties id = [] := by
  have hbare := @finished_bare env s id hid
  rw [State.attached, attachSubstitutes_nil h] at hbare
  simpa using hbare

/-- A class keeps its properties, but for names and substitutes, and in their order. -/
theorem finished_kept {id : NodeId} (hid : (s.graph.class? id).isSome) :
    (s.graph.properties id).map Property.bare <+:
      ((s.finished env).properties id).map Property.bare :=
  finished_bare hid ▸ bare_of_plain ((s.attached_of env).kept id)

/-- It gets no others where substitutes are put on the properties for their heads. -/
theorem finished_merged (hstrategy : env.options.substitutionStrategy = .merge) {id : NodeId}
    (hid : (s.graph.class? id).isSome) :
    ((s.finished env).properties id).map Property.bare =
      (s.graph.properties id).map Property.bare := by
  rw [finished_bare hid]
  have h := (s.attached_of env).merged hstrategy id
  refine List.IsPrefix.eq_of_length (bare_of_plain (h ▸ List.prefix_rfl)) ?_
  simpa using congrArg List.length h

/-- Every property of a finished graph is one with substitutes attached, but for its name. -/
theorem finished_arises {id : NodeId} {q : Property} (hq : q ∈ (s.finished env).properties id) :
    ∃ p ∈ (s.attached env).properties id, q.bare = p.bare ∧ q.substitutes = p.substitutes := by
  have hq := (s.finished_tidies env).properties id hq
  have h := Graph.unnamed_of_renames (Graph.propagateRenames_renames (s.attached env)) id
  have hmem : q.unnamed ∈ ((s.attached env).properties id).map Property.unnamed :=
    h ▸ List.mem_map_of_mem hq
  obtain ⟨p, hp, hpq⟩ := List.mem_map.1 hmem
  refine ⟨p, hp, congrArg Property.plain hpq.symm, ?_⟩
  change q.unnamed.substitutes = p.unnamed.substitutes
  rw [hpq]

end XmlTypes.Build
