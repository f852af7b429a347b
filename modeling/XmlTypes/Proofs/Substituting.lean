import XmlTypes.Proofs.Finishing
import XmlTypes.Proofs.SubstitutionGroups
/-!
# What becomes of the properties that wait

Where substitutes are merged, each property that waits for the members of a head gets them, and all
others stay as they are (`properties_merged`). Where they are separate, a property is to be added for
each substitute beside the property for its head (`attachSubstitutes_eq_addAll`).
-/

namespace XmlTypes.Build

variable {env : Environment} {registry : Substitutions} {g g' : Graph} {sites : List Site}
  {id : NodeId} {p q : Property}

/-! ## Merged -/

/-- The property waits for the members of its head at one of the sites. -/
def WaitsAt (sites : List Site) (id : NodeId) (p : Property) : Prop :=
  p.isElement p.schemaName = true ∧ ⟨id, p.schemaName⟩ ∈ sites

instance (sites : List Site) (id : NodeId) (p : Property) : Decidable (WaitsAt sites id p) :=
  inferInstanceAs (Decidable (_ ∧ _))

/-- The property with the substitutes for its head, if there are any for which it waits. -/
def Substitutions.merged (registry : Substitutions) (sites : List Site) (id : NodeId)
    (p : Property) : Property :=
  if WaitsAt sites id p ∧ registry.substitutesOf p.schemaName ≠ [] then
    { p with substitutes := registry.substitutesOf p.schemaName }
  else p

theorem isElement_iff {name : QName} : p.isElement name = true ↔
    p.isAttribute = false ∧ p.isWildcard = false ∧ p.schemaName = name := by
  simp [Property.isElement, and_assoc]

theorem merged_of_not (h : ¬ WaitsAt sites id p) : registry.merged sites id p = p :=
  if_neg fun hw => h hw.1

theorem plain_merged (registry : Substitutions) (sites : List Site) (id : NodeId)
    (p : Property) : (registry.merged sites id p).plain = p.plain := by
  unfold Substitutions.merged
  split <;> rfl

/-- Where one of the sites comes first. -/
theorem merged_cons (site : Site) (p : Property) :
    registry.merged sites id (registry.merged [site] id p) =
      registry.merged (site :: sites) id p := by
  have hcons : WaitsAt (site :: sites) id p ↔ WaitsAt [site] id p ∨ WaitsAt sites id p := by
    simp only [WaitsAt, List.mem_cons, List.not_mem_nil, or_false, ← and_or_left]
  by_cases hsome : registry.substitutesOf p.schemaName = []
  · simp [Substitutions.merged, hsome]
  by_cases hsite : WaitsAt [site] id p
  · -- What is put on the property does not change what it waits for.
    have hput : registry.merged [site] id p =
        { p with substitutes := registry.substitutesOf p.schemaName } := if_pos ⟨hsite, hsome⟩
    rw [hput, Substitutions.merged, Substitutions.merged,
      if_pos (show _ ∧ _ from ⟨hcons.2 (.inl hsite), hsome⟩)]
    split <;> rfl
  · rw [merged_of_not hsite, Substitutions.merged, Substitutions.merged]
    simp only [hcons, hsite, false_or]

/-- No two properties of a node are for elements of one name. -/
def SoleElements (g : Graph) : Prop :=
  ∀ id name, (g.properties id).countP (·.isElement name) ≤ 1

/-- To change the first that is found is to change all if there is only one. -/
theorem modify_findIdx_eq_map {α : Type} {f : α → Bool} (c : α → α) (as : List α)
    (h : as.countP f ≤ 1) :
    (match as.findIdx? f with | none => as | some i => as.modify i c) =
      as.map fun a => if f a then c a else a := by
  induction as with
  | nil => rfl
  | cons a as ih =>
    rw [List.findIdx?_cons]
    by_cases ha : f a = true
    · have hnone : ∀ b ∈ as, ¬ f b = true := by
        rw [List.countP_cons_of_pos ha] at h
        exact List.countP_eq_zero.1 (Nat.le_zero.1 (Nat.le_of_succ_le_succ h))
      rw [if_pos ha, List.map_cons, if_pos ha]
      refine congrArg (c a :: ·) ((List.map_id as).symm.trans ?_)
      exact List.map_congr_left fun b hb => (if_neg (hnone b hb)).symm
    · rw [List.countP_cons_of_neg ha] at h
      rw [if_neg ha, List.map_cons, if_neg ha, ← ih h]
      cases as.findIdx? f <;> rfl

theorem waitsAt_singleton {site : Site} :
    WaitsAt [site] id p ↔ id = site.owner ∧ p.isElement site.head = true := by
  obtain ⟨owner, head⟩ := site
  simp only [WaitsAt, List.mem_singleton, Site.mk.injEq, isElement_iff]
  grind

/-- What one site does to the properties of its owner. -/
theorem merged_singleton {site : Site} (h : registry.substitutesOf site.head ≠ [])
    (p : Property) : registry.merged [site] site.owner p =
      if p.isElement site.head = true then
        { p with substitutes := registry.substitutesOf site.head } else p := by
  by_cases hp : p.isElement site.head = true
  · have hname := (isElement_iff.1 hp).2.2
    rw [if_pos hp, Substitutions.merged,
      if_pos ⟨waitsAt_singleton.2 ⟨rfl, hp⟩, hname ▸ h⟩, hname]
  · rw [if_neg hp, merged_of_not fun hw => hp (waitsAt_singleton.1 hw).2]

theorem map_merged_eq_self {ps : List Property}
    (h : ∀ p ∈ ps, registry.merged sites id p = p) : ps = ps.map (registry.merged sites id) :=
  (List.map_id _).symm.trans (List.map_congr_left fun p hp => (h p hp).symm)

theorem properties_mergeSubstitutes (g : Graph) (site : Site) (substitutes : List Substitute) :
    (mergeSubstitutes g site substitutes).properties id =
      if id = site.owner then
        match (g.properties id).findIdx? (·.isElement site.head) with
        | none => g.properties id
        | some i => (g.properties id).modify i fun p => { p with substitutes }
      else g.properties id := by
  unfold mergeSubstitutes
  split
  · rename_i hnone
    split
    · rename_i hid
      rw [hid, hnone]
    · rfl
  · rename_i i hi
    rw [Graph.properties_modify_mapProperties (by cases i <;> rfl)]
    split
    · rename_i hid
      rw [hid, hi]
    · rfl

/-- One site gets what it waits for. -/
theorem properties_merged_singleton (hg : SoleElements g) (site : Site) (id : NodeId) :
    ((if (registry.substitutesOf site.head).isEmpty then g
      else mergeSubstitutes g site (registry.substitutesOf site.head)).properties id) =
      (g.properties id).map (registry.merged [site] id) := by
  split
  · rename_i hempty
    refine map_merged_eq_self fun p _ => if_neg fun hw => hw.2 ?_
    rw [(isElement_iff.1 (waitsAt_singleton.1 hw.1).2).2.2]
    exact List.isEmpty_iff.1 hempty
  · rename_i hsome
    rw [properties_mergeSubstitutes]
    split
    · rename_i hid
      subst hid
      rw [modify_findIdx_eq_map _ _ (hg site.owner site.head)]
      refine List.map_congr_left fun p _ => (merged_singleton ?_ p).symm
      simpa using hsome
    · rename_i hid
      exact map_merged_eq_self fun p _ =>
        merged_of_not fun h => hid (waitsAt_singleton.1 h).1

/-- Every property that waits gets what it waits for. -/
theorem properties_merged (hstrategy : env.options.substitutionStrategy = .merge)
    (hg : SoleElements g) (id : NodeId) : (attachSubstitutes env registry g).properties id =
      (g.properties id).map (registry.merged registry.sites id) := by
  unfold attachSubstitutes
  simp only [hstrategy]
  generalize registry.sites = sites
  induction sites generalizing g with
  | nil => exact map_merged_eq_self fun p _ => merged_of_not fun h => List.not_mem_nil h.2
  | cons site sites ih =>
    have hsole : SoleElements (if (registry.substitutesOf site.head).isEmpty then g
        else mergeSubstitutes g site (registry.substitutesOf site.head)) := by
      intro id name
      rw [properties_merged_singleton hg, List.countP_map]
      refine Nat.le_trans (Nat.le_of_eq (List.countP_congr fun p _ => ?_)) (hg id name)
      change (registry.merged [site] id p).plain.isElement name = true ↔ p.plain.isElement name
      rw [plain_merged]
    rw [List.foldl_cons, ih hsole, properties_merged_singleton hg, List.map_map]
    exact List.map_congr_left fun p _ => merged_cons site p

/-! ## Separate -/

/-- The property is one for a substitute, beside the property for its head, which waits. -/
def IsBeside (env : Environment) (registry : Substitutions) (g : Graph) (id : NodeId)
    (q : Property) : Prop :=
  ∃ head ∈ g.properties id, WaitsAt registry.sites id head ∧
    ∃ x ∈ registry.substitutesOf head.schemaName, ∃ ownerName,
      q = substituteProperty env.naming id ownerName head x

/-- What separating leaves of the properties of `g`, and what it adds to them. -/
structure Separates (env : Environment) (registry : Substitutions) (g g' : Graph) : Prop where
  kept : ∀ id, g.properties id <+: g'.properties id
  added : ∀ id, ∀ q ∈ g'.properties id, q ∈ g.properties id ∨ IsBeside env registry g id q

/-- One more property beside that for a head. -/
theorem Separates.addProperty (h : Separates env registry g g')
    (hp : IsBeside env registry g p.owner p) : Separates env registry g (g'.addProperty p).1 := by
  have hcases := addProperty_cases g' p
  refine ⟨fun id => ?_, fun id q hq => ?_⟩
  · rcases hcases id with hsame | ⟨-, -, hnew⟩
    · exact hsame ▸ h.kept id
    · exact hnew ▸ (h.kept id).trans (List.prefix_append _ _)
  · rcases hcases id with hsame | ⟨hid, -, hnew⟩
    · exact h.added id q (hsame ▸ hq)
    · rw [hnew] at hq
      rcases List.mem_append.1 hq with hold | hlast
      · exact h.added id q hold
      · obtain rfl := List.mem_singleton.1 hlast
        exact .inr (hid ▸ hp)

/-- The properties for the substitutes at a site. -/
def siteSubstitutes (env : Environment) (registry : Substitutions) (g : Graph) (site : Site) :
    List Property :=
  ((siteProperty? g site).map fun head => (registry.substitutesOf site.head).map
    (substituteProperty env.naming site.owner (g.nameOf site.owner) head)).getD []

theorem mem_siteSubstitutes {site : Site} {q : Property} :
    q ∈ siteSubstitutes env registry g site ↔ ∃ head, siteProperty? g site = some head ∧
      ∃ x ∈ registry.substitutesOf site.head,
        q = substituteProperty env.naming site.owner (g.nameOf site.owner) head x := by
  unfold siteSubstitutes
  cases siteProperty? g site <;> simp [eq_comm]

/-- The properties for the substitutes at all sites, in the order in which they are added. -/
def substituteProperties (env : Environment) (registry : Substitutions) (g : Graph) :
    List Property := registry.sites.flatMap (siteSubstitutes env registry g)

theorem isBeside_of_mem (h : q ∈ substituteProperties env registry g) :
    IsBeside env registry g q.owner q := by
  obtain ⟨site, hsite, h⟩ := List.mem_flatMap.1 h
  obtain ⟨head, hhead, x, hx, rfl⟩ := mem_siteSubstitutes.1 h
  have helement := List.find?_some hhead
  have hname := (isElement_iff.1 helement).2.2
  exact ⟨head, List.mem_of_find?_eq_some hhead, ⟨hname ▸ helement, hname ▸ hsite⟩, x, hname ▸ hx,
    _, rfl⟩

/-- The graph with properties for the substitutes at some sites. -/
def separated (env : Environment) (registry : Substitutions) (sites : List Site) (g : Graph) :
    Graph :=
  sites.foldl (fun g site =>
    separateSubstitutes env.naming g site (registry.substitutesOf site.head)) g

theorem attachSubstitutes_eq (hstrategy : env.options.substitutionStrategy = .separate) :
    attachSubstitutes env registry g = separated env registry registry.sites g := by
  unfold attachSubstitutes separated
  simp only [hstrategy]

section
variable (hsites : ∀ site ∈ registry.sites, (siteProperty? g site).isSome)
include hsites

/-- Where the properties that wait are there, it is settled from the beginning what is to be
added. -/
theorem separated_eq_addAll (hsub : sites ⊆ registry.sites) (hgrows : g.Grows g') :
    separated env registry sites g' =
      g'.addAll (sites.flatMap (siteSubstitutes env registry g)) := by
  induction sites generalizing g' with
  | nil => rfl
  | cons site sites ih =>
    obtain ⟨head, hhead⟩ := Option.isSome_iff_exists.1 (hsites site (hsub (by simp)))
    -- What was added meanwhile comes later, and no name has changed.
    have hfound : siteProperty? g' site = some head :=
      (hgrows.properties site.owner).find?_eq_some hhead
    obtain ⟨n, hn, -⟩ := Graph.hasMembers_of_mem (List.mem_of_find?_eq_some hhead)
    obtain ⟨m, hm, hnm⟩ := hgrows.nodes _ n hn
    have hname : g'.nameOf site.owner = g.nameOf site.owner := by
      rw [Graph.nameOf_of_node? hm, Graph.nameOf_of_node? hn, hnm.name]
    have hsite : separateSubstitutes env.naming g' site (registry.substitutesOf site.head) =
        g'.addAll (siteSubstitutes env registry g site) := by
      unfold separateSubstitutes siteSubstitutes Graph.addAll
      simp only [hfound, hhead, hname, Option.map_some, Option.getD_some, List.foldl_map]
    change separated env registry sites (separateSubstitutes env.naming g' site
      (registry.substitutesOf site.head)) = _
    rw [hsite, ih (fun x hx => hsub (List.mem_cons_of_mem _ hx))
      (hgrows.trans (Graph.grows_addAll _ _)), List.flatMap_cons, Graph.addAll_append]

theorem attachSubstitutes_eq_addAll (hstrategy : env.options.substitutionStrategy = .separate) :
    attachSubstitutes env registry g = g.addAll (substituteProperties env registry g) :=
  (attachSubstitutes_eq hstrategy).trans
    (separated_eq_addAll hsites (List.Subset.refl _) (.refl g))

/-- All that is added stands beside the properties that wait. -/
theorem attachSubstitutes_separates (hstrategy : env.options.substitutionStrategy = .separate) :
    Separates env registry g (attachSubstitutes env registry g) := by
  rw [attachSubstitutes_eq_addAll hsites hstrategy]
  exact List.foldlRecOn (motive := Separates env registry g) _ _
    ⟨fun _ => List.prefix_rfl, fun _ _ => .inl⟩ fun _ h q hq => h.addProperty (isBeside_of_mem hq)

/-- Each site gets a property for each substitute, unless the name of the property is taken. -/
theorem attachSubstitutes_named (hstrategy : env.options.substitutionStrategy = .separate)
    {site : Site} (hsite : site ∈ registry.sites) {x : Substitute}
    (hx : x ∈ registry.substitutesOf site.head) :
    ∃ q ∈ (attachSubstitutes env registry g).flattenedProperties site.owner,
      q.name = env.naming.elementProperty x.member (g.nameOf site.owner) := by
  obtain ⟨head, hhead⟩ := Option.isSome_iff_exists.1 (hsites site hsite)
  rw [attachSubstitutes_eq_addAll hsites hstrategy]
  exact Graph.addAll_named (p := substituteProperty env.naming site.owner (g.nameOf site.owner) head x)
    (List.mem_flatMap.2 ⟨site, hsite, mem_siteSubstitutes.2 ⟨head, hhead, x, hx, rfl⟩⟩)
    (Graph.hasMembers_of_mem (List.mem_of_find?_eq_some hhead))

end

end XmlTypes.Build
