import XmlTypes.Proofs.RenameClashes
import XmlTypes.Proofs.StandIns
/-!
# Names of separate substitutes

A property that is added has a name that neither its owner nor one of the base classes of its owner
has. Nothing is asked of the classes below. Members get their properties when the hierarchy of
classes is there already, so a name may be in use there; names stay distinct exactly if no property
that is added is named as one of a class below (`distinctNames_addAll`).
-/

namespace XmlTypes

namespace Graph

variable {g : Graph} {p : Property} {id : NodeId}

/-! ## One property -/

/-- Names are distinct if they are in each class, and it shares none with a base class. -/
theorem distinctNames_iff_disjoint (hbases : ∀ a b, g.base? a = some b → a ∈ g.derivedClasses b) :
    g.DistinctNames ↔ ∀ c, (g.class? c).isSome →
      (g.names c).Nodup ∧ ∀ a ∈ g.ancestors c, (g.names c).Disjoint (g.names a) := by
  rw [distinctNames_iff hbases]
  constructor
  · intro h c hc
    exact ⟨nodup_names_iff.2 fun i j hij => h c i c j ⟨hc, .inl ⟨rfl, hij⟩⟩,
      fun a ha => disjoint_names_iff.2 fun i j => h c i a j ⟨hc, .inr ha⟩⟩
  · rintro h c i a j ⟨hc, ⟨rfl, hij⟩ | ha⟩
    · exact nodup_names_iff.1 (h a hc).1 i j hij
    · exact disjoint_names_iff.1 ((h c hc).2 a ha) i j

/-- No class derived from the owner of the property declares one of its name. -/
def FreeBelow (g : Graph) (p : Property) : Prop :=
  ∀ c, (g.class? c).isSome → p.owner ∈ g.ancestors c → p.name ∉ g.names c

/-- The name of a property that is added is none of its owner and none of a base class. -/
theorem notMem_names_of_added (h : (g.addProperty p).2 = true) {a : NodeId}
    (ha : a ∈ p.owner :: g.ancestors p.owner) : p.name ∉ g.names a := by
  unfold addProperty at h
  split at h
  · cases h
  · rename_i hfree
    intro hname
    obtain ⟨q, hq, hqp⟩ := List.mem_map.1 hname
    exact hfree (List.any_eq_true.2 ⟨q, List.mem_flatMap.2 ⟨a, ha, hq⟩, decide_eq_true hqp⟩)

/-- A property that is added is the last one of its owner. -/
theorem names_addProperty (g : Graph) (p : Property) (id : NodeId) :
    (g.addProperty p).1.names id =
      if (g.addProperty p).2 = true ∧ id = p.owner then g.names id ++ [p.name]
      else g.names id := by
  unfold addProperty
  split
  · simp
  · dsimp only
    rw [names, properties_eq, node?_modify]
    split
    · rename_i hid
      subst hid
      rw [names, properties_eq]
      cases hn : g.node? p.owner with
      | none => simp
      | some n => by_cases hmembers : n.hasMembers <;> simp [Node.properties_mapProperties, hmembers]
    · simp [*, names, properties_eq]

theorem names_sublist_addProperty (g : Graph) (p : Property) (id : NodeId) :
    (g.names id).Sublist ((g.addProperty p).1.names id) := by
  rw [names_addProperty]
  split
  · exact List.sublist_append_left _ _
  · exact List.Sublist.refl _

theorem mem_names_addProperty {x : String} : x ∈ (g.addProperty p).1.names id ↔
    x ∈ g.names id ∨ (g.addProperty p).2 = true ∧ id = p.owner ∧ x = p.name := by
  rw [names_addProperty]
  split <;> simp_all

/-- One more property leaves names distinct exactly if it is not added or no class below has its
name. -/
theorem distinctNames_addProperty (hbases : ∀ a b, g.base? a = some b → a ∈ g.derivedClasses b)
    (p : Property) : (g.addProperty p).1.DistinctNames ↔
      g.DistinctNames ∧ ((g.addProperty p).2 = true → g.FreeBelow p) := by
  have hs := Build.shares_addProperty g p
  rw [distinctNames_iff_disjoint hbases,
    distinctNames_iff_disjoint (hs.mem_derivedClasses hbases)]
  simp only [hs.isSome_class?, hs.ancestors]
  constructor
  · intro h
    refine ⟨fun c hc => ⟨?_, fun a ha x hx hx' => ?_⟩, fun hadded c hc hbelow hname => ?_⟩
    · exact (h c hc).1.sublist (names_sublist_addProperty g p c)
    · exact (h c hc).2 a ha (mem_names_addProperty.2 (.inl hx)) (mem_names_addProperty.2 (.inl hx'))
    · exact (h c hc).2 p.owner hbelow (mem_names_addProperty.2 (.inl hname))
        (mem_names_addProperty.2 (.inr ⟨hadded, rfl, rfl⟩))
  · rintro ⟨h, hbelow⟩ c hc
    obtain ⟨hnodup, hdisjoint⟩ := h c hc
    refine ⟨?_, fun a ha x hx hx' => ?_⟩
    · rw [names_addProperty]
      split
      · rename_i hadded
        obtain ⟨hadded, rfl⟩ := hadded
        refine List.nodup_append.2 ⟨hnodup, List.nodup_singleton _, ?_⟩
        rintro x hx y hy rfl
        exact notMem_names_of_added hadded List.mem_cons_self (List.mem_singleton.1 hy ▸ hx)
      · exact hnodup
    · -- The new name stands in the class, in the base class or in neither of them.
      rcases mem_names_addProperty.1 hx with hx | ⟨hadded, rfl, rfl⟩ <;>
        rcases mem_names_addProperty.1 hx' with hx' | ⟨hadded', hown, hname⟩
      · exact hdisjoint a ha hx hx'
      · exact hbelow hadded' c hc (hown ▸ ha) (hname ▸ hx)
      · exact notMem_names_of_added hadded (List.mem_cons_of_mem _ ha) hx'
      · exact not_mem_ancestors_self (hown ▸ ha)

/-! ## Several properties -/

theorem shares_addAll (g : Graph) (ps : List Property) : g.Shares (g.addAll ps) :=
  List.foldlRecOn (motive := g.Shares) _ _ (.refl g) fun _ h p _ =>
    h.trans (Build.shares_addProperty _ p)

/-- Names stay distinct exactly if no property that is added is named as one that a class below has
at that time. -/
theorem distinctNames_addAll (hbases : ∀ a b, g.base? a = some b → a ∈ g.derivedClasses b)
    (hnames : g.DistinctNames) (ps : List Property) : (g.addAll ps).DistinctNames ↔
      ∀ before p after, ps = before ++ p :: after →
        ((g.addAll before).addProperty p).2 = true → (g.addAll before).FreeBelow p := by
  induction ps using List.reverseRecOn with
  | nil => simp [addAll, hnames]
  | append_singleton ps p ih =>
    have hs := g.shares_addAll ps
    rw [addAll_append, forall_before_concat, ← ih]
    exact distinctNames_addProperty (hs.mem_derivedClasses hbases) p

end Graph

namespace Build

open Schema

variable {s : State}

/-- Under the separate strategy it is settled, once all documents are built, which properties are to
be added for substitutes. Each site gets a property with the name that the policy gives each of its
substitutes, or has one already. If names are distinct before, they stay so exactly if none of the
properties that are added is named as one that a class derived from its owner has at that time. -/
theorem separate_names_iff {set : SchemaSet} {options : Options} {naming : Naming}
    {resolver : Resolver} (h : run (.ofSet set options naming) resolver = .ok s)
    (hstrategy : options.substitutionStrategy = .separate) (hnames : s.graph.DistinctNames) :
    let env := Environment.ofSet set options naming
    let registry := s.context.substitutions
    let added := substituteProperties env registry s.graph
    s.attached env = s.graph.addAll added ∧
    ((s.attached env).DistinctNames ↔ ∀ before p after, added = before ++ p :: after →
      ((s.graph.addAll before).addProperty p).2 = true → (s.graph.addAll before).FreeBelow p) ∧
    ∀ site ∈ registry.sites, ∀ x ∈ registry.substitutesOf site.head,
      ∃ q ∈ (s.attached env).flattenedProperties site.owner,
        q.name = naming.elementProperty x.member (s.graph.nameOf site.owner) := by
  intro env registry added
  have hs : Completed env resolver s := run_completed h
  have hsites : ∀ site ∈ registry.sites, (siteProperty? s.graph site).isSome :=
    fun site hsite => hs.isSome_siteProperty? hsite
  have hattached : s.attached env = s.graph.addAll added :=
    attachSubstitutes_eq_addAll hsites hstrategy
  refine ⟨hattached, ?_, fun site hsite x hx => attachSubstitutes_named hsites hstrategy hsite hx⟩
  rw [hattached]
  exact Graph.distinctNames_addAll (fun a b => (hs.recorded.linked.bases a b).1) hnames added

/-- A type that refers to an element, and a type derived from it that has an element of its own with
the name of a member. -/
def memberBelow : SchemaSet where
  documents :=
    [{ location := "a.xsd"
       targetNamespace := some "urn:t"
       types :=
         [referringType "Base" (sampleName "h"),
          .complex
            { name := some (sampleName "Derived")
              particle := some (sampleSequence [sampleElement "m" (.xsd "string")])
              derivation := some ⟨sampleName "Base", .extension⟩ }]
       elements := [sampleRoot "h" (.named (.xsd "string")), sampleMember "m" "h" false] }]

/-- The environment in which the member gets a property beside the one for its head. -/
def memberBelowEnv : Environment :=
  .ofSet memberBelow { substitutionStrategy := .separate } .conventional

theorem separate_names_member_below : ∃ s, run memberBelowEnv oneNamespace = .ok s ∧
    s.graph.DistinctNames ∧ s.context.substitutions.sites = [⟨0, sampleName "h"⟩] ∧
    let registry := s.context.substitutions
    let added := substituteProperties memberBelowEnv registry s.graph
    s.attached memberBelowEnv = s.graph.addAll added ∧
    ((s.attached memberBelowEnv).DistinctNames ↔ ∀ before p after,
      added = before ++ p :: after → ((s.graph.addAll before).addProperty p).2 = true →
        (s.graph.addAll before).FreeBelow p) ∧
    ∀ site ∈ registry.sites, ∀ x ∈ registry.substitutesOf site.head,
      ∃ q ∈ (s.attached memberBelowEnv).flattenedProperties site.owner,
        q.name = Naming.conventional.elementProperty x.member (s.graph.nameOf site.owner) := by
  obtain ⟨s, h, hp⟩ := exists_of_any (x := run memberBelowEnv oneNamespace)
    (p := fun s => s.graph.DistinctNames &&
      s.context.substitutions.sites = [⟨0, sampleName "h"⟩]) (by decide +kernel)
  simp only [Bool.and_eq_true, decide_eq_true_eq] at hp
  exact ⟨s, h, hp.1, hp.2, separate_names_iff h rfl hp.1⟩

/-- The member gets a property in the base type although the derived type has one of its name. -/
theorem member_name_taken_below : ∃ s, run memberBelowEnv oneNamespace = .ok s ∧
    s.graph.DistinctNames ∧ ¬ (s.attached memberBelowEnv).DistinctNames := by
  obtain ⟨s, h, hp⟩ := exists_of_any (x := run memberBelowEnv oneNamespace)
    (p := fun s => s.graph.DistinctNames && !(s.attached memberBelowEnv).DistinctNames)
    (by decide +kernel)
  exact ⟨s, h, by simpa using hp⟩

end Build

end XmlTypes
