import XmlTypes.Proofs.Identity
import XmlTypes.Proofs.Listings
/-!
# Closed graphs

Nodes refer to one another by their numbers. In a finished graph every number is that of a node,
and of one that may stand there: a base is a class, what is implemented is an interface, and no
interface holds a value (`Graph.Closed`). A number is handed out before its node is complete, but
never before the node is there, and the kind of a node does not change.
-/

namespace XmlTypes

/-- What a node declares is its own, and no interface is the type of it or of what may stand in for
it. -/
structure Property.Fits (g : Graph) (id : NodeId) (p : Property) : Prop where
  owner : p.owner = id
  type : g.IsValue p.type
  substitutes : ∀ m ∈ p.substitutes, g.IsValue m.type

namespace Graph

open Relation

variable {g g' : Graph} {id : NodeId}

/-- The numbers in the tables of all namespaces. -/
def listed (g : Graph) : List NodeId := g.namespaces.values.flatMap fun ns => ns.types.values

/-- Every number in the graph is that of a node of the right kind. -/
structure Closed (g : Graph) : Prop where
  bases : ∀ id b, g.base? id = some b → (g.class? b).isSome
  derived : ∀ id, ∀ c ∈ g.derivedClasses id, (g.class? c).isSome
  interfaces : ∀ id, ∀ i ∈ g.interfaces id, (g.interface? i).isSome
  implementers : ∀ id, ∀ m ∈ g.implementersOf id, ∃ n, g.node? m = some n ∧ n.hasMembers = true
  properties : ∀ id, ∀ p ∈ g.properties id, p.Fits g id
  texts : ∀ id v, g.text? id = some v → g.IsValue v
  listed : ∀ id ∈ g.listed, ∃ n, g.node? id = some n

/-! ## Links -/

namespace Linked

theorem isSome_class?_derived (hl : g.Linked) {c : NodeId} (h : c ∈ g.derivedClasses id) :
    (g.class? c).isSome := by
  have hbase := (hl.bases c id).2 h
  unfold base? at hbase
  cases hc : g.class? c with
  | none =>
    rw [hc] at hbase
    cases hbase
  | some _ => rfl

theorem isSome_interface? (hl : g.Linked) {i : NodeId} (h : i ∈ g.interfaces id) :
    (g.interface? i).isSome := by
  have himplementer := (hl.interfaces id i).1 h
  unfold implementersOf at himplementer
  cases hi : g.interface? i with
  | none =>
    rw [hi] at himplementer
    cases himplementer
  | some _ => rfl

theorem hasMembers (hl : g.Linked) {m : NodeId} (h : m ∈ g.implementersOf id) :
    ∃ n, g.node? m = some n ∧ n.hasMembers = true := by
  have hinterface := (hl.interfaces m id).2 h
  unfold Graph.interfaces at hinterface
  cases hn : g.node? m with
  | none =>
    rw [hn] at hinterface
    cases hinterface
  | some n =>
    rw [hn] at hinterface
    refine ⟨n, rfl, ?_⟩
    rcases n with ⟨_, _, _, _, _, _, _, _ | _ | _ | _⟩ <;> first | rfl | cases hinterface

end Linked

/-! ## Values -/

theorem Shares.isValue (h : g.Shares g') {v : ValueType} (hv : g.IsValue v) : g'.IsValue v := by
  intro id hid
  obtain ⟨m, hm, hi⟩ := hv id hid
  obtain ⟨n, hn, hs⟩ := h.nodes id m hm
  exact ⟨n, hn, (Node.isInterface_congr hs.label).trans hi⟩

/-! ## Namespaces -/

theorem listed_congr (h : g'.namespaces = g.namespaces) : g'.listed = g.listed := by
  rw [listed, listed, h]

theorem mem_listed_modifyTypes {space : String} {f : Table String NodeId → Table String NodeId}
    {j : NodeId} (hf : ∀ t, ∀ k ∈ (f t).values, k ∈ t.values ∨ k = j)
    (h : id ∈ (g.modifyTypes space f).listed) : id ∈ g.listed ∨ id = j := by
  obtain ⟨ns, hns, hid⟩ := List.mem_flatMap.1 h
  rcases Table.mem_values_modify hns with hns | ⟨ns', hns', rfl⟩
  · exact .inl (List.mem_flatMap.2 ⟨ns, hns, hid⟩)
  · exact (hf _ _ hid).imp_left fun hid => List.mem_flatMap.2 ⟨ns', hns', hid⟩

/-- A new namespace lists nothing. -/
theorem mem_listed_ensureNamespace {space : String} {key : NamespaceKey}
    (h : id ∈ (g.ensureNamespace space key).listed) : id ∈ g.listed := by
  obtain ⟨ns, hns, hid⟩ := List.mem_flatMap.1 h
  rcases Table.mem_values_insertNew hns with hns | rfl
  · exact List.mem_flatMap.2 ⟨ns, hns, hid⟩
  · cases hid

theorem mem_listed_rename {j : NodeId} {name : String} (h : id ∈ (g.rename j name).listed) :
    id ∈ g.listed ∨ id = j := by
  unfold rename at h
  split at h
  · exact .inl h
  · exact mem_listed_modifyTypes (fun t k => Table.mem_values_rename) h

theorem listed_markAmbiguous (g : Graph) : g.markAmbiguous.listed = g.listed := by
  simp only [listed, markAmbiguous, Table.values, List.map_map, List.flatMap_map]
  rfl

/-- Names are made unique for what is listed, so nothing else gets listed. -/
theorem listed_enforceUniqueNames (g : Graph) : g.enforceUniqueNames.listed ⊆ g.listed := by
  refine List.foldlRecOn (motive := fun u : NameUse => u.graph.listed ⊆ g.listed) _ _
    (List.Subset.refl _) fun u hu j hj => ?_
  unfold NameUse.settle
  dsimp only
  split
  · exact hu
  · intro id hid
    rcases mem_listed_rename hid with hid | rfl
    · exact hu hid
    · exact hj

theorem namespaces_of_renames (h : ReflTransGen Renames g g') : g'.namespaces = g.namespaces := by
  induction h with
  | refl => rfl
  | @tail g₁ _ _ h ih =>
    refine Eq.trans ?_ ih
    cases h with
    | mk _ _ _ =>
      exact List.foldlRecOn (motive := fun g' : Graph => g'.namespaces = g₁.namespaces) _ _ rfl
        fun _ hg _ _ => hg

theorem namespaces_pruneDuplicates (g : Graph) : g.pruneDuplicates.namespaces = g.namespaces :=
  List.foldlRecOn (motive := fun g' : Graph => g'.namespaces = g.namespaces) _ _ rfl
    fun _ hg _ _ => hg

theorem listed_finish (options : Options) (g : Graph) :
    (g.finish options).markAmbiguous.listed ⊆ g.listed := by
  have h : g.propagateRenames.pruneDuplicates.disambiguateRoots.listed = g.listed :=
    listed_congr ((namespaces_pruneDuplicates _).trans
      (namespaces_of_renames (propagateRenames_renames g)))
  rw [listed_markAmbiguous, ← h]
  unfold finish
  dsimp only
  split
  · exact listed_enforceUniqueNames _
  · exact List.Subset.refl _

end Graph

namespace Build

open XmlTypes.Graph Relation Schema

variable {env : Environment} {s t : State}

/-! ## Steps -/

/-- What is typed is typed by values, and what is listed is there. -/
structure Typed (s : State) : Prop where
  properties : ∀ id, ∀ p ∈ s.graph.properties id, s.graph.IsValue p.type
  members : ∀ head, ∀ m ∈ s.context.substitutions.membersOf head, s.graph.IsValue m.type
  listed : ∀ id ∈ s.graph.listed, ∃ n, s.graph.node? id = some n

/-- A new node is listed, and nothing else is. -/
theorem Placing.mem_listed {n : Node} (h : Placing n s t) {id : NodeId}
    (hid : id ∈ t.graph.listed) : id ∈ s.graph.listed ∨ id = s.graph.size := by
  obtain ⟨key, hspaces⟩ := h
  have hplaced : t.graph.namespaces = ((s.graph.ensureNamespace n.space key).modifyTypes n.space
      fun types => types.insert n.name s.graph.size).namespaces := hspaces
  rw [listed_congr hplaced] at hid
  exact (mem_listed_modifyTypes (fun _ _ => Table.mem_values_insert) hid).imp_left
    mem_listed_ensureNamespace

/-- A property of a node after a change was there before, or is typed by a value. -/
theorem Change.properties {head : Option NodeId} (h : Change env head s t) {id : NodeId}
    {p : Property} (hp : p ∈ t.graph.properties id) :
    p ∈ s.graph.properties id ∨ s.graph.IsValue p.type := by
  cases h with
  | aside hg _ _ _ _ => exact .inl (hg ▸ hp)
  | join _ _ _ => exact .inl hp
  | remember _ _ => exact .inl hp
  | decorate hf => exact .inl (properties_modify (fun n => (hf n).1.properties) ▸ hp)
  | text _ => exact .inl (properties_modify (fun n => (n.setText_keeps _).properties) ▸ hp)
  | base _ _ _ => exact .inl (properties_setBase _ _ _ ▸ hp)
  | implement _ _ => exact .inl (properties_addImplementer _ _ _ ▸ hp)
  | @property _ _ q _ _ hv =>
    rcases addProperty_cases s.graph q id with he | ⟨-, -, he⟩ <;> rw [he] at hp
    · exact .inl hp
    · rcases List.mem_append.1 hp with hp | hp
      · exact .inl hp
      · exact .inr (List.mem_singleton.1 hp ▸ hv)

theorem Change.typed {head : Option NodeId} (h : Change env head s t) (hs : Typed s) :
    Typed t where
  properties id p hp :=
    h.extend.graph.isValue ((h.properties hp).elim (hs.properties id p) fun hv => hv)
  members q m hm :=
    h.extend.graph.isValue ((h.members hm).elim (hs.members q m) And.left)
  listed id hid := by
    obtain ⟨m, hm⟩ := hs.listed id (listed_congr h.namespaces ▸ hid)
    obtain ⟨n, hn, -⟩ := h.extend.graph.nodes id m hm
    exact ⟨n, hn⟩

theorem Creation.typed {n : Node} {key : Option CacheKey} {place : Option Place}
    (h : Creation env s t n key place) (hs : Typed s) : Typed t where
  properties id p hp := by
    rw [properties_eq, h.node?] at hp
    split at hp
    · rw [Option.map_some, Option.getD_some, h.blank.properties] at hp
      cases hp
    · exact h.extend.graph.isValue (hs.properties id p hp)
  members q m hm := by
    rw [h.context, Context.substitutions_remember] at hm
    exact h.extend.graph.isValue (hs.members q m hm)
  listed id hid := by
    rcases h.placing.mem_listed hid with hid | rfl
    · obtain ⟨m, hm⟩ := hs.listed id hid
      obtain ⟨n', hn', -⟩ := h.extend.graph.nodes id m hm
      exact ⟨n', hn'⟩
    · exact ⟨n, (h.node? _).trans (if_pos rfl)⟩

theorem Moves.typed (h : Moves env s t) (hs : Typed s) : Typed t := by
  cases h with
  | change h => exact h.typed hs
  | create h => exact h.typed hs
  | opening _ => exact { hs with }

theorem typed_start (resolver : Resolver) : Typed { resolver } where
  properties _ _ h := nomatch h
  members _ _ h := nomatch h
  listed _ h := nomatch h

theorem run_typed {resolver : Resolver} (hix : env.index.Lawful)
    (h : run env resolver = .ok s) : Typed s :=
  run_invariant hix (typed_start resolver) (fun _ _ => Moves.typed) h

/-! ## The finished graph -/

/-- Attaching substitutes lists nothing. -/
theorem namespaces_of_attaches {registry : Substitutions} {g g' : Graph}
    (h : ReflTransGen (Attaches env registry) g g') : g'.namespaces = g.namespaces := by
  induction h with
  | refl => rfl
  | tail _ h ih =>
    refine Eq.trans ?_ ih
    cases h with
    | merge _ _ => rfl
    | separate _ _ => unfold Graph.addProperty; split <;> rfl

/-- What is attached is registered, so it fits wherever all properties did before. -/
theorem Attached.fits {registry : Substitutions} {g g' : Graph} (h : Attached env registry g g')
    (hmembers : ∀ head, ∀ m ∈ registry.membersOf head, g.IsValue m.type)
    (hfits : ∀ id, ∀ p ∈ g.properties id, p.Fits g id) {id : NodeId} {q : Property}
    (hq : q ∈ g'.properties id) : q.Fits g' id where
  owner := h.owners (fun id p hp => (hfits id p hp).owner) id q hq
  type := by
    refine h.shares.isValue ?_
    rcases h.arises id q hq with ⟨p, hp, hqp⟩ | ⟨_, _, _, m, ⟨head, hm⟩, hqm⟩
    · have htype : q.plain.type = p.plain.type := congrArg _ hqp
      exact htype ▸ (hfits id p hp).type
    · have htype : q.plain.type = m.type := congrArg _ hqm
      exact htype ▸ hmembers head m hm
  substitutes m hm := by
    refine h.shares.isValue ?_
    rcases h.substitutes id q hq m hm with ⟨p, hp, hm⟩ | ⟨head, hm⟩
    · exact (hfits id p hp).substitutes m hm
    · exact hmembers head m hm

theorem finished_fits
    (hmembers : ∀ head, ∀ m ∈ s.context.substitutions.membersOf head, s.graph.IsValue m.type)
    (hfits : ∀ id, ∀ p ∈ s.graph.properties id, p.Fits s.graph id) {id : NodeId} {q : Property}
    (hq : q ∈ (s.finished env).properties id) : q.Fits (s.finished env) id := by
  obtain ⟨p, hp, hbare, hsubstitutes⟩ := finished_arises hq
  have hp := (s.attached_of env).fits hmembers hfits hp
  -- What happens later to the properties changes nothing but their names.
  have hshares : (s.attached env).Shares (s.finished env) :=
    (shares_of_renames (propagateRenames_renames _)).trans (s.finished_tidies env).shares
  have howner : q.bare.owner = p.bare.owner := congrArg _ hbare
  have htype : q.bare.type = p.bare.type := congrArg _ hbare
  exact ⟨howner.trans hp.owner, hshares.isValue (htype ▸ hp.type),
    fun m hm => hshares.isValue (hp.substitutes m (hsubstitutes ▸ hm))⟩

/-- Until substitutes are attached, too, what a node declares is its own. -/
theorem run_fits {resolver : Resolver} (hix : env.index.Lawful) (h : run env resolver = .ok s)
    (id : NodeId) (p : Property) (hp : p ∈ s.graph.properties id) : p.Fits s.graph id := by
  obtain ⟨r, -, rfl, ha⟩ := (run_recorded hix h).arises id p hp
  refine ⟨ha.owner, (run_typed hix h).properties _ p hp, ?_⟩
  rw [ha.substitutes]
  nofun

/-- In a graph that is built every number is that of a node of the right kind, and every property
is owned by the node that declares it. -/
theorem graph_closed {set : SchemaSet} {options : Options} {naming : Naming} {resolver : Resolver}
    (h : run (.ofSet set options naming) resolver = .ok s) :
    (s.finished (.ofSet set options naming)).Closed := by
  have hix := Index.lawful_ofSet set
  have htyped := run_typed hix h
  have hrecorded := run_recorded hix h
  have hshares := s.finished_shares (.ofSet set options naming)
  have hlinked := hshares.linked hrecorded.linked
  refine ⟨fun _ _ => hlinked.isSome_class?, fun _ _ => hlinked.isSome_class?_derived,
    fun _ _ => hlinked.isSome_interface?, fun _ _ => hlinked.hasMembers, fun id q hq => ?_,
    fun id v hv => ?_, fun id hid => ?_⟩
  · exact finished_fits htyped.members (run_fits hix h) hq
  · rw [hshares.text?] at hv
    exact hshares.isValue (((run_ok hix h).1.sound (sound_start _ _)).texts id v hv)
  · have hnamespaces := namespaces_of_attaches (s.attaches (.ofSet set options naming))
    obtain ⟨m, hm⟩ := htyped.listed id (listed_congr hnamespaces ▸ listed_finish options _ hid)
    obtain ⟨n, hn, -⟩ := hshares.nodes id m hm
    exact ⟨n, hn⟩

theorem graph_closed_recursive :
    let env := Environment.ofSet (recursiveBase .extension) {} .conventional
    ∃ s, run env oneNamespace = .ok s ∧ (s.finished env).Closed := by
  obtain ⟨s, h, -⟩ := exists_of_any
    (x := run (.ofSet (recursiveBase .extension) {} .conventional) oneNamespace)
    (p := fun _ => true) (by decide +kernel)
  exact ⟨s, h, graph_closed h⟩

end Build

end XmlTypes
