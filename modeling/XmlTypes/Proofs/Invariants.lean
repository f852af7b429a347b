import XmlTypes.Proofs.Links
import XmlTypes.Proofs.MemberRuns
/-!
# What holds between the steps of a construction

Properties are added one at a time, and a class may be opened while its base is still without some
of its own. So what is true of names along base classes is true only as far as an opening has seen
it: a property differs in name from everything that its class inherited when it was opened
(`Opening.Holds`), and from everything that its own class declares.
-/

namespace XmlTypes

namespace Build

open Relation Schema

/-- What an opening says of its node is so. -/
structure Opening.Holds (env : Environment) (s : State) (r : Opening) : Prop where
  node : ∃ n, s.graph.node? r.scope.owner = some n ∧ n.name = r.scope.ownerName ∧
    n.hasMembers = true
  type : ∀ d, r.source = .type d →
    (s.graph.class? r.scope.owner).isSome ∧ Belongs env.index (.type d)
  inherited : r.inherited ⊆ s.graph.inheritedProperties r.scope.owner
  restated : ∀ k, k ∈ r.scope.restated ↔ r.source.isRestriction = true ∧
    ∃ q ∈ r.inherited, q.isWildcard = false ∧ (q.schemaName, q.isAttribute) = k
  apart : ∀ p ∈ s.graph.properties r.scope.owner, ∀ q ∈ r.inherited, p.name ≠ q.name

/-- Every property arises from the one opening of its owner, and has a name of its own there. -/
structure Recorded (env : Environment) (s : State) : Prop where
  owners : (s.journal.map (·.scope.owner)).Nodup
  openings : ∀ r ∈ s.journal, r.Holds env s
  arises : ∀ id, ∀ p ∈ s.graph.properties id,
    ∃ r ∈ s.journal, r.scope.owner = id ∧ Arises env (Written env s) r p
  names : ∀ id, ((s.graph.properties id).map (·.name)).Nodup
  wildcards : ∀ id, ∀ p ∈ s.graph.properties id, p.isWildcard = true → IsForWildcard p ∧
    ∃ r ∈ s.journal, r.scope.owner = id ∧ r.HasAny env.index p.isAttribute
  sought : ∀ r ∈ s.journal, ∀ d, r.source = .type d → Sought env.index s.journal d
  linked : s.graph.Linked

variable {env : Environment} {s t : State}

/-- An owner is opened once. -/
theorem Recorded.opening_eq {r r' : Opening} (hs : Recorded env s) (hr : r ∈ s.journal)
    (hr' : r' ∈ s.journal) (h : r'.scope.owner = r.scope.owner) : r' = r :=
  List.inj_on_of_nodup_map hs.owners hr' hr h

/-! ## Steps -/

/-- An opening goes on to hold if each new property is apart from what is inherited by then. -/
theorem Opening.Holds.mono {r : Opening} (h : r.Holds env s) (he : Extends s t)
    (hp : ∀ p ∈ t.graph.properties r.scope.owner, p ∈ s.graph.properties r.scope.owner ∨
      ∀ q ∈ s.graph.inheritedProperties r.scope.owner, p.name ≠ q.name) : r.Holds env t where
  node := by
    obtain ⟨m, hm, hname, hmembers⟩ := h.node
    obtain ⟨n, hn, hg⟩ := he.graph.nodes _ m hm
    exact ⟨n, hn, hg.name.trans hname, by rwa [Node.hasMembers_congr hg.label]⟩
  type d hd := ⟨he.graph.class? (h.type d hd).1, (h.type d hd).2⟩
  inherited := List.Subset.trans h.inherited he.graph.inheritedProperties
  restated := h.restated
  apart p hpt q hq := by
    rcases hp p hpt with hps | hnew
    · exact h.apart p hps q hq
    · exact hnew q (h.inherited hq)

/-- A step that adds neither openings nor properties keeps what is recorded. -/
theorem Recorded.frame (hs : Recorded env s) (he : Extends s t) (hj : t.journal = s.journal)
    (hp : ∀ id, t.graph.properties id = s.graph.properties id) (hl : t.graph.Linked) :
    Recorded env t where
  owners := hj ▸ hs.owners
  openings r hr := (hs.openings r (hj ▸ hr)).mono he fun p h => .inl (hp _ ▸ h)
  arises id p h := by
    obtain ⟨r, hr, ho, ha⟩ := hs.arises id p (hp id ▸ h)
    exact ⟨r, hj ▸ hr, ho, ha.mono he⟩
  names id := hp id ▸ hs.names id
  wildcards id p h := hj ▸ hs.wildcards id p (hp id ▸ h)
  sought := hj ▸ hs.sought
  linked := hl

theorem properties_modify_append {g : Graph} {n : Node} {p : Property} {id j : NodeId}
    (hn : g.node? id = some n) (hm : n.hasMembers = true) :
    (g.modify id (Node.mapProperties (· ++ [p]))).properties j =
      if j = id then g.properties j ++ [p] else g.properties j := by
  rw [Graph.properties_eq, Graph.node?_modify]
  split
  · rename_i hj
    rw [hj, hn, Graph.properties_of_node? hn, Option.map_some, Option.map_some, Option.getD_some,
      Node.properties_mapProperties, if_pos hm]
  · rfl

/-- A property is added under a name that neither its class nor a base class has yet. -/
theorem Recorded.addProperty {r : Opening} {p : Property} (hs : Recorded env s)
    (hr : r ∈ s.journal) (ha : Arises env (Written env s) r p)
    (hwildcard : p.isWildcard = true → IsForWildcard p ∧ r.HasAny env.index p.isAttribute)
    (he : Extends s { s with graph := (s.graph.addProperty p).1 }) :
    Recorded env { s with graph := (s.graph.addProperty p).1 } := by
  by_cases htaken : ∃ q ∈ s.graph.flattenedProperties p.owner, q.name = p.name
  · rw [Graph.addProperty_of_taken htaken]
    exact hs
  have hfree : ∀ q ∈ s.graph.flattenedProperties p.owner, q.name ≠ p.name :=
    fun q hq hn => htaken ⟨q, hq, hn⟩
  rw [Graph.addProperty_of_free hfree] at he ⊢
  obtain ⟨n, hn, -, hmembers⟩ := (hs.openings r hr).node
  have hprops (id : NodeId) := properties_modify_append (p := p) (j := id) (ha.owner ▸ hn) hmembers
  refine ⟨hs.owners, fun r' hr' => (hs.openings r' hr').mono he fun q hq => ?_,
    fun id q hq => ?_, fun id => ?_, fun id q hq => ?_, hs.sought, ?_⟩
  · rw [hprops] at hq
    split at hq
    · rename_i ho
      rcases List.mem_append.1 hq with hq | hq
      · exact .inl hq
      · -- The name is free in all base classes, so in what was inherited at the opening too.
        rw [List.mem_singleton.1 hq, ho]
        exact .inr fun q hq => (hfree q (Graph.mem_flattenedProperties.2 (.inr hq))).symm
    · exact .inl hq
  · rw [hprops] at hq
    split at hq
    · rename_i ho
      rcases List.mem_append.1 hq with hq | hq
      · obtain ⟨r', hr', ho', ha'⟩ := hs.arises id q hq
        exact ⟨r', hr', ho', ha'.mono he⟩
      · obtain rfl := List.mem_singleton.1 hq
        exact ⟨r, hr, ha.owner ▸ ho.symm, ha.mono he⟩
    · obtain ⟨r', hr', ho', ha'⟩ := hs.arises id q hq
      exact ⟨r', hr', ho', ha'.mono he⟩
  · rw [hprops]
    split
    · rename_i ho
      rw [List.map_append, List.nodup_append]
      refine ⟨hs.names id, List.nodup_singleton _, fun a ha b hb => ?_⟩
      obtain ⟨q, hq, rfl⟩ := List.mem_map.1 ha
      obtain rfl := List.mem_singleton.1 hb
      exact hfree q (Graph.mem_flattenedProperties.2 (.inl (ho ▸ hq)))
    · exact hs.names id
  · rw [hprops] at hq
    split at hq
    · rename_i ho
      rcases List.mem_append.1 hq with hq | hq
      · exact hs.wildcards id q hq
      · obtain rfl := List.mem_singleton.1 hq
        exact fun hw => (hwildcard hw).imp_right fun hany => ⟨r, hr, ha.owner ▸ ho.symm, hany⟩
    · exact hs.wildcards id q hq
  · exact Graph.linked_modify hs.linked fun n => ⟨n.base?_mapProperties _,
      n.derived_mapProperties _, n.interfaces_mapProperties _, n.implementers_mapProperties _⟩

theorem Change.recorded {head : Option NodeId} (h : Change env head s t) (hs : Recorded env s) :
    Recorded env t := by
  have he := h.extend
  cases h with
  | aside hg hc hi _ hj => exact hs.frame he hj (fun _ => hg ▸ rfl) (hg ▸ hs.linked)
  | join _ _ _ => exact hs.frame he rfl (fun _ => rfl) hs.linked
  | remember _ _ => exact hs.frame he rfl (fun _ => rfl) hs.linked
  | decorate hf =>
    exact hs.frame he rfl (fun _ => Graph.properties_modify fun n => (hf n).1.properties)
      (hs.linked.keeps fun n => (hf n).1)
  | @text _ _ v _ =>
    exact hs.frame he rfl (fun _ => Graph.properties_modify fun n => (n.setText_keeps v).properties)
      (hs.linked.keeps fun n => n.setText_keeps v)
  | base hnone hd hb =>
    exact hs.frame he rfl (Graph.properties_setBase _ _)
      (Graph.linked_setBase hs.linked hnone hd hb)
  | implement hi hm =>
    exact hs.frame he rfl (Graph.properties_addImplementer _ _)
      (Graph.linked_addImplementer hs.linked hi hm)
  | property hr ha _ hw => exact hs.addProperty hr ha hw he

theorem Creation.recorded {n : Node} {key : Option CacheKey} {place : Option Place}
    (h : Creation env s t n key place) (hs : Recorded env s) : Recorded env t := by
  have hnew : s.graph.node? s.graph.size = none := by
    rw [← Option.not_isSome_iff_eq_none, Graph.node?_isSome]
    exact Nat.lt_irrefl _
  -- The new node has neither members nor links.
  have hget {α : Type} {v : Node → List α} (hv : v n = []) (id : NodeId) :
      ((t.graph.node? id).map v).getD [] = ((s.graph.node? id).map v).getD [] := by
    rw [h.node?]
    split
    · rename_i hid
      rw [hid, hnew]
      exact hv
    · rfl
  refine hs.frame h.extend h.journal (hget h.blank.properties)
    (Graph.linked_of_nodes hs.linked (fun id => ?_) (hget h.blank.derived)
      (hget h.blank.interfaces) (hget h.blank.implementers))
  rw [h.node?]
  split
  · rename_i hid
    rw [hid, hnew]
    exact h.blank.base
  · rfl

/-- An opened node has no properties yet, and what it inherits is written down. -/
theorem Opens.recorded {n : Node} {scope : Scope} {source : Source}
    (h : Opens env s n scope source) (hs : Recorded env s) :
    Recorded env (s.noted scope source) := by
  have he : Extends s (s.noted scope source) := (Moves.opening h).extend
  refine ⟨?_, fun r hr => ?_, fun id p hp => ?_, hs.names, fun id p hp hw => ?_,
    fun r hr d hd => ?_, hs.linked⟩
  · -- Nothing is opened twice.
    refine List.nodup_cons.2 ⟨fun hmem => ?_, hs.owners⟩
    obtain ⟨r, hr, ho⟩ := List.mem_map.1 hmem
    exact h.fresh r hr ho
  · rcases List.mem_cons.1 hr with rfl | hr
    · refine ⟨⟨n, h.node, h.name.symm, h.members⟩, fun d hd => ?_, List.Subset.refl _,
        fun k => ?_, fun p hp => ?_⟩
      · obtain ⟨hclass, hd⟩ := h.belongs d hd
        exact ⟨Graph.class?_isSome.2 ⟨n, h.node, hclass⟩, hd⟩
      · simp only [h.restated, Source.restated, restatable]
        split
        · rename_i hr
          simp [hr, and_assoc]
        · rename_i hr
          simp [hr]
      · obtain ⟨r, hr, ho, -⟩ := hs.arises _ p hp
        exact absurd ho (h.fresh r hr)
    · exact (hs.openings r hr).mono he fun p hp => .inl hp
  · obtain ⟨r, hr, ho, ha⟩ := hs.arises id p hp
    exact ⟨r, List.mem_cons_of_mem _ hr, ho, ha.mono he⟩
  · exact (hs.wildcards id p hp hw).imp_right fun ⟨r, hr, h⟩ => ⟨r, he.journal hr, h⟩
  · refine Sought.mono ?_ he.journal
    rcases List.mem_cons.1 hr with rfl | hr
    · exact h.sought d hd
    · exact hs.sought r hr d hd

theorem Moves.recorded (h : Moves env s t) (hs : Recorded env s) : Recorded env t := by
  cases h with
  | change h => exact h.recorded hs
  | create h => exact h.recorded hs
  | opening h => exact h.recorded hs

/-- What is recorded stays so along every sequence of steps. -/
theorem Recorded.of_moves (h : ReflTransGen (Moves env) s t) (hs : Recorded env s) :
    Recorded env t := by
  induction h with
  | refl => exact hs
  | tail _ hm ih => exact hm.recorded ih

theorem recorded_start (env : Environment) (resolver : Resolver) : Recorded env { resolver } where
  owners := List.nodup_nil
  openings _ h := nomatch h
  arises _ _ h := nomatch h
  names _ := List.nodup_nil
  wildcards _ _ h := nomatch h
  sought _ h := nomatch h
  linked := by
    constructor
    · exact fun _ _ => ⟨nofun, nofun⟩
    · exact fun _ => List.nodup_nil
    · exact fun _ _ => ⟨nofun, nofun⟩
    · exact fun _ => List.nodup_nil
    · exact fun _ => nofun

end Build

end XmlTypes
