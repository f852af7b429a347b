import XmlTypes.Build.Basic
import XmlTypes.Proofs.Sharing
/-!
# Attaching substitutes

Once all documents are built, what may stand in for a head is put on the properties that wait for
it, or gets properties of its own behind the others. The properties that were there stay in their
places, and only an element that is registered stands in for anything.
-/

namespace XmlTypes.Build

open Relation

/-- What a search finds is registered. -/
theorem Substitutions.mem_search {registry : Substitutions} {m : Substitute} (fuel : Nat) :
    ∀ (r : Search) (head : QName), m ∈ (registry.search fuel r head).found →
      m ∈ r.found ∨ ∃ head, m ∈ registry.membersOf head := by
  induction fuel with
  | zero => exact fun _ _ => .inl
  | succ fuel ih =>
    intro r head
    unfold search
    -- The members of one head are met one after the other.
    refine List.foldlRecOn (motive := fun r' : Search => m ∈ r'.found →
      m ∈ r.found ∨ ∃ head, m ∈ registry.membersOf head) _ _ .inl fun r' hr x hx h => ?_
    split at h
    · exact hr h
    · rcases ih _ _ h with h | h
      · dsimp only at h
        split at h
        · exact hr h
        · rcases List.mem_append.1 h with h | h
          · exact hr h
          · exact .inr ⟨head, List.mem_singleton.1 h ▸ hx⟩
      · exact .inr h

theorem Substitutions.mem_substitutesOf {registry : Substitutions} {m : Substitute} {head : QName}
    (h : m ∈ registry.substitutesOf head) : ∃ head, m ∈ registry.membersOf head :=
  (mem_search _ _ _ h).resolve_left nofun

/-- A step of attaching substitutes. -/
inductive Attaches (env : Environment) (registry : Substitutions) : Graph → Graph → Prop
  | merge {g owner i} {substitutes : List Substitute} :
      env.options.substitutionStrategy = .merge →
      (∀ m ∈ substitutes, ∃ head, m ∈ registry.membersOf head) →
      Attaches env registry g
        (g.modify owner (Node.mapProperties fun ps => ps.modify i fun p => { p with substitutes }))
  | separate {g owner ownerName head m} : env.options.substitutionStrategy = .separate →
      (∃ head, m ∈ registry.membersOf head) →
      Attaches env registry g
        (g.addProperty (substituteProperty env.naming owner ownerName head m)).1

variable {env : Environment} {registry : Substitutions}

theorem attachSubstitutes_attaches (g : Graph) :
    ReflTransGen (Attaches env registry) g (attachSubstitutes env registry g) := by
  refine List.foldlRecOn (motive := ReflTransGen (Attaches env registry) g) _ _ .refl
    fun g' hg site _ => hg.trans ?_
  dsimp only
  cases hstrategy : env.options.substitutionStrategy with
  | merge =>
    dsimp only
    split
    · exact .refl
    · unfold mergeSubstitutes
      split
      · exact .refl
      · exact .single (.merge hstrategy fun m => Substitutions.mem_substitutesOf)
  | separate =>
    dsimp only
    unfold separateSubstitutes
    split
    · exact .refl
    · exact List.foldlRecOn (motive := ReflTransGen (Attaches env registry) g') _ _ .refl
        fun g'' hg m hm => hg.tail (.separate hstrategy (Substitutions.mem_substitutesOf hm))

/-- A property of its own for a substitute. -/
def IsSubstitute (env : Environment) (registry : Substitutions) (q : Property) : Prop :=
  ∃ owner ownerName head m, (∃ head, m ∈ registry.membersOf head) ∧
    q.plain = substituteProperty env.naming owner ownerName head m

/-- What attaching substitutes to the properties of `g` leaves of them in `g'`. -/
structure Attached (env : Environment) (registry : Substitutions) (g g' : Graph) : Prop where
  shares : g.Shares g'
  kept : ∀ id, (g.properties id).map Property.plain <+: (g'.properties id).map Property.plain
  merged : env.options.substitutionStrategy = .merge →
    ∀ id, (g'.properties id).map Property.plain = (g.properties id).map Property.plain
  arises : ∀ id, ∀ q ∈ g'.properties id,
    (∃ p ∈ g.properties id, q.plain = p.plain) ∨ IsSubstitute env registry q
  substitutes : ∀ id, ∀ q ∈ g'.properties id, ∀ m ∈ q.substitutes,
    (∃ p ∈ g.properties id, m ∈ p.substitutes) ∨ ∃ head, m ∈ registry.membersOf head
  owners : (∀ id, ∀ p ∈ g.properties id, p.owner = id) → ∀ id, ∀ q ∈ g'.properties id, q.owner = id

theorem Attached.refl (g : Graph) : Attached env registry g g :=
  ⟨.refl g, fun _ => List.prefix_rfl, fun _ _ => rfl, fun _ q hq => .inl ⟨q, hq, rfl⟩,
    fun _ q hq _ hm => .inl ⟨q, hq, hm⟩, id⟩

theorem Attached.trans {g g' g'' : Graph} (h : Attached env registry g g')
    (h' : Attached env registry g' g'') : Attached env registry g g'' where
  shares := h.shares.trans h'.shares
  kept id := (h.kept id).trans (h'.kept id)
  merged hs id := (h'.merged hs id).trans (h.merged hs id)
  arises id q hq := by
    rcases h'.arises id q hq with ⟨p, hp, hqp⟩ | hq
    · rcases h.arises id p hp with ⟨o, ho, hpo⟩ | ⟨owner, ownerName, head, m, hm, hpm⟩
      · exact .inl ⟨o, ho, hqp.trans hpo⟩
      · exact .inr ⟨owner, ownerName, head, m, hm, hqp.trans hpm⟩
    · exact .inr hq
  substitutes id q hq m hm := by
    rcases h'.substitutes id q hq m hm with ⟨p, hp, hm⟩ | hm
    · exact h.substitutes id p hp m hm
    · exact .inr hm
  owners := h'.owners ∘ h.owners

theorem map_modify_eq {α β : Type} {f : α → α} {v : α → β} (h : ∀ a, v (f a) = v a) (i : Nat)
    (as : List α) : (as.modify i f).map v = as.map v := by
  apply List.ext_getElem?
  intro j
  rw [List.getElem?_map, List.getElem?_map, List.getElem?_modify]
  split
  · cases as[j]? <;> simp [h]
  · simp

/-- A property is added at the end, under a free name, or not at all. -/
theorem addProperty_cases (g : Graph) (p : Property) (j : NodeId) :
    (g.addProperty p).1.properties j = g.properties j ∨
      j = p.owner ∧ (∀ q ∈ g.flattenedProperties p.owner, q.name ≠ p.name) ∧
        (g.addProperty p).1.properties j = g.properties j ++ [p] := by
  by_cases htaken : ∃ q ∈ g.flattenedProperties p.owner, q.name = p.name
  · exact .inl (by rw [Graph.addProperty_of_taken htaken])
  have hfree : ∀ q ∈ g.flattenedProperties p.owner, q.name ≠ p.name :=
    fun q hq hn => htaken ⟨q, hq, hn⟩
  rw [Graph.addProperty_of_free hfree, Graph.properties_eq, Graph.properties_eq,
    Graph.node?_modify]
  split
  · rename_i hj
    cases g.node? j with
    | none => exact .inl rfl
    | some n =>
      rw [Option.map_some, Option.map_some, Option.getD_some, Option.map_some, Option.getD_some,
        Node.properties_mapProperties]
      split
      · exact .inr ⟨hj, hfree, rfl⟩
      · exact .inl rfl
  · exact .inl rfl

theorem shares_addProperty (g : Graph) (p : Property) : g.Shares (g.addProperty p).1 := by
  unfold Graph.addProperty
  split
  · exact .refl g
  · exact .modify fun n => n.mapProperties_shares _

theorem Attaches.attached {g g' : Graph} (h : Attaches env registry g g') :
    Attached env registry g g' := by
  cases h with
  | @merge owner i substitutes hstrategy hm =>
    have hplain (id : NodeId) : ((g.modify owner (Node.mapProperties fun ps =>
        ps.modify i fun p => { p with substitutes })).properties id).map Property.plain =
        (g.properties id).map Property.plain := by
      rw [Graph.properties_modify_mapProperties (by cases i <;> rfl)]
      split
      · exact map_modify_eq (by intro _; rfl) i _
      · rfl
    have hold (id : NodeId) (q : Property) (hq : q ∈ (g.modify owner (Node.mapProperties fun ps =>
        ps.modify i fun p => { p with substitutes })).properties id) :
        ∃ p ∈ g.properties id, q.plain = p.plain := by
      have : q.plain ∈ (g.properties id).map Property.plain :=
        hplain id ▸ List.mem_map_of_mem hq
      obtain ⟨p, hp, hpq⟩ := List.mem_map.1 this
      exact ⟨p, hp, hpq.symm⟩
    refine ⟨.modify fun n => n.mapProperties_shares _, fun id => hplain id ▸ List.prefix_rfl,
      fun _ => hplain, fun id q hq => .inl (hold id q hq), fun id q hq m hmem => ?_,
      fun howners id q hq => ?_⟩
    · rw [Graph.properties_modify_mapProperties (by cases i <;> rfl)] at hq
      split at hq
      · obtain ⟨j, hj⟩ := List.mem_iff_getElem?.1 hq
        rw [List.getElem?_modify, Option.map_eq_map, Option.map_eq_some_iff] at hj
        obtain ⟨p, hp, rfl⟩ := hj
        split at hmem
        · exact .inr (hm m hmem)
        · exact .inl ⟨p, List.mem_of_getElem? hp, hmem⟩
      · exact .inl ⟨q, hq, hmem⟩
    · obtain ⟨p, hp, hqp⟩ := hold id q hq
      exact (congrArg Property.owner hqp).trans (howners id p hp)
  | @separate owner ownerName head m hstrategy hm =>
    have hcases := addProperty_cases g (substituteProperty env.naming owner ownerName head m)
    refine ⟨shares_addProperty g _, fun id => ?_, fun hs => ?_, fun id q hq => ?_,
      fun id q hq x hx => ?_, fun howners id q hq => ?_⟩
    · rcases hcases id with h | ⟨-, -, h⟩ <;> rw [h]
      rw [List.map_append]
      exact List.prefix_append _ _
    · rw [hstrategy] at hs
      cases hs
    · rcases hcases id with h | ⟨-, -, h⟩ <;> rw [h] at hq
      · exact .inl ⟨q, hq, rfl⟩
      · rcases List.mem_append.1 hq with hq | hq
        · exact .inl ⟨q, hq, rfl⟩
        · exact .inr ⟨owner, ownerName, head, m, hm, by rw [List.mem_singleton.1 hq]; rfl⟩
    · rcases hcases id with h | ⟨-, -, h⟩ <;> rw [h] at hq
      · exact .inl ⟨q, hq, hx⟩
      · rcases List.mem_append.1 hq with hq | hq
        · exact .inl ⟨q, hq, hx⟩
        · rw [List.mem_singleton.1 hq] at hx
          cases hx
    · rcases hcases id with h | ⟨ho, -, h⟩ <;> rw [h] at hq
      · exact howners id q hq
      · rcases List.mem_append.1 hq with hq | hq
        · exact howners id q hq
        · rw [List.mem_singleton.1 hq, ho]

theorem attached_of_attaches {g g' : Graph} (h : ReflTransGen (Attaches env registry) g g') :
    Attached env registry g g' := by
  induction h with
  | refl => exact .refl g
  | tail _ h ih => exact ih.trans h.attached

/-- A node without properties has none that wait for substitutes, and gets none. -/
theorem attachSubstitutes_nil {g : Graph} {id : NodeId} (h : g.properties id = []) :
    (attachSubstitutes env registry g).properties id = [] := by
  refine List.foldlRecOn (motive := fun g' : Graph => g'.properties id = []) _ _ h
    fun g' hg site _ => ?_
  dsimp only
  cases env.options.substitutionStrategy with
  | merge =>
    dsimp only
    split
    · exact hg
    · unfold mergeSubstitutes
      split
      · exact hg
      · rename_i i _
        rw [Graph.properties_modify_mapProperties (by cases i <;> rfl), hg]
        split
        · cases i <;> rfl
        · rfl
  | separate =>
    dsimp only
    unfold separateSubstitutes
    split
    · exact hg
    · rename_i head hhead
      have hne : id ≠ site.owner := by
        rintro rfl
        rw [siteProperty?, hg] at hhead
        cases hhead
      refine List.foldlRecOn (motive := fun g' : Graph => g'.properties id = []) _ _ hg
        fun g'' hg m _ => ?_
      rcases addProperty_cases g'' _ id with he | ⟨ho, -, -⟩
      · exact he.trans hg
      · exact absurd ho hne

end XmlTypes.Build
