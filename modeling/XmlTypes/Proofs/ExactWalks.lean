import XmlTypes.Proofs.LinkHistories
/-!
# Walks are exact

On every graph, with circles or without, a walk comes to an end and lists what is reached by one or
more steps, but for the node where it begins, and each node once (`ListsReached`). Where bases and
derived classes know one another, a class is among the descendants of those that are its ancestors.
-/

namespace XmlTypes.Graph

open Relation (TransGen)

/-- The nodes are those that are reached from `start` by one or more steps, but for `start` itself,
and each of them is listed once. -/
structure ListsReached (step : NodeId → NodeId → Prop) (start : NodeId) (nodes : List NodeId) :
    Prop where
  once : nodes.Nodup
  mem : ∀ a, a ∈ nodes ↔ a ≠ start ∧ TransGen step start a

section
variable {g : Graph} {next : NodeId → List NodeId} {id a b c d : NodeId}

theorem ancestors_listsReached (g : Graph) (id : NodeId) :
    ListsReached (g.base? · = some ·) id (g.ancestors id) :=
  ⟨(List.nodup_cons.1 ancestors_nodup).2, fun _ => mem_ancestors⟩

theorem reached_listsReached (hbound : ∀ x, g.size ≤ x → next x = []) (id : NodeId) :
    ListsReached (fun a b => b ∈ next a) id (g.reached next id) := by
  have hn := (reached_ends hbound id).nodup (List.nodup_singleton id)
  exact ⟨(List.nodup_cons.1 hn).2, fun _ => mem_reached hbound⟩

/-- A search comes to one end only. -/
theorem searchEnds_iff (hbound : ∀ x, g.size ≤ x → next x = []) {r : List NodeId} :
    SearchEnds next id (next id).reverse [] r ↔ r = g.reached next id :=
  ⟨fun h => h.unique (reached_ends hbound id), fun h => h ▸ reached_ends hbound id⟩

/-- Ways along bases are the ways back along derived classes. -/
theorem transGen_derivedClasses (h : ∀ c b, g.base? c = some b ↔ c ∈ g.derivedClasses b) :
    TransGen (fun b c => c ∈ g.derivedClasses b) b d ↔ g.DerivesFrom d b := by
  simp only [← h]
  exact Relation.transGen_swap

end

/-- Every walk comes to one end only, which lists exactly what is reached. Base classes are listed
from the nearest on: each is the base of the one before it. And where bases and derived classes know
one another, the descendants of a class are those that have it among their ancestors. -/
theorem walks_list_reached (g : Graph) :
    (∀ id, (∀ r, ChainEnds g.base? id [] (g.base? id) r ↔ r = g.ancestors id) ∧
        ListsReached (g.base? · = some ·) id (g.ancestors id) ∧
        (id :: g.ancestors id).IsChain (g.base? · = some ·)) ∧
      (∀ id, (∀ r, SearchEnds g.derivedClasses id (g.derivedClasses id).reverse [] r ↔
          r = g.descendants id) ∧
        ListsReached (fun a b => b ∈ g.derivedClasses a) id (g.descendants id)) ∧
      (∀ id, (∀ r, SearchEnds g.interfaces id (g.interfaces id).reverse [] r ↔
          r = g.reachableInterfaces id) ∧
        ListsReached (fun a b => b ∈ g.interfaces a) id (g.reachableInterfaces id)) ∧
      ((∀ c b, g.base? c = some b ↔ c ∈ g.derivedClasses b) →
        ∀ b d, d ∈ g.descendants b ↔ b ∈ g.ancestors d) := by
  have hderived (x : NodeId) (hx : g.size ≤ x) : g.derivedClasses x = [] := derivedClasses_eq_nil hx
  have hinterfaces (x : NodeId) (hx : g.size ≤ x) : g.interfaces x = [] := interfaces_eq_nil hx
  refine ⟨fun id => ⟨fun r => ?_, g.ancestors_listsReached id, ancestors_isChain⟩,
    fun id => ⟨fun r => searchEnds_iff hderived, reached_listsReached hderived id⟩,
    fun id => ⟨fun r => searchEnds_iff hinterfaces, reached_listsReached hinterfaces id⟩,
    fun hmirror b d => ?_⟩
  · exact ⟨fun h => h.unique (g.ancestors_ends id), fun h => h ▸ g.ancestors_ends id⟩
  · rw [descendants, (reached_listsReached hderived b).mem, (g.ancestors_listsReached d).mem,
      transGen_derivedClasses hmirror, ne_comm, DerivesFrom]

/-- Two classes that derive from one another, and one that derives from one of them. -/
def looped : Graph := loose.linkAll [.base 0 1, .base 1 2, .base 2 1]

theorem looped_made : looped.Made [.base 0 1, .base 1 2, .base 2 1] :=
  loose_unlinked.linkAll_made (by decide)

theorem walks_list_reached_looped :
    (∀ c b, looped.base? c = some b ↔ c ∈ looped.derivedClasses b) ∧
      (∀ b d, d ∈ looped.descendants b ↔ b ∈ looped.ancestors d) ∧
      looped.ancestors 0 = [1, 2] ∧ looped.descendants 2 = [1, 0] := by
  have hmirror (c b : NodeId) :
      looped.base? c = some b ↔ c ∈ looped.derivedClasses b := by
    rw [← count_eq_one_iff (looped_made.derived_once b)]
    refine looped_made.forall_baseAgrees_iff.2 ?_ c b
    intro c b b' hb hb'
    simp only [List.mem_cons, Link.base.injEq, List.not_mem_nil, or_false] at hb hb'
    rcases hb with ⟨rfl, rfl⟩ | ⟨rfl, rfl⟩ | ⟨rfl, rfl⟩ <;> simpa [eq_comm] using hb'
  obtain ⟨-, -, -, hdual⟩ := looped.walks_list_reached
  exact ⟨hmirror, hdual hmirror, by decide, by decide⟩

end XmlTypes.Graph
