import Mathlib.Algebra.BigOperators.Intervals
import Mathlib.Data.List.Nodup
import Mathlib.Logic.Relation
import XmlTypes.Proofs.Nodes
/-!
# Walks reach what there is to reach

A walk has as much fuel as there are nodes, or steps from nodes, and so it goes on until nothing new
is left (`ChainEnds`, `SearchEnds`): `ancestors` lists exactly what is reached along base classes,
and `descendants` and `reachableInterfaces` what is reached along derived classes and interfaces.
-/

namespace XmlTypes.Graph

open Relation (TransGen)

theorem nodup_snoc {start id : NodeId} {nodes : List NodeId} (h : (start :: nodes).Nodup)
    (hs : id ≠ start) (hc : id ∉ nodes) : (start :: (nodes ++ [id])).Nodup := by
  rw [← List.cons_append, List.nodup_append]
  refine ⟨h, List.nodup_singleton id, fun a ha b hb hab => ?_⟩
  rw [List.mem_singleton.1 hb] at hab
  subst hab
  exact (List.mem_cons.1 ha).elim hs hc

/-- What every step from the start stays in holds all that is reached. -/
theorem mem_of_closed {step : NodeId → NodeId → Prop} {start a : NodeId} {nodes : List NodeId}
    (hclosed : ∀ y ∈ start :: nodes, ∀ z, step y z → z ∈ start :: nodes)
    (h : TransGen step start a) (hne : a ≠ start) : a ∈ nodes := by
  have hmem : a ∈ start :: nodes := by
    clear hne
    induction h with
    | single h => exact hclosed start List.mem_cons_self _ h
    | tail _ h ih => exact hclosed _ ih _ h
  exact (List.mem_cons.1 hmem).resolve_left hne

/-! ## Chains -/

section Chain
variable {next? : NodeId → Option NodeId} {start : NodeId} {chain result result' : List NodeId}
  {current : Option NodeId}

/-- To follow `next?` from `current`, after `chain`, comes to an end with `result`: there is nothing
to follow, or the next node is known, or it is new and followed in turn. -/
inductive ChainEnds (next? : NodeId → Option NodeId) (start : NodeId) :
    List NodeId → Option NodeId → List NodeId → Prop
  | done (chain : List NodeId) : ChainEnds next? start chain none chain
  | known {chain : List NodeId} {id : NodeId} (hold : id = start ∨ id ∈ chain) :
    ChainEnds next? start chain (some id) chain
  | new {chain result : List NodeId} {id : NodeId} (hstart : id ≠ start) (hnew : id ∉ chain)
    (hrest : ChainEnds next? start (chain ++ [id]) (next? id) result) :
    ChainEnds next? start chain (some id) result

namespace ChainEnds

/-- Where it ends is determined. -/
theorem unique (h : ChainEnds next? start chain current result)
    (h' : ChainEnds next? start chain current result') : result = result' := by
  induction h with
  | done =>
    cases h'
    rfl
  | known hold =>
    cases h' with
    | known => rfl
    | new hstart hnew => exact (hold.elim hstart hnew).elim
  | new hstart hnew _ ih =>
    cases h' with
    | known hold => exact (hold.elim hstart hnew).elim
    | new _ _ hrest => exact ih hrest

theorem nodup (h : ChainEnds next? start chain current result) (hn : (start :: chain).Nodup) :
    (start :: result).Nodup := by
  induction h with
  | done => exact hn
  | known => exact hn
  | new hstart hnew _ ih => exact ih (nodup_snoc hn hstart hnew)

/-- Each node is what follows the one before it, if the next node follows the last one so far. -/
theorem isChain (h : ChainEnds next? start chain current result)
    (hc : (start :: chain).IsChain (next? · = some ·))
    (hlast : ∀ x ∈ (start :: chain).getLast?, next? x = current) :
    (start :: result).IsChain (next? · = some ·) := by
  induction h with
  | done => exact hc
  | known => exact hc
  | @new chain result id hstart hnew _ ih =>
    rw [← List.cons_append] at ih
    refine ih (List.isChain_append.2 ⟨hc, List.isChain_singleton id, ?_⟩) ?_
    · simpa using hlast
    · intro x hx
      rw [List.getLast?_concat] at hx
      cases hx
      rfl

/-- It ends only when what follows a node is known. -/
theorem closed (h : ChainEnds next? start chain current result)
    (hnext : ∀ y ∈ start :: chain, ∀ z, next? y = some z → z ∈ start :: chain ∨ current = some z) :
    ∀ y ∈ start :: result, ∀ z, next? y = some z → z ∈ start :: result := by
  induction h with
  | done => exact fun y hy z hz => (hnext y hy z hz).resolve_right nofun
  | known hold =>
    intro y hy z hz
    rcases hnext y hy z hz with h | h
    · exact h
    · cases h
      exact List.mem_cons.2 hold
  | @new chain result id hstart hnew _ ih =>
    refine ih fun y hy z hz => ?_
    rw [← List.cons_append, List.mem_append, List.mem_singleton] at hy ⊢
    rcases hy with hy | rfl
    · rcases hnext y hy z hz with h | h
      · exact .inl (.inl h)
      · cases h
        exact .inl (.inr rfl)
    · exact .inr hz

end ChainEnds

/-- With fuel for all nodes below `n` a chain is followed to its end: only those nodes lead on, and
each of them is listed once. -/
theorem chainFrom_ends {n : Nat} (hbound : ∀ x y, next? x = some y → x < n) {fuel : Nat} :
    ∀ {chain : List NodeId} {current : Option NodeId}, (start :: chain).Nodup →
    (∀ x, current = some x → ∀ y ∈ start :: chain, y < n) → n ≤ fuel + chain.length →
    ChainEnds next? start chain current (chainFrom next? start fuel chain current) := by
  induction fuel with
  | zero =>
    intro chain current hn hlt hfuel
    cases current with
    | none => exact .done chain
    | some id =>
      -- A chain without repetition that has used up the fuel has no room below `n` for another.
      have hsub : (start :: chain) ⊆ List.range n :=
        fun y hy => List.mem_range.2 (hlt id rfl y hy)
      have hlen := (List.subperm_of_subset hn hsub).length_le
      simp only [List.length_cons, List.length_range] at hlen
      omega
  | succ fuel ih =>
    intro chain current hn hlt hfuel
    cases current with
    | none => exact .done chain
    | some id =>
      unfold chainFrom
      split
      · rename_i hold
        exact .known (by simpa using hold)
      · rename_i hnew
        simp only [Bool.or_eq_true, decide_eq_true_eq, List.contains_iff_mem, not_or] at hnew
        refine .new hnew.1 hnew.2 (ih (nodup_snoc hn hnew.1 hnew.2) (fun x hx y hy => ?_) ?_)
        · rw [← List.cons_append, List.mem_append, List.mem_singleton] at hy
          rcases hy with hy | rfl
          · exact hlt id rfl y hy
          · exact hbound y x hx
        · rw [List.length_append, List.length_singleton]
          omega

end Chain

/-- `b` is a base class of `a`, directly or through others. -/
def DerivesFrom (g : Graph) : NodeId → NodeId → Prop := TransGen (g.base? · = some ·)

variable {g : Graph} {a b id : NodeId}

theorem DerivesFrom.trans {c : NodeId} (h : g.DerivesFrom a b) (h' : g.DerivesFrom b c) :
    g.DerivesFrom a c := TransGen.trans h h'

theorem DerivesFrom.mono {g' : Graph} (hb : ∀ a b, g.base? a = some b → g'.base? a = some b)
    (h : g.DerivesFrom a b) : g'.DerivesFrom a b :=
  TransGen.mono (fun a b => hb a b) a b h

/-- The walk along base classes comes to its end. -/
theorem ancestors_ends (g : Graph) (id : NodeId) :
    ChainEnds g.base? id [] (g.base? id) (g.ancestors id) := by
  refine chainFrom_ends (fun _ _ h => lt_size_of_base? h) (List.nodup_singleton id) ?_
    (Nat.le_succ _)
  intro x hx y hy
  rw [List.mem_singleton.1 hy]
  exact lt_size_of_base? hx

theorem ancestors_nodup : (id :: g.ancestors id).Nodup :=
  (g.ancestors_ends id).nodup (List.nodup_singleton id)

theorem not_mem_ancestors_self : id ∉ g.ancestors id := (List.nodup_cons.1 ancestors_nodup).1

/-- Each base class that is listed is that of the class before it. -/
theorem ancestors_isChain : (id :: g.ancestors id).IsChain (g.base? · = some ·) :=
  (g.ancestors_ends id).isChain (List.isChain_singleton id) (by simp)

theorem ancestors_derive : (id :: g.ancestors id).Pairwise g.DerivesFrom := by
  have : Trans g.DerivesFrom g.DerivesFrom g.DerivesFrom := ⟨DerivesFrom.trans⟩
  exact List.isChain_iff_pairwise.1 (ancestors_isChain.imp fun _ _ h => TransGen.single h)

/-- The base classes that are listed are exactly those that are reached. -/
theorem mem_ancestors : a ∈ g.ancestors id ↔ a ≠ id ∧ g.DerivesFrom id a := by
  constructor
  · intro h
    exact ⟨fun e => not_mem_ancestors_self (e ▸ h), List.rel_of_pairwise_cons ancestors_derive h⟩
  · rintro ⟨hne, hd⟩
    refine mem_of_closed ((g.ancestors_ends id).closed fun y hy z hz => ?_) hd hne
    rw [List.mem_singleton.1 hy] at hz
    exact .inr hz

/-- A class derives from itself exactly if it is its base or listed for its base. -/
theorem derivesFrom_self_iff :
    g.DerivesFrom id id ↔ ∃ b, g.base? id = some b ∧ id ∈ b :: g.ancestors b := by
  refine TransGen.head'_iff.trans (exists_congr fun b => and_congr_right fun _ => ?_)
  rw [List.mem_cons, mem_ancestors, Relation.reflTransGen_iff_eq_or_transGen]
  by_cases he : id = b
  · exact iff_of_true (.inl he) (.inl he)
  · exact or_congr_right (and_iff_right he).symm

/-- Of two base classes listed for a class, the later one is listed for the earlier one. -/
theorem ancestors_pairwise : (id :: g.ancestors id).Pairwise fun a b => b ∈ g.ancestors a :=
  (ancestors_derive.and ancestors_nodup).imp fun h => mem_ancestors.2 ⟨h.2.symm, h.1⟩

/-! ## Searches -/

section Search
variable {next : NodeId → List NodeId} {start : NodeId} {stack seen result result' : List NodeId}
  {n : Nat}

/-- To take nodes from `stack`, after those in `seen`, comes to an end with `result`: the stack is
empty, or its top is known and dropped, or it is new and what it leads to is put on the stack. -/
inductive SearchEnds (next : NodeId → List NodeId) (start : NodeId) :
    List NodeId → List NodeId → List NodeId → Prop
  | done (seen : List NodeId) : SearchEnds next start [] seen seen
  | known {id : NodeId} {stack seen result : List NodeId} (hold : id = start ∨ id ∈ seen)
    (hrest : SearchEnds next start stack seen result) :
    SearchEnds next start (id :: stack) seen result
  | new {id : NodeId} {stack seen result : List NodeId} (hstart : id ≠ start) (hnew : id ∉ seen)
    (hrest : SearchEnds next start ((next id).reverse ++ stack) (seen ++ [id]) result) :
    SearchEnds next start (id :: stack) seen result

namespace SearchEnds

/-- Where it ends is determined. -/
theorem unique (h : SearchEnds next start stack seen result)
    (h' : SearchEnds next start stack seen result') : result = result' := by
  induction h with
  | done =>
    cases h'
    rfl
  | known hold _ ih =>
    cases h' with
    | known _ hrest => exact ih hrest
    | new hstart hnew => exact (hold.elim hstart hnew).elim
  | new hstart hnew _ ih =>
    cases h' with
    | known hold => exact (hold.elim hstart hnew).elim
    | new _ _ hrest => exact ih hrest

theorem nodup (h : SearchEnds next start stack seen result) (hn : (start :: seen).Nodup) :
    (start :: result).Nodup := by
  induction h with
  | done => exact hn
  | known _ _ ih => exact ih hn
  | new hstart hnew _ ih => exact ih (nodup_snoc hn hstart hnew)

/-- What is listed is reached from the start, if all that is seen or waits is. -/
theorem reached (h : SearchEnds next start stack seen result)
    (hr : ∀ x, x ∈ stack ∨ x ∈ seen → TransGen (fun a b => b ∈ next a) start x) :
    ∀ x ∈ result, TransGen (fun a b => b ∈ next a) start x := by
  induction h with
  | done => exact fun x hx => hr x (.inr hx)
  | known _ _ ih => exact ih fun x hx => hr x (hx.imp_left (List.mem_cons_of_mem _))
  | @new id stack seen result _ _ _ ih =>
    have hid := hr id (.inl List.mem_cons_self)
    refine ih fun x hx => ?_
    simp only [List.mem_append, List.mem_reverse, List.mem_singleton] at hx
    rcases hx with (hx | hx) | hx | rfl
    · exact hid.tail hx
    · exact hr x (.inl (List.mem_cons_of_mem _ hx))
    · exact hr x (.inr hx)
    · exact hid

/-- It ends only when all that is one step away is known. -/
theorem closed (h : SearchEnds next start stack seen result)
    (hnext : ∀ y ∈ start :: seen, ∀ z ∈ next y, z ∈ start :: seen ∨ z ∈ stack) :
    ∀ y ∈ start :: result, ∀ z ∈ next y, z ∈ start :: result := by
  induction h with
  | done => exact fun y hy z hz => (hnext y hy z hz).resolve_right List.not_mem_nil
  | @known id stack seen result hold _ ih =>
    refine ih fun y hy z hz => ?_
    rcases hnext y hy z hz with h | h
    · exact .inl h
    · rcases List.mem_cons.1 h with rfl | h
      · exact .inl (List.mem_cons.2 hold)
      · exact .inr h
  | @new id stack seen result _ _ _ ih =>
    refine ih fun y hy z hz => ?_
    rw [← List.cons_append, List.mem_append, List.mem_singleton] at hy ⊢
    rcases hy with hy | rfl
    · rcases hnext y hy z hz with h | h
      · exact .inl (.inl h)
      · rcases List.mem_cons.1 h with rfl | h
        · exact .inl (.inr rfl)
        · exact .inr (List.mem_append_right _ h)
    · exact .inr (List.mem_append_left _ (List.mem_reverse.2 hz))

end SearchEnds

/-- The steps that a search may still put on its stack. -/
def pending (next : NodeId → List NodeId) (start : NodeId) (n : Nat) (seen : List NodeId) : Nat :=
  ∑ x ∈ Finset.range n \ insert start seen.toFinset, (next x).length

theorem pending_append (hbound : ∀ x, n ≤ x → next x = []) {seen : List NodeId}
    (hid : id ≠ start ∧ id ∉ seen) :
    pending next start n (seen ++ [id]) + (next id).length = pending next start n seen := by
  have hset : Finset.range n \ insert start (seen ++ [id]).toFinset =
      (Finset.range n \ insert start seen.toFinset).erase id := by
    ext x
    simp only [Finset.mem_sdiff, Finset.mem_insert, List.mem_toFinset, List.mem_append,
      List.mem_singleton, Finset.mem_erase]
    tauto
  unfold pending
  rw [hset]
  by_cases hlt : id < n
  · rw [Nat.add_comm]
    exact Finset.add_sum_erase _ (fun x => (next x).length) (by simp [hlt, hid.1, hid.2])
  · rw [hbound id (Nat.le_of_not_lt hlt), Finset.erase_eq_of_notMem (by simp [hlt])]
    rfl

theorem length_flatMap_range (next : NodeId → List NodeId) (n : Nat) :
    ((List.range n).flatMap next).length = ∑ x ∈ Finset.range n, (next x).length := by
  induction n with
  | zero => rfl
  | succ n ih => simp [List.range_succ, Finset.sum_range_succ, ih]

/-- A search begins with all steps pending but those on its stack. -/
theorem pending_start (hbound : ∀ x, n ≤ x → next x = []) :
    (next start).length + pending next start n [] = ((List.range n).flatMap next).length := by
  have hset : Finset.range n \ insert start ([] : List NodeId).toFinset =
      (Finset.range n).erase start := by
    ext x
    simp [and_comm]
  unfold pending
  rw [hset, length_flatMap_range]
  by_cases hlt : start < n
  · exact Finset.add_sum_erase _ (fun x => (next x).length) (by simp [hlt])
  · rw [hbound start (Nat.le_of_not_lt hlt), Finset.erase_eq_of_notMem (by simp [hlt])]
    exact Nat.zero_add _

/-- With fuel for all steps on the stack and pending a search goes on to its end. -/
theorem reachFrom_ends (hbound : ∀ x, n ≤ x → next x = []) {fuel : Nat} :
    ∀ {stack seen : List NodeId}, stack.length + pending next start n seen < fuel →
    SearchEnds next start stack seen (reachFrom next start fuel stack seen) := by
  induction fuel with
  | zero => exact fun h => absurd h (Nat.not_lt_zero _)
  | succ fuel ih =>
    intro stack seen hfuel
    cases stack with
    | nil => exact .done seen
    | cons id stack =>
      simp only [List.length_cons] at hfuel
      unfold reachFrom
      split
      · rename_i hold
        exact .known (by simpa using hold) (ih (by omega))
      · rename_i hnew
        simp only [Bool.or_eq_true, decide_eq_true_eq, List.contains_iff_mem, not_or] at hnew
        -- The steps from a new node go from the pending ones to the stack: the sum falls by one.
        have hp := pending_append hbound hnew
        refine .new hnew.1 hnew.2 (ih ?_)
        simp only [List.length_append, List.length_reverse]
        omega

/-- A search through a graph comes to its end. -/
theorem reached_ends (hbound : ∀ x, g.size ≤ x → next x = []) (id : NodeId) :
    SearchEnds next id (next id).reverse [] (g.reached next id) := by
  have htotal : (next id).length + pending next id g.size [] = (g.ids.flatMap next).length :=
    pending_start hbound
  refine reachFrom_ends hbound ?_
  rw [List.length_reverse]
  exact Nat.lt_succ_of_le htotal.le

/-- A search lists exactly what is reached, but for its beginning. -/
theorem mem_reached {i : NodeId} (hbound : ∀ x, g.size ≤ x → next x = []) :
    i ∈ g.reached next id ↔ i ≠ id ∧ TransGen (fun a b => b ∈ next a) id i := by
  have hends := g.reached_ends hbound id
  constructor
  · intro hi
    have hn := hends.nodup (List.nodup_singleton id)
    refine ⟨fun h => (List.nodup_cons.1 hn).1 (h ▸ hi), hends.reached (fun x hx => ?_) i hi⟩
    exact .single (List.mem_reverse.1 (hx.resolve_right List.not_mem_nil))
  · rintro ⟨hne, hi⟩
    refine mem_of_closed (hends.closed fun y hy z hz => ?_) hi hne
    exact .inr (List.mem_reverse.2 (List.mem_singleton.1 hy ▸ hz))

end Search

theorem node?_eq_none (h : g.size ≤ id) : g.node? id = none := by
  rw [← Option.not_isSome_iff_eq_none, node?_isSome]
  exact Nat.not_lt.2 h

theorem derivedClasses_eq_nil (h : g.size ≤ id) : g.derivedClasses id = [] := by
  simp [derivedClasses, class?, node?_eq_none h]

theorem interfaces_eq_nil (h : g.size ≤ id) : g.interfaces id = [] := by
  simp [interfaces, node?_eq_none h]

/-- Where base classes know the classes derived from them, a class is listed for everything that is
listed for it. -/
theorem mem_descendants (hmirror : ∀ a b, g.base? a = some b → a ∈ g.derivedClasses b)
    (h : a ∈ g.ancestors id) : id ∈ g.descendants a := by
  obtain ⟨hne, hd⟩ := mem_ancestors.1 h
  refine (mem_reached fun _ => derivedClasses_eq_nil).2 ⟨hne.symm, ?_⟩
  have hdown : TransGen (fun x y => g.base? y = some x) a id := Relation.transGen_swap.2 hd
  exact TransGen.mono (fun x y => hmirror y x) _ _ hdown

/-! ## Walks through a growing graph -/

theorem mem_flattenedProperties {p : Property} :
    p ∈ g.flattenedProperties id ↔ p ∈ g.properties id ∨ p ∈ g.inheritedProperties id := by
  rw [flattenedProperties, List.flatMap_cons, List.mem_append]
  rfl

/-- Once a property is added, its owner has one of the name, be it this one or another. -/
theorem addProperty_named {p : Property}
    (hn : ∃ n, g.node? p.owner = some n ∧ n.hasMembers = true) :
    ∃ q ∈ (g.addProperty p).1.flattenedProperties p.owner, q.name = p.name := by
  by_cases htaken : ∃ q ∈ g.flattenedProperties p.owner, q.name = p.name
  · rwa [addProperty_of_taken htaken]
  · obtain ⟨n, hn, hmembers⟩ := hn
    refine ⟨p, mem_flattenedProperties.2 (.inl ?_), rfl⟩
    rw [addProperty_of_free (by simpa using htaken)]
    simp [properties, hn, Node.properties_mapProperties, hmembers]

namespace Grows

variable {g' : Graph}

theorem base? (h : g.Grows g') (hb : g.base? a = some b) : g'.base? a = some b := by
  rw [base?_eq, Option.bind_eq_some_iff] at hb ⊢
  obtain ⟨m, hm, hb⟩ := hb
  obtain ⟨n, hn, hg⟩ := h.nodes a m hm
  exact ⟨n, hn, hg.base b hb⟩

theorem properties (h : g.Grows g') (id : NodeId) : g.properties id <+: g'.properties id := by
  cases hm : g.node? id with
  | none => simp [Graph.properties, hm]
  | some m =>
    obtain ⟨n, hn, hg⟩ := h.nodes id m hm
    rw [properties_of_node? hm, properties_of_node? hn]
    exact hg.properties

theorem properties_ne_nil (h : g.Grows g') (hne : g.properties id ≠ []) :
    g'.properties id ≠ [] :=
  fun hnil => hne (List.prefix_nil.1 (hnil ▸ h.properties id))

theorem ancestors (h : g.Grows g') (ha : a ∈ g.ancestors id) : a ∈ g'.ancestors id := by
  rw [mem_ancestors] at ha ⊢
  exact ⟨ha.1, ha.2.mono fun _ _ => h.base?⟩

/-- What a class inherits or declares, it goes on to inherit or to declare. -/
theorem inheritedProperties (h : g.Grows g') :
    g.inheritedProperties id ⊆ g'.inheritedProperties id := by
  intro p hp
  obtain ⟨a, ha, hp⟩ := List.mem_flatMap.1 hp
  exact List.mem_flatMap.2 ⟨a, h.ancestors ha, (h.properties a).subset hp⟩

theorem flattenedProperties (h : g.Grows g') :
    g.flattenedProperties id ⊆ g'.flattenedProperties id := by
  intro p hp
  rw [mem_flattenedProperties] at hp ⊢
  exact hp.imp (fun hp => (h.properties id).subset hp) fun hp => h.inheritedProperties hp

end Grows

/-! ## Several properties -/

/-- The graph with some properties added, one after the other. -/
def addAll (g : Graph) (ps : List Property) : Graph := ps.foldl (fun g p => (g.addProperty p).1) g

theorem addAll_append (g : Graph) (ps qs : List Property) :
    g.addAll (ps ++ qs) = (g.addAll ps).addAll qs := List.foldl_append

theorem grows_addAll (g : Graph) (ps : List Property) : g.Grows (g.addAll ps) :=
  List.foldlRecOn (motive := g.Grows) _ _ (.refl g) fun _ h p _ => h.trans (.addProperty p)

/-- What is said of each item and those before it, in a list with one more item. -/
theorem forall_before_concat {α : Type} {P : List α → α → Prop} {as : List α} {a : α} :
    (∀ before x after, as ++ [a] = before ++ x :: after → P before x) ↔
      (∀ before x after, as = before ++ x :: after → P before x) ∧ P as a := by
  constructor
  · intro h
    exact ⟨fun before x after heq => h before x (after ++ [a]) (by simp [heq]), h as a [] rfl⟩
  · rintro ⟨h, hlast⟩ before x after heq
    rcases List.eq_nil_or_concat' after with rfl | ⟨after, b, rfl⟩
    · obtain ⟨rfl, hx⟩ := List.append_inj' heq rfl
      obtain rfl := List.singleton_inj.1 hx
      exact hlast
    · rw [← List.cons_append, ← List.append_assoc] at heq
      exact h before x after (List.append_inj' heq rfl).1

/-- Whatever else is added, the owner has a property with the name of each that was to be added. -/
theorem addAll_named {p : Property} {ps : List Property} (hp : p ∈ ps)
    (hn : ∃ n, g.node? p.owner = some n ∧ n.hasMembers = true) :
    ∃ q ∈ (g.addAll ps).flattenedProperties p.owner, q.name = p.name := by
  obtain ⟨before, after, rfl⟩ := List.append_of_mem hp
  obtain ⟨n, hn, hmembers⟩ := hn
  obtain ⟨m, hm, hgrows⟩ := (g.grows_addAll before).nodes _ n hn
  obtain ⟨q, hq, hname⟩ := addProperty_named (g := g.addAll before)
    ⟨m, hm, (Node.hasMembers_congr hgrows.label).trans hmembers⟩
  refine ⟨q, ?_, hname⟩
  rw [addAll_append]
  exact (grows_addAll _ after).flattenedProperties hq

end XmlTypes.Graph
