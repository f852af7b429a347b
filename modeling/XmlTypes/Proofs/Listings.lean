import XmlTypes.Proofs.ClassRuns
/-!
# How nodes are named and listed

A new node is placed in its namespace under a name that is free there, and no later step moves it
or gives it another name. So every node is found under its name, and nothing else is found
(`Graph.Tabled`); a node for a name in the schema has the candidate for it unless that is taken,
and every other node has a name that is not reserved where it is declared (`Listed`).
-/

namespace XmlTypes

namespace Graph

variable {g g' : Graph}

/-- Every node is found in its namespace under its name, and nothing else is found. -/
def Tabled (g : Graph) : Prop :=
  ∀ space name id, g.find? space name = some id ↔
    ∃ n, g.node? id = some n ∧ n.space = space ∧ n.name = name

/-- No two nodes of a namespace have one name. -/
theorem Tabled.eq_of_name (h : g.Tabled) {i j : NodeId} {m n : Node} (hm : g.node? i = some m)
    (hn : g.node? j = some n) (hspace : m.space = n.space) (hname : m.name = n.name) : i = j :=
  Option.some.inj
    (((h _ _ i).2 ⟨m, hm, hspace, hname⟩).symm.trans ((h _ _ j).2 ⟨n, hn, rfl, rfl⟩))

/-- A graph that only grows at its nodes lists them as before. -/
theorem Tabled.grow (h : g.Tabled) (hg : g.Grows g') (hsize : g'.size = g.size)
    (hspaces : g'.namespaces = g.namespaces) : g'.Tabled := by
  intro space name id
  have hfind : g'.find? space name = g.find? space name := by rw [find?, find?, hspaces]
  rw [hfind, h space name id]
  constructor
  · rintro ⟨m, hm, rfl, rfl⟩
    obtain ⟨n, hn, hgrows⟩ := hg.nodes id m hm
    exact ⟨n, hn, hgrows.space, hgrows.name⟩
  · rintro ⟨n, hn, rfl, rfl⟩
    obtain ⟨m, hm⟩ :=
      Option.isSome_iff_exists.1 (node?_isSome.2 (hsize ▸ lt_size_of_node? hn))
    obtain ⟨n', hn', hgrows⟩ := hg.nodes id m hm
    obtain rfl := Option.some.inj (hn.symm.trans hn')
    exact ⟨m, hm, hgrows.space.symm, hgrows.name.symm⟩

end Graph

namespace Build

open Schema

variable {env : Environment} {s t : State}

/-- What is found in a namespace once a node is placed. -/
theorem Placing.find? {n : Node} (h : Placing n s t) (space name : String) :
    t.graph.find? space name =
      if space = n.space ∧ name = n.name then some s.graph.size
      else s.graph.find? space name := by
  obtain ⟨key, hspaces⟩ := h
  rw [Graph.find?, Graph.find?, hspaces, Table.get?_modify, Table.get?_insertNew]
  by_cases hspace : space = n.space
  · subst hspace
    cases s.graph.namespaces.get? n.space <;> by_cases hname : name = n.name <;>
      simp [Table.get?_insert, hname]
    rfl
  · simp [hspace, Ne.symm hspace]

/-- No change places anything. -/
theorem Change.namespaces {head : Option NodeId} (h : Change env head s t) :
    t.graph.namespaces = s.graph.namespaces := by
  cases h with
  | aside hg _ _ _ _ => rw [hg]
  | implement _ _ => unfold Graph.addImplementer; split <;> rfl
  | property _ _ _ => unfold Graph.addProperty; split <;> rfl
  | _ => rfl

/-- How nodes are named, and what is listed where. -/
structure Listed (env : Environment) (s : State) : Prop where
  tabled : s.graph.Tabled
  candidate : ∀ id n, s.graph.node? id = some n → n.identity.isEmpty = false →
    ∀ c, n.candidate? env.naming = some c → n.name = c ∨ (s.graph.find? n.space c).isSome = true
  anonymous : ∀ id n, s.graph.node? id = some n → n.isAnonymous = true →
    n.identity.isEmpty = true
  unnamed : ∀ id n, s.graph.node? id = some n → n.identity.isEmpty = true →
    n.IsRootClass ∧ n.isClass = true ∨ (∃ p, s.context.inlineType? p = some id) ∨ Misnamed env.index
  inPlace : ∀ p id, s.context.inlineType? p = some id → ∃ n, s.graph.node? id = some n ∧
    n.isAnonymous = true ∧ ∃ r : Declared TypeRef, Belongs env.index (.reference r) ∧
      r.place = p ∧ Unreserved env r.document n.name
  /-- A node is remembered for one place at most. -/
  distinct : ∀ p q id, s.context.inlineType? p = some id → s.context.inlineType? q = some id →
    p = q
  roots : ∀ l q id, s.context.cache.get? ⟨.rootElement, l, q⟩ = some id →
    ∃ n, s.graph.node? id = some n ∧ ∃ doc ∈ env.index.documents,
      doc.location = l ∧ Unreserved env doc n.name

theorem Change.listed {head : Option NodeId} (h : Change env head s t) (hs : Listed env s) :
    Listed env t where
  tabled := hs.tabled.grow h.extend.graph h.size h.namespaces
  candidate id n hn hname c hc := by
    obtain ⟨m, hm, hg⟩ := h.of_node? hn
    rw [Graph.find?, h.namespaces, hg.name, hg.space]
    rw [Node.candidate?_congr env.naming hg.identity hg.label] at hc
    exact hs.candidate id m hm (hg.identity ▸ hname) c hc
  anonymous id n hn ha := by
    obtain ⟨m, hm, hg⟩ := h.of_node? hn
    exact hg.identity ▸ hs.anonymous id m hm (hg.isAnonymous ▸ ha)
  unnamed id n hn hempty := by
    obtain ⟨m, hm, hg⟩ := h.of_node? hn
    refine (hs.unnamed id m hm (hg.identity ▸ hempty)).imp
      (.imp hg.isRootClass.2 (Node.isClass_congr hg.label).trans) (.imp_left ?_)
    rintro ⟨p, hp⟩
    exact ⟨p, h.inlineType? p ▸ hp⟩
  inPlace p id hp := by
    obtain ⟨m, hm, ha, r, hr, hrp, hfree⟩ := hs.inPlace p id (h.inlineType? p ▸ hp)
    obtain ⟨n, hn, hg⟩ := h.extend.graph.nodes id m hm
    exact ⟨n, hn, hg.isAnonymous.trans ha, r, hr, hrp, hg.name ▸ hfree⟩
  distinct p q id hp hq :=
    hs.distinct p q id (h.inlineType? p ▸ hp) (h.inlineType? q ▸ hq)
  roots l q id hk := by
    rcases h.of_get? hk with hk | ⟨hk, -⟩ | ⟨hk, -⟩
    · obtain ⟨m, hm, doc, hdoc, hl, hfree⟩ := hs.roots l q id hk
      obtain ⟨n, hn, hg⟩ := h.extend.graph.nodes id m hm
      exact ⟨n, hn, doc, hdoc, hl, hg.name ▸ hfree⟩
    all_goals cases hk

theorem Creation.listed {n : Node} {key : Option CacheKey} {place : Option Place}
    (h : Creation env s t n key place) (hs : Listed env s) : Listed env t := by
  have hnew : t.graph.node? s.graph.size = some n := (h.node? _).trans (if_pos rfl)
  have hold {id : NodeId} {m : Node} (hm : s.graph.node? id = some m) :
      t.graph.node? id = some m := by
    rw [h.node?, if_neg (Nat.ne_of_lt (Graph.lt_size_of_node? hm)), hm]
  have hfind (space name : String) (hsome : (s.graph.find? space name).isSome = true) :
      (t.graph.find? space name).isSome = true := by
    rw [h.placing.find?]
    split
    · rfl
    · exact hsome
  constructor
  case tabled =>
    intro space name id
    rw [h.placing.find?]
    split
    · -- The new node is the only one with its name.
      rename_i hname
      obtain ⟨rfl, rfl⟩ := hname
      constructor
      · rintro ⟨⟩
        exact ⟨n, hnew, rfl, rfl⟩
      · rintro ⟨m, hm, hspace, hname⟩
        rw [h.node?] at hm
        split at hm
        · rename_i hid
          rw [hid]
        · have hfree := h.named.free
          rw [(hs.tabled _ _ id).2 ⟨m, hm, hspace, hname⟩] at hfree
          cases hfree
    · rename_i hname
      rw [hs.tabled space name id]
      constructor
      · rintro ⟨m, hm, hmn⟩
        exact ⟨m, hold hm, hmn⟩
      · rintro ⟨m, hm, rfl, rfl⟩
        rw [h.node?] at hm
        split at hm
        · exact absurd ⟨congrArg Node.space (Option.some.inj hm).symm,
            congrArg Node.name (Option.some.inj hm).symm⟩ hname
        · exact ⟨m, hm, rfl, rfl⟩
  case candidate =>
    intro id m hm hname c hc
    rw [h.node?] at hm
    split at hm
    · obtain rfl := Option.some.inj hm
      exact (h.named.candidate hname c hc).imp_right (hfind _ _)
    · exact (hs.candidate id m hm hname c hc).imp_right (hfind _ _)
  case anonymous =>
    intro id m hm ha
    rw [h.node?] at hm
    split at hm
    · obtain rfl := Option.some.inj hm
      exact h.named.anonymous ha
    · exact hs.anonymous id m hm ha
  case unnamed =>
    intro id m hm hempty
    rw [h.node?] at hm
    split at hm
    · rename_i hid
      obtain rfl := Option.some.inj hm
      refine (h.named.unnamed hempty).imp_right (.imp_left fun hsome => ?_)
      obtain ⟨p, rfl⟩ := Option.isSome_iff_exists.1 hsome
      refine ⟨p, ?_⟩
      rw [Context.inlineType?, h.context, Context.inlineTypes_remember, hid]
      exact Table.get?_insertNew_self (h.place p rfl).1
    · refine (hs.unnamed id m hm hempty).imp_right (.imp_left ?_)
      rintro ⟨p, hp⟩
      exact ⟨p, h.extend.inlineTypes p id hp⟩
  case inPlace =>
    intro p id hp
    rcases h.of_inlineType? hp with hp | ⟨hplace, rfl⟩
    · obtain ⟨m, hm, hrest⟩ := hs.inPlace p id hp
      exact ⟨m, hold hm, hrest⟩
    · exact ⟨n, hnew, h.named.inPlace p hplace⟩
  case distinct =>
    -- What is remembered before is no new node.
    have hlt {p : Place} {id : NodeId} (hp : s.context.inlineType? p = some id) :
        id ≠ s.graph.size := by
      obtain ⟨m, hm, -⟩ := hs.inPlace p id hp
      exact Nat.ne_of_lt (Graph.lt_size_of_node? hm)
    intro p q id hp hq
    rcases h.of_inlineType? hp with hp' | ⟨hplace, hid⟩ <;>
      rcases h.of_inlineType? hq with hq' | ⟨hplace', hid'⟩
    · exact hs.distinct p q id hp' hq'
    · exact absurd hid' (hlt hp')
    · exact absurd hid (hlt hq')
    · exact Option.some.inj (hplace.symm.trans hplace')
  case roots =>
    intro l q id hk
    rcases h.of_get? hk with hk | ⟨hkey, rfl⟩
    · obtain ⟨m, hm, hrest⟩ := hs.roots l q id hk
      exact ⟨m, hold hm, hrest⟩
    · exact ⟨n, hnew, h.named.root l q hkey⟩

theorem Moves.listed (h : Moves env s t) (hs : Listed env s) : Listed env t := by
  cases h with
  | change h => exact h.listed hs
  | create h => exact h.listed hs
  | opening h => exact { hs with }

theorem listed_start (env : Environment) (resolver : Resolver) : Listed env { resolver } where
  tabled _ _ _ := by
    constructor
    · nofun
    · rintro ⟨n, hn, -⟩
      cases hn
  candidate _ _ h := nomatch h
  anonymous _ _ h := nomatch h
  unnamed _ _ h := nomatch h
  inPlace _ _ h := nomatch h
  distinct _ _ _ h := nomatch h
  roots _ _ _ h := nomatch h

/-- In a graph that is built every node is listed under the name that it should have. -/
theorem run_listed {resolver : Resolver} (hix : env.index.Lawful)
    (h : run env resolver = .ok s) : Listed env s :=
  run_invariant hix (listed_start env resolver) (fun _ _ => Moves.listed) h

end Build

end XmlTypes
