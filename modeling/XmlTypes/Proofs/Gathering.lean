import XmlTypes.Proofs.Filling
/-!
# Gathering properties

What one stop of a walk does to the owner that is being filled: a stop whose name is held already
does nothing, and any other gives its property (`Gathering.add`). So after a list of parts the
owner is filled from the stops of all parts in order (`gathers_foldlM`).
-/

namespace XmlTypes.Build

open Schema

variable {env : Environment} {s t u : State} {r : Opening} {scope scope' : Scope}
  {stops : List Stop} {m : Stop} {p : Property}

/-- Properties are being gathered for the owner of the opening, after the given stops. -/
structure Gathering (env : Environment) (s : State) (r : Opening) (scope : Scope)
    (stops : List Stop) : Prop where
  ready : Ready env s
  node : ∃ n, s.graph.node? r.scope.owner = some n ∧ n.hasMembers = true
  alike : scope.Alike r.scope
  filled : Filled env s r stops

/-- What gathering properties does: the walk has made the given stops in the end. -/
structure Gathers (env : Environment) (s t : State) (r : Opening) (scope : Scope)
    (stops : List Stop) : Prop where
  builds : Builds env none (some r.scope.owner) s t
  alike : scope.Alike r.scope
  filled : Filled env t r stops

namespace Gathering

variable (h : Gathering env s r scope stops)
include h

theorem known : ∀ id, some r.scope.owner = some id → id < s.graph.size := by
  rintro _ ⟨⟩
  obtain ⟨n, hn, -⟩ := h.node
  exact Graph.lt_size_of_node? hn

theorem lt_size : r.scope.owner < s.graph.size := h.known _ rfl

/-- Where nothing is added there is nothing to do. -/
theorem refl : Gathers env s s r scope stops := ⟨.refl h.ready h.known, h.alike, h.filled⟩

/-- What is built on the way does not interfere. -/
theorem build (hb : Builds env none none s t) : Gathering env t r scope stops where
  ready := hb.ready
  node := by
    obtain ⟨m, hm, hmembers⟩ := h.node
    obtain ⟨n, hn, hg⟩ := hb.extend.graph.nodes _ m hm
    exact ⟨n, hn, by rwa [Node.hasMembers_congr hg.label]⟩
  alike := h.alike
  filled := hb.filled h.filled h.lt_size nofun

theorem enter (name : QName) :
    Gathering env { s with context := s.context.enter name } r scope stops where
  ready := h.ready.enter name
  node := h.node
  alike := h.alike
  filled := h.filled.keep (Moves.enter name : Moves env s _).extend rfl fun _ => .rfl

/-- One part after the other. -/
theorem after {stops' : List Stop} (hf : Gathers env s t r scope' stops') :
    Gathering env t r scope' stops' where
  ready := hf.builds.ready
  node := by
    obtain ⟨m, hm, hmembers⟩ := h.node
    obtain ⟨n, hn, hg⟩ := hf.builds.extend.graph.nodes _ m hm
    exact ⟨n, hn, by rwa [Node.hasMembers_congr hg.label]⟩
  alike := hf.alike
  filled := hf.filled

end Gathering

namespace Gathers

theorem trans {scope₁ scope₂ : Scope} {stops₁ stops₂ : List Stop}
    (h : Gathers env s t r scope₁ stops₁) (h' : Gathers env t u r scope₂ stops₂) :
    Gathers env s u r scope₂ stops₂ :=
  ⟨h.builds.trans h'.builds, h'.alike, h'.filled⟩

theorem build {stops' : List Stop} (hf : Gathering env s r scope stops)
    (hb : Builds env none none s t) (h : Gathers env t u r scope' stops') :
    Gathers env s u r scope' stops' :=
  ⟨(hb.weaken hf.known).trans h.builds, h.alike, h.filled⟩

theorem expanding {name : QName}
    (h : Gathers env { s with context := s.context.enter name } t r scope stops) :
    Gathers env s { t with context := t.context.leave } r scope stops :=
  ⟨h.builds.expanding, h.alike, h.filled.keep (Moves.leave env).extend rfl fun _ => .rfl⟩

end Gathers

/-! ### Adding a property -/

/-- The state with other properties waiting for the members of their heads. -/
def State.withSites (s : State) (sites : List Site) : State :=
  { s with context := { s.context with
      substitutions := { s.context.substitutions with sites } } }

/-- A property is added at the end under a free name, or not at all. -/
theorem addProperty_run {n : Node} {added : Bool} (hn : s.graph.node? p.owner = some n)
    (hmembers : n.hasMembers = true) (h : addProperty p s = .ok (added, t)) :
    added = false ∧ t = s ∧ (∃ q ∈ s.graph.flattenedProperties p.owner, q.name = p.name) ∨
      added = true ∧ (∀ q ∈ s.graph.flattenedProperties p.owner, q.name ≠ p.name) ∧
        t = { s with graph := s.graph.modify p.owner (Node.mapProperties (· ++ [p])) } := by
  obtain ⟨rfl, rfl⟩ := addProperty_ok.1 h
  by_cases htaken : ∃ q ∈ s.graph.flattenedProperties p.owner, q.name = p.name
  · have hany : (s.graph.flattenedProperties p.owner).any (·.name = p.name) = true := by
      simpa using htaken
    refine .inl ⟨?_, ?_, htaken⟩ <;> rw [Graph.addProperty, if_pos hany]
  · have hfree : ∀ q ∈ s.graph.flattenedProperties p.owner, q.name ≠ p.name := by
      simpa using htaken
    have hany : ¬ (s.graph.flattenedProperties p.owner).any (·.name = p.name) = true := by
      simpa using htaken
    refine .inr ⟨?_, hfree, ?_⟩
    · rw [Graph.addProperty, if_neg hany]
      simp [hn, hmembers]
    · rw [Graph.addProperty_of_free hfree]

/-- At most one node gets properties, and at most its properties begin to wait. -/
theorem Builds.member {id : NodeId} {g : Graph} {sites : List Site} (hs : Ready env s)
    (hid : id < s.graph.size) (hg : s.graph.Grows g)
    (hbase : ∀ j, g.base? j = s.graph.base? j)
    (hprops : ∀ j, j ≠ id → g.properties j = s.graph.properties j)
    (hsites : ∀ x : Site, x.owner ≠ id → (x ∈ sites ↔ x ∈ s.context.substitutions.sites))
    (hwaiting : ∀ x ∈ sites, x.owner = id → g.properties id ≠ []) :
    Builds env none (some id) s ({ s with graph := g }.withSites sites) where
  extend := ⟨hg, fun _ _ h => h, fun _ _ h => h, List.Subset.refl _⟩
  ready :=
    { toValued := hs.toValued.congr rfl rfl
      waiting := fun x hx => by
        by_cases ho : x.owner = id
        · exact ho ▸ hwaiting x hx ho
        · exact hg.properties_ne_nil (hs.waiting x ((hsites x ho).1 hx))
      owners := fun r hr => Nat.lt_of_lt_of_le (hs.owners r hr) hg.size }
  known := by rintro _ ⟨⟩; exact hid
  active := rfl
  members := rfl
  abstractMembers := rfl
  base j _ _ := hbase j
  properties j _ hne := hprops j fun e => hne (congrArg some e.symm)
  sites x _ hne := hsites x fun e => hne (congrArg some e.symm)
  journal _ hr := .inl hr

/-- A stop whose member is held already gives nothing. -/
theorem Filled.pass (h : Filled env s r stops) (hm : Held env s r.scope m.member)
    (htyped : m.key ∉ r.scope.restated → ∃ v, m.PlacedAs env s v) :
    Filled env s r (stops ++ [m]) where
  held m' hm' := by
    rcases List.mem_append.1 hm' with hm' | hm'
    · exact h.held m' hm'
    · exact List.mem_singleton.1 hm' ▸ hm
  arises p hp := (h.arises p hp).imp_right fun ⟨m', hm'⟩ => ⟨m', hm'.append [m]⟩
  sites head := by
    rw [h.sites]
    refine and_congr_right fun _ => exists_congr fun p => and_congr_right fun hp =>
      exists_congr fun m' => and_congr_left fun _ => ?_
    exact (h.gives_iff (fun _ hm => hm.append [m]) hp).symm
  placed p hp m' hm' := h.placed p hp m' ((h.gives_iff (fun _ hm => hm.append [m]) hp).1 hm')
  typed m' hm' := by
    rcases List.mem_append.1 hm' with hm' | hm'
    · exact h.typed m' hm'
    · exact List.mem_singleton.1 hm' ▸ htyped

/-- A stop whose name is still free is the first one with its key: of an earlier one there would be
a property with the name. -/
theorem Filled.find?_of_free (h : Filled env s r stops) (hm : m.key ∉ r.scope.restated)
    (hfree : ∀ q ∈ s.graph.flattenedProperties r.scope.owner,
      q.name ≠ m.member.propertyName env.naming r.scope.ownerName) :
    (stops ++ [m]).find? (·.key = m.key) = some m := by
  have hnone : stops.find? (·.key = m.key) = none := by
    rw [List.find?_eq_none]
    intro m' hm' hkey
    have hkey : m'.key = m.key := of_decide_eq_true hkey
    rcases h.held m' hm' with hin | ⟨q, hq, hname⟩
    · exact hm (hkey ▸ hin)
    · exact hfree q hq (hname.trans (Stop.propertyName_of_key _ _ hkey))
  simp [List.find?_append, hnone]

/-- Nothing is there yet. -/
theorem Filled.start (hprops : s.graph.properties r.scope.owner = [])
    (hsites : ∀ head, ⟨r.scope.owner, head⟩ ∉ s.context.substitutions.sites) :
    Filled env s r [] where
  held m hm := nomatch hm
  arises p hp := by rw [hprops] at hp; cases hp
  sites head := by simp [hprops, hsites]
  placed p hp := by rw [hprops] at hp; cases hp
  typed m hm := nomatch hm

namespace Gathering

variable {added : Bool} {type : Resolved} {order : Option Nat} {sites : List Site}
  (h : Gathering env s r scope stops)
include h

/-- A stop that a restriction restates gives nothing. -/
theorem restated (halike : scope'.Alike r.scope) (hm : m.key ∈ r.scope.restated) :
    Gathers env s s r scope' (stops ++ [m]) :=
  ⟨.refl h.ready h.known, halike, h.filled.pass (.inl hm) (absurd hm)⟩

/-- A property with a free name goes to the end, and begins to wait at most. -/
theorem grow (hfree : ∀ q ∈ s.graph.flattenedProperties r.scope.owner, q.name ≠ p.name)
    (howner : p.owner = r.scope.owner) (hsites : ∀ x : Site, x.owner ≠ r.scope.owner →
      (x ∈ sites ↔ x ∈ s.context.substitutions.sites)) :
    Builds env none (some r.scope.owner) s
      (({ s with graph := s.graph.modify r.scope.owner (Node.mapProperties (· ++ [p])) } :
        State).withSites sites) ∧
    (s.graph.modify r.scope.owner (Node.mapProperties (· ++ [p]))).properties r.scope.owner =
      s.graph.properties r.scope.owner ++ [p] := by
  obtain ⟨n, hn, hmembers⟩ := h.node
  have hprops : (s.graph.modify r.scope.owner (Node.mapProperties (· ++ [p]))).properties
      r.scope.owner = s.graph.properties r.scope.owner ++ [p] := by
    rw [properties_modify_append hn hmembers, if_pos rfl]
  refine ⟨.member h.ready h.lt_size ?_ (fun j => ?_) (fun j hj => ?_) hsites fun _ _ _ => ?_, hprops⟩
  · have hg := Graph.Grows.addProperty (g := s.graph) p
    rwa [Graph.addProperty_of_free (howner ▸ hfree), howner] at hg
  · exact Graph.base?_congr (Graph.bind_node?_modify _ fun _ _ => Node.base?_mapProperties _ _)
  · rw [properties_modify_append hn hmembers, if_neg hj]
  · rw [hprops]
    exact List.append_ne_nil_of_right_ne_nil _ (List.cons_ne_nil _ _)

/-- The first stop with a name that is free gives a property, and further ones give nothing. -/
theorem add (hm : m.key ∉ r.scope.restated)
    (htype : m.HasType env s type ∧ m.PlacedAs env s type.type)
    (halike : scope'.Alike r.scope)
    (hadd : addProperty (m.property env r.scope type order) s = .ok (added, t))
    (hsites : ∀ x, x ∈ sites ↔ x ∈ s.context.substitutions.sites ∨ added = true ∧
      x.owner = r.scope.owner ∧ m.RefersTo x.head ∧ env.index.substitutionMembers x.head ≠ []) :
    Gathers env s (t.withSites sites) r scope' (stops ++ [m]) := by
  obtain ⟨n, hn, hmembers⟩ := h.node
  have howner : (m.property env r.scope type order).owner = r.scope.owner := Stop.owner_property
  have hother (x : Site) (hx : x.owner ≠ r.scope.owner) :
      x ∈ sites ↔ x ∈ s.context.substitutions.sites := by simp [hsites, hx]
  rcases addProperty_run (howner ▸ hn) hmembers hadd with
    ⟨rfl, rfl, q, hq, hname⟩ | ⟨rfl, hfree, rfl⟩
  · have hb : Builds env none (some r.scope.owner) t (t.withSites sites) :=
      .member h.ready h.lt_size (.refl _) (fun _ => rfl) (fun _ _ => rfl) hother
        fun x hx ho => ho ▸ h.ready.waiting x (((hsites x).1 hx).resolve_right (by simp))
    refine ⟨hb, halike, (h.filled.pass (.inr ⟨q, howner ▸ hq, ?_⟩)
      fun _ => ⟨_, htype.2⟩).keep hb.extend rfl ?_⟩
    · exact hname.trans Stop.name_property
    · exact fun head => by simp [State.withSites, hsites]
  · rw [howner] at hfree ⊢
    obtain ⟨hb, hprops⟩ := h.grow hfree howner hother
    have hfirst : (stops ++ [m]).find? (·.key = m.key) = some m :=
      h.filled.find?_of_free hm fun q hq => Stop.name_property ▸ hfree q hq
    have hgives : Gives env (({ s with graph := s.graph.modify r.scope.owner (Node.mapProperties
        (· ++ [m.property env r.scope type order])) } : State).withSites sites) r (stops ++ [m]) m
        (m.property env r.scope type order) :=
      ⟨hfirst, hm, type, order, htype.1.mono hb.extend, rfl⟩
    have hold (m' : Stop) (q : Property) (hm' : Gives env s r stops m' q) :=
      (hm'.mono hb.extend).append [m]
    refine ⟨hb, halike, fun m' hm' => ?_, fun q hq => ?_, fun head => ?_, fun q hq m' hm' => ?_,
      fun m' hm' hfree' => ?_⟩
    · rcases List.mem_append.1 hm' with hm' | hm'
      · exact (h.filled.held m' hm').mono hb.extend
      · rw [List.mem_singleton.1 hm']
        refine .inr ⟨m.property env r.scope type order, ?_, Stop.name_property⟩
        exact Graph.mem_flattenedProperties.2 (.inl (hprops.symm ▸ by simp))
    · rcases List.mem_append.1 (hprops ▸ hq) with hq | hq
      · exact (h.filled.arises q hq).imp_right fun ⟨m', hm'⟩ => ⟨m', hold m' q hm'⟩
      · exact .inr ⟨m, List.mem_singleton.1 hq ▸ hgives⟩
    · change _ ∈ sites ↔ _
      rw [hsites, h.filled.sites]
      simp only [true_and]
      constructor
      · rintro (⟨hne, q, hq, m', hm', href⟩ | ⟨href, hne⟩)
        · exact ⟨hne, q, hprops ▸ List.mem_append_left _ hq, m', hold m' q hm', href⟩
        · exact ⟨hne, _, hprops.symm ▸ by simp, m, hgives, href⟩
      · rintro ⟨hne, q, hq, m', hm', href⟩
        rcases List.mem_append.1 (hprops ▸ hq) with hq | hq
        · refine .inl ⟨hne, q, hq, m', ?_, href⟩
          exact (h.filled.gives_iff (fun m' => hold m' q) hq).1 hm'
        · obtain rfl := (List.mem_singleton.1 hq ▸ hm').unique hgives
          exact .inr ⟨href, hne⟩
    · rcases List.mem_append.1 (hprops ▸ hq) with hq | hq
      · exact (h.filled.placed q hq m'
          ((h.filled.gives_iff (fun m' => hold m' q) hq).1 hm')).mono hb.extend
      · obtain rfl := List.mem_singleton.1 hq
        obtain rfl := hm'.unique hgives
        exact Stop.type_property ▸ htype.2.mono hb.extend
    · rcases List.mem_append.1 hm' with hm' | hm'
      · exact (h.filled.typed m' hm' hfree').imp fun _ hv => hv.mono hb.extend
      · rw [List.mem_singleton.1 hm']
        exact ⟨_, htype.2.mono hb.extend⟩

/-- A wildcard is no stop. -/
theorem wildcard (howner : p.owner = r.scope.owner) (hwildcard : p.isWildcard = true)
    (hsubstitutes : p.substitutes = []) (halike : scope'.Alike r.scope)
    (hadd : addProperty p s = .ok (added, t)) : Gathers env s t r scope' stops := by
  obtain ⟨n, hn, hmembers⟩ := h.node
  rcases addProperty_run (howner ▸ hn) hmembers hadd with ⟨-, rfl, -⟩ | ⟨-, hfree, rfl⟩
  · exact ⟨.refl h.ready h.known, halike, h.filled⟩
  · rw [howner] at hfree ⊢
    obtain ⟨hb, hprops⟩ := h.grow hfree howner
      fun x _ => (.rfl : x ∈ s.context.substitutions.sites ↔ _)
    have hnone {u : State} {m : Stop} (hm : Gives env u r stops m p) : False :=
      Bool.false_ne_true (hm.isWildcard.symm.trans hwildcard)
    refine ⟨hb, halike, fun m hm => (h.filled.held m hm).mono hb.extend, fun q hq => ?_,
      fun head => ?_, fun q hq m hm => ?_,
      fun m hm hfree => (h.filled.typed m hm hfree).imp fun _ hv => hv.mono hb.extend⟩
    · rcases List.mem_append.1 (hprops ▸ hq) with hq | hq
      · exact (h.filled.arises q hq).imp_right fun ⟨m, hm⟩ => ⟨m, hm.mono hb.extend⟩
      · rw [List.mem_singleton.1 hq]
        exact .inl ⟨hwildcard, hsubstitutes⟩
    · refine (h.filled.sites head).trans (and_congr_right fun _ => ⟨?_, ?_⟩)
      · rintro ⟨q, hq, m, hm, href⟩
        exact ⟨q, hprops ▸ List.mem_append_left _ hq, m, hm.mono hb.extend, href⟩
      · rintro ⟨q, hq, m, hm, href⟩
        rcases List.mem_append.1 (hprops ▸ hq) with hq | hq
        · exact ⟨q, hq, m, (h.filled.gives_iff (fun m hm => hm.mono hb.extend) hq).1 hm, href⟩
        · exact (hnone (List.mem_singleton.1 hq ▸ hm)).elim
    · rcases List.mem_append.1 (hprops ▸ hq) with hq | hq
      · exact (h.filled.placed q hq m
          ((h.filled.gives_iff (fun m hm => hm.mono hb.extend) hq).1 hm)).mono hb.extend
      · exact (hnone (List.mem_singleton.1 hq ▸ hm)).elim

end Gathering

/-- The parts of a list are walked one after the other. Before and after each part the same groups
are being expanded. -/
theorem gathers_foldlM {ι : Type} {f : Scope → ι → Build Scope} (active : List QName)
    (along : ι → List Stop → Prop) {alongAll : List ι → List Stop → Prop} {xs : List ι}
    (hnil : alongAll [] [])
    (hcons : ∀ x xs stops rest, along x stops → alongAll xs rest →
      alongAll (x :: xs) (stops ++ rest))
    (hpart : ∀ x ∈ xs, ∀ u scope₁ v scope₂ before, Gathering env u r scope₁ before →
      u.context.active = active → f scope₁ x u = .ok (scope₂, v) →
      ∃ stops, along x stops ∧ Gathers env u v r scope₂ (before ++ stops)) :
    ∀ {s scope t scope' before}, Gathering env s r scope before → s.context.active = active →
      xs.foldlM f scope s = .ok (scope', t) →
      ∃ stops, alongAll xs stops ∧ Gathers env s t r scope' (before ++ stops) := by
  induction xs with
  | nil =>
    intro s scope t scope' before hs _ h
    obtain ⟨rfl, rfl⟩ := pure_ok.1 h
    exact ⟨[], hnil, by simpa using hs.refl⟩
  | cons x xs ih =>
    intro s scope t scope' before hs ha h
    rw [List.foldlM_cons, bind_ok] at h
    obtain ⟨scope₁, u, hx, hxs⟩ := h
    obtain ⟨stops, halong, hgathers⟩ := hpart x List.mem_cons_self s scope u scope₁ before hs ha hx
    obtain ⟨rest, hrest, hgathers'⟩ := ih (fun y hy => hpart y (List.mem_cons_of_mem x hy))
      (hs.after hgathers) (hgathers.builds.active.trans ha) hxs
    exact ⟨stops ++ rest, hcons x xs stops rest halong hrest,
      by simpa using hgathers.trans hgathers'⟩

end XmlTypes.Build
