import XmlTypes.Proofs.TypeBuilds
/-!
# Building members

What is collected along a content model or an attribute list makes the stops of the walk along it,
in order. An interface is opened, filled from the walk along its group, and left alone after that.
-/

namespace XmlTypes.Build

open Schema

variable {env : Environment} {s t u : State} {r : Opening} {scope scope' : Scope}
  {before : List Stop}

/-! ## Wildcards -/

section
variable (hc : Gathering env s r scope before)
include hc

theorem anyElement_gathers {w : Wildcard} {occurs : Occurs}
    (h : anyElement scope w occurs s = .ok ((), t)) : Gathers env s t r scope before := by
  unfold anyElement at h
  simp only [bind_ok, pure_ok] at h
  obtain ⟨_, _, h, -, rfl⟩ := h
  exact hc.wildcard hc.alike.owner rfl rfl hc.alike h

theorem anyAttribute_gathers {w : Wildcard} (h : anyAttribute scope w s = .ok ((), t)) :
    Gathers env s t r scope before := by
  unfold anyAttribute at h
  rw [getGraph_bind] at h
  split at h
  · obtain ⟨-, rfl⟩ := pure_ok.1 h
    exact hc.refl
  · simp only [bind_ok, pure_ok] at h
    obtain ⟨_, _, h, -, rfl⟩ := h
    exact hc.wildcard hc.alike.owner rfl rfl hc.alike h

theorem anyAttributeOf_gathers {declared : Option Wildcard}
    (h : anyAttributeOf scope declared s = .ok ((), t)) : Gathers env s t r scope before := by
  unfold anyAttributeOf at h
  cases declared with
  | some w => exact anyAttribute_gathers hc h
  | none =>
    dsimp only at h
    split at h
    · exact anyAttribute_gathers hc h
    · obtain ⟨-, rfl⟩ := pure_ok.1 h
      exact hc.refl

end

/-! ## Elements and attributes -/

section
variable {c : Calls} (hcalls : c.Completes env) (hix : env.index.Lawful)
include hcalls hix

theorem elementType_builds {d : Declared ElementDecl} {isReference : Bool} {resolved : Resolved}
    (hs : Ready env s) (hd : Belongs env.index (.element d))
    (hg : isReference = true →
      ∃ g, d = .ofGlobal .elements g ∧ env.index.element? g.definition.name = some g)
    (h : elementType c env scope d isReference s = .ok (resolved, t)) (occurs : Occurs)
    (compositor : Compositor) :
    let m := Stop.element d isReference occurs compositor
    Builds env none none s t ∧ m.HasType env t resolved ∧ m.PlacedAs env t resolved.type := by
  intro m
  unfold elementType at h
  split at h
  · rename_i href
    obtain ⟨g, rfl, hfound⟩ := hg href
    exact globalElementType_builds hcalls hix hs hfound h isReference occurs compositor
  · cases hr : d.definition.typeRef with
    | none =>
      simp only [hr] at h
      obtain ⟨rfl, rfl⟩ := pure_ok.1 h
      exact ⟨.refl hs nofun, Stop.hasType_untyped env s (by simp [m, Stop.typeRef?, hr])⟩
    | some type =>
      simp only [hr] at h
      exact (typeRef_builds hcalls hix hs (.elementType hd hr) h).imp_right
        (Stop.hasType_of_typeRef? (by simp [m, Stop.typeRef?, hr]))

omit hcalls hix in
theorem mem_addSite {registry : Substitutions} {owner : NodeId} {head : QName} {x : Site} :
    x ∈ (registry.addSite owner head).sites ↔ x ∈ registry.sites ∨ x = ⟨owner, head⟩ := by
  unfold Substitutions.addSite
  split
  · rename_i hin
    exact ⟨.inl, fun h => h.elim id fun e => e ▸ List.contains_iff_mem.1 hin⟩
  · rw [List.mem_append, List.mem_singleton]

omit hcalls hix in
theorem addSite_eq (registry : Substitutions) (owner : NodeId) (head : QName) :
    registry.addSite owner head =
      { registry with sites := (registry.addSite owner head).sites } := by
  unfold Substitutions.addSite
  split <;> rfl

theorem element_gathers {d : Declared ElementDecl} {occurs : Occurs} {compositor : Compositor}
    {isReference : Bool} (hc : Gathering env s r scope before)
    (hd : Belongs env.index (.element d))
    (hg : isReference = true →
      ∃ g, d = .ofGlobal .elements g ∧ env.index.element? g.definition.name = some g)
    (h : element c env scope d occurs compositor isReference s = .ok (scope', t)) :
    Gathers env s t r scope' (before ++ [.element d isReference occurs compositor]) := by
  unfold element at h
  dsimp only at h
  split at h
  · rename_i hrestated
    obtain ⟨rfl, rfl⟩ := pure_ok.1 h
    refine hc.restated hc.alike ?_
    rw [← hc.alike.restated]
    exact List.contains_iff_mem.1 hrestated
  · rename_i hrestated
    have hnot : (d.definition.name, false) ∉ r.scope.restated := by
      rw [← hc.alike.restated]
      exact fun h => hrestated (List.contains_iff_mem.2 h)
    rw [bind_ok] at h
    obtain ⟨type, s₁, htype, h⟩ := h
    obtain ⟨hb, htype⟩ := elementType_builds hcalls hix hc.ready hd hg htype occurs compositor
    rw [bind_ok] at h
    obtain ⟨added, s₂, hadd, h⟩ := h
    rw [elementProperty_alike hc.alike] at hadd
    have halike (isOrdered : Bool) :
        (if isOrdered then { scope with nextOrder := scope.nextOrder + 1 } else scope).Alike
          r.scope := by
      cases isOrdered <;> exact ⟨hc.alike.1, hc.alike.2, hc.alike.3, hc.alike.4⟩
    have hc₁ := hc.build hb
    refine .build hc hb ?_
    have hsites : s₂.context = s₁.context := by
      rw [(addProperty_ok.1 hadd).2]
    split at h
    · rename_i hsite
      simp only [Bool.and_eq_true, Bool.not_eq_true', List.isEmpty_eq_false_iff] at hsite
      obtain ⟨⟨hadded, href⟩, hmembers⟩ := hsite
      simp only [bind_ok, modifyContext_ok, pure_ok] at h
      obtain ⟨-, _, rfl, rfl, rfl⟩ := h
      rw [addSite_eq]
      refine hc₁.add hnot htype (halike _) hadd fun x => ?_
      rw [mem_addSite, hsites]
      refine or_congr_right ⟨?_, ?_⟩
      · rintro rfl
        exact ⟨hadded, hc.alike.owner, ⟨d, occurs, compositor, href ▸ rfl, rfl⟩, hmembers⟩
      · rintro ⟨-, ho, ⟨_, _, _, ⟨⟩, hname⟩, -⟩
        rw [hc.alike.owner, ← ho, hname]
    · rename_i hsite
      obtain ⟨rfl, rfl⟩ := pure_ok.1 h
      change Gathers env s₁ (s₂.withSites s₂.context.substitutions.sites) r _ _
      refine hc₁.add hnot htype (halike _) hadd fun x => ?_
      rw [hsites]
      refine ⟨.inl, fun h => h.resolve_right ?_⟩
      rintro ⟨hadded, -, ⟨_, _, _, ⟨⟩, hname⟩, hmembers⟩
      refine hsite ?_
      rw [← hname] at hmembers
      simpa [hadded] using hmembers

theorem attributeType_builds {d : Declared AttributeDecl} {isReference : Bool}
    {resolved : Resolved} (hs : Ready env s) (hd : Belongs env.index (.attribute d))
    (hg : isReference = true →
      ∃ g, d = .ofGlobal .attributes g ∧ env.index.attribute? g.definition.name = some g)
    (h : attributeType c env scope d isReference s = .ok (resolved, t)) :
    let m := Stop.attribute d isReference
    Builds env none none s t ∧ m.HasType env t resolved ∧ m.PlacedAs env t resolved.type := by
  intro m
  unfold attributeType at h
  cases hr : d.definition.typeRef with
  | none =>
    simp only [hr] at h
    obtain ⟨rfl, rfl⟩ := pure_ok.1 h
    exact ⟨.refl hs nofun, Stop.hasType_untyped env s (by simp [m, Stop.typeRef?, hr])⟩
  | some type =>
    have htyped (hc : ComesTo env t (d.part .type type) resolved) :
        m.HasType env t resolved ∧ m.PlacedAs env t resolved.type :=
      Stop.hasType_of_typeRef? (by simp [m, Stop.typeRef?, hr]) hc
    simp only [hr] at h
    split at h
    · rename_i href
      obtain ⟨g, rfl, hfound⟩ := hg href
      exact (globalAttributeType_builds hcalls hix hs hfound hr h).imp_right htyped
    · exact (typeRef_builds hcalls hix hs (.attributeType hd hr) h).imp_right htyped

/-- An attribute is a stop unless it is prohibited. -/
theorem attributeMember_gathers {d : Declared AttributeDecl} {isReference : Bool}
    (hc : Gathering env s r scope before) (hd : Belongs env.index (.attribute d))
    (hg : isReference = true →
      ∃ g, d = .ofGlobal .attributes g ∧ env.index.attribute? g.definition.name = some g)
    (h : attributeMember c env scope d isReference s = .ok ((), t)) :
    (d.definition.use = .prohibited → Gathers env s t r scope before) ∧
    (d.definition.use ≠ .prohibited →
      Gathers env s t r scope (before ++ [.attribute d isReference])) := by
  unfold attributeMember at h
  split at h
  · rename_i hskip
    obtain ⟨-, rfl⟩ := pure_ok.1 h
    simp only [Bool.or_eq_true, decide_eq_true_eq] at hskip
    refine ⟨fun _ => hc.refl, fun huse => hc.restated hc.alike ?_⟩
    rw [← hc.alike.restated]
    exact List.contains_iff_mem.1 (hskip.resolve_left huse)
  · rename_i hskip
    simp only [Bool.or_eq_true, decide_eq_true_eq, not_or, List.contains_iff_mem] at hskip
    rw [hc.alike.restated] at hskip
    refine ⟨fun huse => absurd huse hskip.1, fun _ => ?_⟩
    rw [bind_ok] at h
    obtain ⟨type, s₁, htype, h⟩ := h
    obtain ⟨hb, htype⟩ := attributeType_builds hcalls hix hc.ready hd hg htype
    simp only [bind_ok, pure_ok] at h
    obtain ⟨added, s₂, hadd, -, rfl⟩ := h
    rw [attributeProperty_alike hc.alike] at hadd
    change addProperty ((Stop.attribute d isReference).property env r.scope type none) s₁ = _
      at hadd
    refine .build hc hb ?_
    change Gathers env s₁ (s₂.withSites s₂.context.substitutions.sites) r _ _
    refine (hc.build hb).add hskip.2 htype hc.alike hadd fun x => ?_
    rw [(addProperty_ok.1 hadd).2]
    refine ⟨.inl, fun h => h.resolve_right ?_⟩
    rintro ⟨-, -, ⟨_, _, _, ⟨⟩, -⟩, -⟩

/-! ## Interfaces -/

omit hcalls hix in
/-- Nothing is gathered yet when a new class or interface is opened. -/
theorem Gathering.start {source : Source} {n : Node} (hs : Ready env s)
    (hn : s.graph.node? scope.owner = some n) (hmembers : n.hasMembers = true)
    (hprops : s.graph.properties scope.owner = [])
    (hsites : ∀ head, ⟨scope.owner, head⟩ ∉ s.context.substitutions.sites) :
    Gathering env (s.noted scope source)
      ⟨scope, source, s.context.active, s.graph.inheritedProperties scope.owner⟩ scope [] :=
  ⟨hs.noted (Graph.lt_size_of_node? hn), ⟨n, hn, hmembers⟩, ⟨rfl, rfl, rfl, rfl⟩,
    .start hprops hsites⟩

omit hcalls hix in
/-- What is opened is complete when the walk along its definition has been made. -/
theorem Gathers.opened {source : Source} (h : Builds env none none s u)
    (hnew : s.graph.size ≤ scope.owner) (hno : ∀ r ∈ u.journal, r.scope.owner ≠ scope.owner)
    (htarget : scope.targetNamespace = source.targetNamespace)
    (hgathers : Gathers env (u.noted scope source) t
      ⟨scope, source, u.context.active, u.graph.inheritedProperties scope.owner⟩ scope' before)
    (halong : source.Along env.index u.context.active before) : Builds env none none s t :=
  h.opened hnew hno hgathers.builds ⟨htarget, before, halong, hgathers.filled⟩

omit hcalls hix in
/-- A new node has no properties, none of them waits for anything, and it is not opened yet. -/
theorem Adds.new {n : Node} (hs : Ready env s) (h : Adds n s t) (hblank : n.Blank) :
    t.graph.node? s.graph.size = some n ∧ t.graph.properties s.graph.size = [] ∧
      (∀ head, ⟨s.graph.size, head⟩ ∉ t.context.substitutions.sites) ∧
      ∀ r ∈ t.journal, r.scope.owner ≠ s.graph.size := by
  have hn : t.graph.node? s.graph.size = some n := by rw [Graph.node?_of_push h.nodes, if_pos rfl]
  refine ⟨hn, (Graph.properties_of_node? hn).trans hblank.properties, fun head hsite => ?_,
    fun r hr e => ?_⟩
  · exact Nat.lt_irrefl _ (hs.lt_size (h.context ▸ hsite))
  · exact Nat.lt_irrefl _ (e ▸ hs.owners r (h.journal ▸ hr))

omit hcalls hix in
/-- A new interface is remembered and opened at once. -/
theorem newInterface_builds {document : Document} {identity : QName} {candidate : String}
    {documentation : List String} {id : NodeId} (source : Source) (key : CacheKey)
    (hs : Ready env s)
    (h : newNode env document identity candidate (.interface {}) documentation s = .ok (id, t))
    (hu : u = { t with context := t.context.recordNamed key id })
    (hkey : key.kind = .group ∨ key.kind = .attributeGroup)
    (hscope : scope = { owner := id, ownerName := u.graph.nameOf id,
                        targetNamespace := document.targetNamespace }) :
    Builds env none none s u ∧ s.graph.size ≤ scope.owner ∧
      (∀ r ∈ u.journal, r.scope.owner ≠ scope.owner) ∧ Gathering env (u.noted scope source)
        ⟨scope, source, u.context.active, u.graph.inheritedProperties scope.owner⟩ scope [] := by
  obtain ⟨rfl, n, hm, ha⟩ := newNode_ok h
  have hblank : n.Blank := Node.blank_of_kind (by simp [hm.kind])
  obtain ⟨hn, hprops, hsites, hno⟩ := ha.new hs hblank
  have hadded := Builds.adds hs ha
  have hrecorded : Builds env none none t u := hu ▸ .recordNamed hadded.ready
    (fun hk => by rcases hkey with hkey | hkey <;> rw [hk] at hkey <;> cases hkey)
    (fun hk => by rcases hkey with hkey | hkey <;> rw [hk] at hkey <;> cases hkey)
  subst hu hscope
  exact ⟨hadded.trans hrecorded, Nat.le_refl _, hno,
    .start hrecorded.ready hn (by simp [Node.hasMembers, hm.kind]) hprops hsites⟩

omit hix in
theorem modelGroup_gathers {d : Declared ModelGroup} {occurs : Occurs}
    (hc : Gathering env s r scope before) (hd : Belongs env.index (.group d))
    (h : modelGroup c scope d occurs s = .ok (scope', t)) :
    ∃ stops, AlongGroup env.index s.context.active d occurs d.definition.particles.zipIdx stops ∧
      Gathers env s t r scope' (before ++ stops) := by
  unfold modelGroup at h
  refine gathers_foldlM s.context.active (fun x => AlongParticle env.index s.context.active
    (d.part (.particle x.2) x.1) (innerBounds d.definition.compositor occurs)
    d.definition.compositor) .nil (fun _ _ _ _ => .cons) ?_ hc rfl h
  rintro ⟨p, i⟩ hp u scope₁ v scope₂ before hu ha hrun
  have hp := List.mk_mem_zipIdx_iff_getElem?.1 hp
  rw [← ha]
  exact hcalls.particle hu (.particle hd hp) hrun

omit hix in
theorem groupInterface_builds {d : Declared GroupDef} {id : NodeId} (hs : Ready env s)
    (hd : Belongs env.index (.group (d.inPlace d.definition.group)))
    (h : groupInterface c env d s = .ok (id, t)) : Builds env none none s t := by
  unfold groupInterface at h
  rw [getContext_bind] at h
  cases hk : s.context.cache.get? ⟨.group, d.location, d.definition.name⟩ with
  | some found =>
    simp only [hk] at h
    obtain ⟨rfl, rfl⟩ := pure_ok.1 h
    exact .refl hs nofun
  | none =>
    simp only [hk, interfaceScope, bind_ok, modifyContext_ok, getGraph_ok, note_ok, pure_ok] at h
    obtain ⟨_, s₁, hnew, -, _, rfl, _, _, ⟨_, _, ⟨rfl, rfl⟩, rfl, rfl⟩, -, _, rfl, _, _, hgroup,
      rfl, rfl⟩ := h
    obtain ⟨hb, hsize, hno, hstart⟩ :=
      newInterface_builds (.group d) ⟨.group, d.location, d.definition.name⟩ hs hnew rfl (.inl rfl)
        rfl
    obtain ⟨u, hrun, rfl⟩ := expanding_ok hgroup
    obtain ⟨stops, halong, hgathers⟩ :=
      modelGroup_gathers hcalls (hstart.enter d.definition.name) hd hrun
    exact hgathers.expanding.opened hb hsize hno rfl halong

omit hix in
theorem attributeGroupInterface_builds {d : Declared AttributeGroupDef} {id : NodeId}
    (hs : Ready env s) (hd : Belongs env.index (.entries (d.inPlace d.definition.attributes)))
    (h : attributeGroupInterface c env d s = .ok (id, t)) : Builds env none none s t := by
  unfold attributeGroupInterface at h
  rw [getContext_bind] at h
  cases hk : s.context.cache.get? ⟨.attributeGroup, d.location, d.definition.name⟩ with
  | some found =>
    simp only [hk] at h
    obtain ⟨rfl, rfl⟩ := pure_ok.1 h
    exact .refl hs nofun
  | none =>
    simp only [hk, interfaceScope, bind_ok, modifyContext_ok, getGraph_ok, note_ok, pure_ok] at h
    obtain ⟨_, s₁, hnew, -, _, rfl, _, _, ⟨_, _, ⟨rfl, rfl⟩, rfl, rfl⟩, -, _, rfl, scope', _,
      hentries, _, _, hany, rfl, rfl⟩ := h
    obtain ⟨hb, hsize, hno, hstart⟩ :=
      newInterface_builds (.attributeGroup d) ⟨.attributeGroup, d.location, d.definition.name⟩ hs
        hnew rfl (.inr rfl) rfl
    obtain ⟨u, hrun, rfl⟩ := expanding_ok hentries
    obtain ⟨stops, halong, hgathers⟩ :=
      hcalls.attributes (hstart.enter d.definition.name) hd hrun
    have hany := anyAttributeOf_gathers (hstart.after hgathers.expanding) hany
    exact (hgathers.expanding.trans hany).opened hb hsize hno rfl halong

/-! ## Groups that are referred to -/

omit hcalls hix in
theorem implement_builds {owner : NodeId} {build : Build NodeId} (hs : Ready env s)
    (hbuild : ∀ id u, build s = .ok (id, u) → Builds env none none s u)
    (h : implement env owner build s = .ok ((), t)) : Builds env none none s t := by
  unfold implement at h
  split at h
  · simp only [bind_ok, modifyGraph_ok] at h
    obtain ⟨id, u, hb, rfl⟩ := h
    exact (hbuild id u hb).trans (.addImplementer (hbuild id u hb).ready id owner)
  · obtain ⟨-, rfl⟩ := pure_ok.1 h
    exact .refl hs nofun

omit hcalls hix in
/-- A group that is referred to gets its interface, and is expanded unless it is being expanded
already. -/
theorem referred_builds {name : QName} {build : Build NodeId} {expand : Build Scope}
    (hs : Ready env s) (hbuild : ∀ id u, build s = .ok (id, u) → Builds env none none s u)
    (h : (do
      implement env scope.owner build
      if (← getContext).isExpanding name then return scope
      expand : Build Scope) s = .ok (scope', t)) :
    ∃ u, Builds env none none s u ∧ (name ∈ s.context.active ∧ scope' = scope ∧ u = t ∨
      name ∉ s.context.active ∧ expand u = .ok (scope', t)) := by
  rw [bind_ok] at h
  obtain ⟨_, u, himplement, h⟩ := h
  have hb := implement_builds hs hbuild himplement
  rw [getContext_bind] at h
  refine ⟨u, hb, ?_⟩
  rw [← hb.active]
  split at h
  · rename_i hactive
    exact .inl ⟨List.contains_iff_mem.1 hactive, pure_ok.1 h⟩
  · rename_i hactive
    exact .inr ⟨fun hin => hactive (List.contains_iff_mem.2 hin), h⟩

omit hix in
theorem groupReference_gathers {name : QName} {document : Document} {occurs : Occurs}
    (hc : Gathering env s r scope before)
    (h : groupReference c env scope name document occurs s = .ok (scope', t)) :
    name ∈ s.context.active ∧ Gathers env s t r scope' before ∨
      ∃ g stops, name ∉ s.context.active ∧ env.index.group? name = some g ∧
        AlongGroup env.index (s.context.active ++ [name])
          ((Declared.ofGlobal .groups g).inPlace g.definition.group) occurs
          g.definition.group.particles.zipIdx stops ∧
        Gathers env s t r scope' (before ++ stops) := by
  unfold groupReference at h
  cases hg : env.index.group? name with
  | none =>
    simp only [hg] at h
    exact absurd h failUnresolved_ok
  | some g =>
    simp only [hg] at h
    have hd : Belongs env.index
        (.group ((Declared.ofGlobal .groups g).inPlace g.definition.group)) := .globalGroup hg
    obtain ⟨u, hb, ⟨hactive, rfl, rfl⟩ | ⟨hnot, hexpand⟩⟩ :=
      referred_builds hc.ready (fun id u h => groupInterface_builds hcalls hc.ready hd h) h
    · exact .inl ⟨hactive, .build hc hb (hc.build hb).refl⟩
    · obtain ⟨v, hrun, rfl⟩ := expanding_ok hexpand
      obtain ⟨stops, halong, hgathers⟩ :=
        modelGroup_gathers hcalls ((hc.build hb).enter name) hd hrun
      refine .inr ⟨g, stops, hnot, rfl, ?_, .build hc hb hgathers.expanding⟩
      rw [← hb.active]
      exact halong

omit hix in
theorem attributeGroupReference_gathers {name : QName} {document : Document}
    (hc : Gathering env s r scope before)
    (h : attributeGroupReference c env scope name document s = .ok (scope', t)) :
    name ∈ s.context.active ∧ Gathers env s t r scope' before ∨
      ∃ g stops, name ∉ s.context.active ∧ env.index.attributeGroup? name = some g ∧
        AlongEntries env.index (s.context.active ++ [name])
          ((Declared.ofGlobal .attributeGroups g).inPlace g.definition.attributes)
          g.definition.attributes.zipIdx stops ∧
        Gathers env s t r scope' (before ++ stops) := by
  unfold attributeGroupReference at h
  cases hg : env.index.attributeGroup? name with
  | none =>
    simp only [hg] at h
    exact absurd h failUnresolved_ok
  | some g =>
    simp only [hg] at h
    have hd : Belongs env.index
        (.entries ((Declared.ofGlobal .attributeGroups g).inPlace g.definition.attributes)) :=
      .globalAttributeGroup hg
    obtain ⟨u, hb, ⟨hactive, rfl, rfl⟩ | ⟨hnot, hexpand⟩⟩ :=
      referred_builds hc.ready (fun id u h => attributeGroupInterface_builds hcalls hc.ready hd h) h
    · exact .inl ⟨hactive, .build hc hb (hc.build hb).refl⟩
    · simp only [bind_ok, pure_ok] at hexpand
      obtain ⟨scope₁, _, hexpand, rfl, rfl⟩ := hexpand
      obtain ⟨v, hrun, rfl⟩ := expanding_ok hexpand
      obtain ⟨stops, halong, hgathers⟩ := hcalls.attributes ((hc.build hb).enter name) hd hrun
      refine .inr ⟨g, stops, hnot, rfl, ?_, .build hc hb ?_⟩
      · rw [← hb.active]
        exact halong
      · -- A wildcard of the group counts for the owner; the rest of the scope is the same.
        have hexpanded := hgathers.expanding
        refine ⟨hexpanded.builds, ?_, hexpanded.filled⟩
        split
        · exact ⟨hgathers.alike.1, hgathers.alike.2, hgathers.alike.3, hgathers.alike.4⟩
        · exact hgathers.alike

/-! ## Content models and attribute lists -/

theorem particle_gathers {d : Declared Particle} {outer : Occurs} {compositor : Compositor}
    (hc : Gathering env s r scope before) (hd : Belongs env.index (.particle d))
    (h : particle c env scope d outer compositor s = .ok (scope', t)) :
    ∃ stops, AlongParticle env.index s.context.active d outer compositor stops ∧
      Gathers env s t r scope' (before ++ stops) := by
  unfold particle at h
  cases hempty : (d.definition.occurs.within outer).isEmpty with
  | true =>
    simp only [hempty, if_true] at h
    obtain ⟨rfl, rfl⟩ := pure_ok.1 h
    exact ⟨[], .never hempty, by simpa using hc.refl⟩
  | false =>
    simp only [hempty, Bool.false_eq_true, if_false] at h
    cases hterm : d.definition.term with
    | element e =>
      simp only [hterm] at h
      exact ⟨_, .inPlace hempty hterm,
        element_gathers hcalls hix hc (.localElement hd hterm) (by simp) h⟩
    | elementRef name =>
      simp only [hterm] at h
      cases hg : env.index.element? name with
      | none =>
        simp only [hg] at h
        exact absurd h failUnresolved_ok
      | some g =>
        simp only [hg] at h
        have hname : g.definition.name = name := hix.elements name g hg
        exact ⟨_, .reference hempty hterm hg, element_gathers hcalls hix hc (.globalElement hg)
          (fun _ => ⟨g, rfl, hname.symm ▸ hg⟩) h⟩
    | any w =>
      simp only [hterm, bind_ok, pure_ok] at h
      obtain ⟨_, u, hany, rfl, rfl⟩ := h
      exact ⟨[], .wildcard hempty hterm, by simpa using anyElement_gathers hc hany⟩
    | groupRef name =>
      simp only [hterm] at h
      rcases groupReference_gathers hcalls hc h with
        ⟨hactive, hgathers⟩ | ⟨g, stops, hnot, hg, halong, hgathers⟩
      · exact ⟨[], .recursion hempty hterm hactive, by simpa using hgathers⟩
      · exact ⟨stops, .groupReference hempty hterm hnot hg halong, hgathers⟩
    | group g =>
      simp only [hterm] at h
      obtain ⟨stops, halong, hgathers⟩ :=
        modelGroup_gathers hcalls hc (.localGroup hd hterm) h
      exact ⟨stops, .group hempty hterm halong, hgathers⟩

theorem attributeItem_gathers {d : Declared AttributeItem}
    (hc : Gathering env s r scope before) (hd : Belongs env.index (.entry d))
    (h : attributeItem c env scope d s = .ok (scope', t)) :
    ∃ stops, AlongEntry env.index s.context.active d stops ∧
      Gathers env s t r scope' (before ++ stops) := by
  unfold attributeItem at h
  cases hitem : d.definition with
  | «attribute» a =>
    simp only [hitem, bind_ok, pure_ok] at h
    obtain ⟨_, u, h, rfl, rfl⟩ := h
    obtain ⟨hskip, hstop⟩ :=
      attributeMember_gathers hcalls hix hc (.localAttribute hd hitem) (by simp) h
    by_cases huse : a.use = .prohibited
    · exact ⟨[], .prohibited hitem huse, by simpa using hskip huse⟩
    · exact ⟨_, .inPlace hitem huse, hstop huse⟩
  | ref name =>
    simp only [hitem] at h
    cases hg : env.index.attribute? name with
    | none =>
      simp only [hg] at h
      exact absurd h failUnresolved_ok
    | some g =>
      simp only [hg, bind_ok, pure_ok] at h
      obtain ⟨_, u, h, rfl, rfl⟩ := h
      have hname : g.definition.name = name := hix.attributes name g hg
      obtain ⟨hskip, hstop⟩ := attributeMember_gathers hcalls hix hc (.globalAttribute hg)
        (fun _ => ⟨g, rfl, hname.symm ▸ hg⟩) h
      by_cases huse : g.definition.use = .prohibited
      · exact ⟨[], .prohibitedReference hitem hg huse, by simpa using hskip huse⟩
      · exact ⟨_, .reference hitem hg huse, hstop huse⟩
  | group name =>
    simp only [hitem] at h
    rcases attributeGroupReference_gathers hcalls hc h with
      ⟨hactive, hgathers⟩ | ⟨g, stops, hnot, hg, halong, hgathers⟩
    · exact ⟨[], .recursion hitem hactive, by simpa using hgathers⟩
    · exact ⟨stops, .groupReference hitem hnot hg halong, hgathers⟩

theorem attributes_gathers {d : Declared (List AttributeItem)}
    (hc : Gathering env s r scope before) (hd : Belongs env.index (.entries d))
    (h : attributes c env scope d s = .ok (scope', t)) :
    ∃ stops, AlongEntries env.index s.context.active d d.definition.zipIdx stops ∧
      Gathers env s t r scope' (before ++ stops) := by
  unfold attributes at h
  refine gathers_foldlM s.context.active (fun x => AlongEntry env.index s.context.active
    (d.part (.attribute x.2) x.1)) .nil (fun _ _ _ _ => .cons) ?_ hc rfl h
  rintro ⟨item, i⟩ hi u scope₁ v scope₂ before hu ha hrun
  have hi := List.mk_mem_zipIdx_iff_getElem?.1 hi
  rw [← ha]
  exact attributeItem_gathers hcalls hix hu (.entry hd hi) hrun

end

end XmlTypes.Build
