import XmlTypes.Proofs.TypeRuns
/-!
# What collecting members builds

A member that is met becomes a property of the owner unless the owner has its name already, from
itself or from a base class; so in the end the owner holds every member that the walk meets
(`Collects`). The walk passes over the groups that are being expanded, and these are the same
before and after each part of it.
-/

namespace XmlTypes.Build

open Schema

variable {env : Environment} {s t u : State} {r : Opening} {scope scope' : Scope}

/-! ## Properties -/

theorem elementProperty_alike (h : scope.Alike scope') (e : ElementDecl) (type : Resolved)
    (occurs : Occurs) (isReference : Bool) (order : Option Nat) :
    elementProperty env scope e type occurs isReference order =
      elementProperty env scope' e type occurs isReference order := by
  simp only [elementProperty, Scope.explicitNamespace, h.owner, h.ownerName, h.targetNamespace]

theorem attributeProperty_alike (h : scope.Alike scope') (a : AttributeDecl) (type : Resolved)
    (isReference : Bool) :
    attributeProperty env scope a type isReference =
      attributeProperty env scope' a type isReference := by
  simp only [attributeProperty, Scope.explicitNamespace, h.owner, h.ownerName, h.targetNamespace]

theorem Arises.owner {right : Option TypeRef → ValueType → Prop} {p : Property}
    (h : Arises env right r p) : p.owner = r.scope.owner := by
  cases h with
  | ofElement => rfl
  | ofAttribute => rfl
  | wildcard ho => exact ho

/-- The owner has a property of the name, be it this one or another. -/
theorem addProperty_held (hs : Sound env s) (hr : r ∈ s.journal) {p : Property} {added : Bool}
    (hp : Arises env (Written env s) r p) (hv : s.graph.IsValue p.type)
    (hw : p.isWildcard = true → IsForWildcard p ∧ r.HasAny env.index p.isAttribute)
    (h : addProperty p s = .ok (added, t)) :
    Evolves env none s t ∧ ∃ q ∈ t.graph.flattenedProperties r.scope.owner, q.name = p.name := by
  obtain ⟨rfl, rfl⟩ := addProperty_ok.1 h
  refine ⟨.change (.property hr hp hv hw) rfl, ?_⟩
  rw [← hp.owner]
  exact Graph.addProperty_named (hp.owner.symm ▸ hs.owners r hr)

namespace Collecting

variable (h : Collecting env s r scope)
include h

theorem evolves {head : Option NodeId} (he : Evolves env head s t) (ha : scope'.Alike r.scope) :
    Collecting env t r scope' :=
  ⟨he.sound h.sound, he.extend.journal h.opened, ha⟩

theorem enter (name : QName) :
    Collecting env { s with context := s.context.enter name } r scope :=
  ⟨(Moves.enter name).sound h.sound, h.opened, h.alike⟩

end Collecting

/-! ## Wildcards -/

theorem anyElement_ok {w : Wildcard} {occurs : Occurs} (hc : Collecting env s r scope)
    (hany : r.HasAny env.index false) (h : anyElement scope w occurs s = .ok ((), t)) :
    Evolves env none s t ∧ HoldsAny t r.scope.owner false := by
  unfold anyElement at h
  simp only [bind_ok, pure_ok] at h
  obtain ⟨_, _, h, -, rfl⟩ := h
  obtain ⟨he, p, hp, hname⟩ := addProperty_held hc.sound hc.opened
    (.wildcard hc.alike.owner rfl rfl rfl) (Graph.isValue_primitive _)
    (fun _ => ⟨⟨rfl, rfl⟩, hany⟩) h
  exact ⟨he, p, hp, .inl hname⟩

/-- The attribute wildcard of a base class serves as well. -/
theorem anyAttribute_ok {w : Wildcard} (hc : Collecting env s r scope)
    (hany : r.HasAny env.index true) (h : anyAttribute scope w s = .ok ((), t)) :
    Evolves env none s t ∧ HoldsAny t r.scope.owner true := by
  unfold anyAttribute at h
  rw [getGraph_bind] at h
  split at h
  · rename_i hinherited
    obtain ⟨-, rfl⟩ := pure_ok.1 h
    obtain ⟨a, ha, hp⟩ := List.any_eq_true.1 hinherited
    obtain ⟨p, hp, hwildcard⟩ := List.any_eq_true.1 hp
    rw [hc.alike.owner] at ha
    exact ⟨.refl, p, List.mem_flatMap.2 ⟨a, List.mem_cons_of_mem _ ha, hp⟩,
      .inr (Bool.and_eq_true_iff.1 hwildcard)⟩
  · simp only [bind_ok, pure_ok] at h
    obtain ⟨_, _, h, -, rfl⟩ := h
    obtain ⟨he, p, hp, hname⟩ := addProperty_held hc.sound hc.opened
      (.wildcard hc.alike.owner rfl rfl rfl) (Graph.isValue_primitive _)
      (fun _ => ⟨⟨rfl, rfl⟩, hany⟩) h
    exact ⟨he, p, hp, .inl hname⟩

theorem anyAttributeOf_ok {declared : Option Wildcard} (hc : Collecting env s r scope)
    (hany : r.HasAny env.index true ↔ declared.isSome = true ∨ scope.anyAttribute = true)
    (h : anyAttributeOf scope declared s = .ok ((), t)) :
    Evolves env none s t ∧ (r.HasAny env.index true → HoldsAny t r.scope.owner true) := by
  unfold anyAttributeOf at h
  cases declared with
  | some w => exact (anyAttribute_ok hc (hany.2 (.inl rfl)) h).imp_right fun hheld _ => hheld
  | none =>
    dsimp only at h
    split at h
    · rename_i hkept
      exact (anyAttribute_ok hc (hany.2 (.inr hkept)) h).imp_right fun hheld _ => hheld
    · rename_i hnone
      obtain ⟨-, rfl⟩ := pure_ok.1 h
      exact ⟨.refl, fun hsome => absurd ((hany.1 hsome).resolve_left nofun) hnone⟩

/-! ## Elements and attributes -/

section
variable {c : Calls} (hcalls : c.Sound env) (hix : env.index.Lawful)
include hcalls hix

theorem elementType_ok {d : Declared ElementDecl} {isReference : Bool} {resolved : Resolved}
    (hs : Sound env s) (hd : Belongs env.index (.element d))
    (hg : isReference = true →
      ∃ g, d = .ofGlobal .elements g ∧ env.index.element? d.definition.name = some g)
    (hasked : ∀ type, d.definition.typeRef = some type →
      Asked env.index s.journal (d.part .type type))
    (h : elementType c env scope d isReference s = .ok (resolved, t)) :
    Evolves env none s t ∧ Written env t d.definition.typeRef resolved.type ∧
      t.graph.IsValue resolved.type := by
  unfold elementType at h
  split at h
  · rename_i href
    obtain ⟨g, hd, hg⟩ := hg href
    exact globalElementType_ok hcalls hix hs hd hg h
  · cases hr : d.definition.typeRef with
    | none =>
      simp only [hr] at h
      obtain ⟨rfl, rfl⟩ := pure_ok.1 h
      exact ⟨.refl, nofun, nofun⟩
    | some type =>
      simp only [hr] at h
      obtain ⟨he, hw, hv, -⟩ := typeRef_ok hcalls hix hs (.elementType hd hr) (hasked type hr) h
      exact ⟨he, hw, hv⟩

/-- An element is held in the end, or a restriction restates it. -/
theorem element_ok {d : Declared ElementDecl} {occurs : Occurs} {compositor : Compositor}
    {isReference : Bool} (hc : Collecting env s r scope) (hd : Belongs env.index (.element d))
    (hg : isReference = true →
      ∃ g, d = .ofGlobal .elements g ∧ env.index.element? d.definition.name = some g)
    (hm : r.Has env.index (.element d isReference))
    (h : element c env scope d occurs compositor isReference s = .ok (scope', t)) :
    Collects env s t r scope scope' (· = .element d isReference) False False := by
  unfold element at h
  dsimp only at h
  split at h
  · rename_i hrestated
    obtain ⟨rfl, rfl⟩ := pure_ok.1 h
    refine ⟨.refl, hc.alike, fun m hm => .inl ?_, False.elim, by simp⟩
    rw [hm, ← hc.alike.restated]
    exact List.contains_iff_mem.1 hrestated
  · rename_i hrestated
    have hnot : (d.definition.name, false) ∉ r.scope.restated := by
      rw [← hc.alike.restated]
      exact fun h => hrestated (List.contains_iff_mem.2 h)
    rw [bind_ok] at h
    obtain ⟨type, s₁, htype, h⟩ := h
    have hasked (type : TypeRef) (hr : d.definition.typeRef = some type) :
        Asked env.index s.journal (d.part .type type) :=
      .opening hc.opened (.member hm hnot (by rw [Member.typeRef?, hr]; rfl))
    obtain ⟨he₁, hw, hv⟩ := elementType_ok hcalls hix hc.sound hd hg hasked htype
    have hc₁ := hc.evolves he₁ hc.alike
    rw [bind_ok] at h
    obtain ⟨added, s₂, hadd, h⟩ := h
    rw [elementProperty_alike hc.alike] at hadd
    obtain ⟨he₂, hheld⟩ :=
      addProperty_held hc₁.sound hc₁.opened (.ofElement hm hnot hw) hv nofun hadd
    -- What is left adds a site at most, and counts.
    have hrest : Evolves env none s₂ t ∧ scope'.Alike r.scope ∧
        scope'.anyAttribute = scope.anyAttribute := by
      have halike : ∀ isOrdered : Bool,
          (if isOrdered then { scope with nextOrder := scope.nextOrder + 1 } else scope).Alike
              r.scope ∧
            (if isOrdered then { scope with nextOrder := scope.nextOrder + 1 }
              else scope).anyAttribute = scope.anyAttribute := by
        intro isOrdered
        cases isOrdered <;> exact ⟨⟨hc.alike.1, hc.alike.2, hc.alike.3, hc.alike.4⟩, rfl⟩
      split at h
      · simp only [bind_ok, modifyContext_ok, pure_ok] at h
        obtain ⟨-, _, rfl, rfl, rfl⟩ := h
        exact ⟨.change (.aside rfl rfl rfl (Substitutions.members_addSite _ _ _) rfl) rfl, halike _⟩
      · obtain ⟨rfl, rfl⟩ := pure_ok.1 h
        exact ⟨.refl, halike _⟩
    refine ⟨.trans he₁ (.trans he₂ hrest.1), hrest.2.1, ?_, False.elim, by simp [hrest.2.2]⟩
    rintro _ rfl
    exact Held.mono (.inr hheld) hrest.1.extend

theorem attributeType_ok {d : Declared AttributeDecl} {isReference : Bool} {resolved : Resolved}
    (hs : Sound env s) (hd : Belongs env.index (.attribute d))
    (hg : isReference = true →
      ∃ g, d = .ofGlobal .attributes g ∧ env.index.attribute? d.definition.name = some g)
    (hasked : ∀ type, d.definition.typeRef = some type →
      Asked env.index s.journal (d.part .type type))
    (h : attributeType c env scope d isReference s = .ok (resolved, t)) :
    Evolves env none s t ∧ Written env t d.definition.typeRef resolved.type ∧
      t.graph.IsValue resolved.type := by
  unfold attributeType at h
  cases hr : d.definition.typeRef with
  | none =>
    simp only [hr] at h
    obtain ⟨rfl, rfl⟩ := pure_ok.1 h
    exact ⟨.refl, nofun, nofun⟩
  | some type =>
    simp only [hr] at h
    split at h
    · rename_i href
      obtain ⟨g, hd, hg⟩ := hg href
      exact globalAttributeType_ok hcalls hix hs hd hg hr (hasked type hr) h
    · obtain ⟨he, hw, hv, -⟩ := typeRef_ok hcalls hix hs (.attributeType hd hr) (hasked type hr) h
      exact ⟨he, hw, hv⟩

/-- An attribute is held in the end, unless it is prohibited. -/
theorem attributeMember_ok {d : Declared AttributeDecl} {isReference : Bool}
    (hc : Collecting env s r scope) (hd : Belongs env.index (.attribute d))
    (hg : isReference = true →
      ∃ g, d = .ofGlobal .attributes g ∧ env.index.attribute? d.definition.name = some g)
    (hm : d.definition.use ≠ .prohibited → r.Has env.index (.attribute d isReference))
    (h : attributeMember c env scope d isReference s = .ok ((), t)) :
    Evolves env none s t ∧ (d.definition.use ≠ .prohibited →
      Held env t r.scope (.attribute d isReference)) := by
  unfold attributeMember at h
  split at h
  · rename_i hskip
    obtain ⟨-, rfl⟩ := pure_ok.1 h
    simp only [Bool.or_eq_true, decide_eq_true_eq] at hskip
    refine ⟨.refl, fun huse => .inl ?_⟩
    rw [← hc.alike.restated]
    exact List.contains_iff_mem.1 (hskip.resolve_left huse)
  · rename_i hskip
    simp only [Bool.or_eq_true, decide_eq_true_eq, not_or, List.contains_iff_mem] at hskip
    rw [hc.alike.restated] at hskip
    rw [bind_ok] at h
    obtain ⟨type, s₁, htype, h⟩ := h
    have hasked (type : TypeRef) (hr : d.definition.typeRef = some type) :
        Asked env.index s.journal (d.part .type type) :=
      .opening hc.opened (.member (hm hskip.1) hskip.2 (by rw [Member.typeRef?, hr]; rfl))
    obtain ⟨he₁, hw, hv⟩ := attributeType_ok hcalls hix hc.sound hd hg hasked htype
    have hc₁ := hc.evolves he₁ hc.alike
    simp only [bind_ok, pure_ok] at h
    obtain ⟨added, s₂, hadd, -, rfl⟩ := h
    rw [attributeProperty_alike hc.alike] at hadd
    obtain ⟨he₂, hheld⟩ :=
      addProperty_held hc₁.sound hc₁.opened (.ofAttribute (hm hskip.1) hskip.2 hw) hv nofun hadd
    exact ⟨.trans he₁ he₂, fun _ => .inr hheld⟩

/-! ## Groups -/

omit hcalls hix in
/-- One part after the other. -/
theorem Collects.andThen {scope₁ : Scope} {M M' : Member → Prop} {E E' A A' : Prop}
    (h : Collects env s u r scope scope₁ M E A) (h' : Collects env u t r scope₁ scope' M' E' A') :
    Collects env s t r scope scope' (fun m => M m ∨ M' m) (E ∨ E') (A ∨ A') where
  evolves := .trans h.evolves h'.evolves
  alike := h'.alike
  held m hm := hm.elim (fun hm => (h.held m hm).mono h'.evolves.extend) (h'.held m)
  anyElement hany := hany.elim (fun hany => (h.anyElement hany).mono h'.evolves.extend)
    h'.anyElement
  anyAttribute := by rw [h'.anyAttribute, h.anyAttribute, or_assoc]

omit hcalls hix in
/-- The members of a list are collected part by part. Before and after each part the same groups
are being expanded. -/
theorem Collects.foldlM {ι : Type} {f : Scope → ι → Build Scope} {xs : List ι}
    {M : ι → Member → Prop} {E A : ι → Prop} (hc : Collecting env s r scope)
    (hpart : ∀ x ∈ xs, ∀ u scope₁ v scope₂, Collecting env u r scope₁ →
      u.context.active = s.context.active → f scope₁ x u = .ok (scope₂, v) →
        Collects env u v r scope₁ scope₂ (M x) (E x) (A x))
    (h : xs.foldlM f scope s = .ok (scope', t)) :
    Collects env s t r scope scope' (fun m => ∃ x ∈ xs, M x m) (∃ x ∈ xs, E x)
      (∃ x ∈ xs, A x) := by
  induction xs generalizing s scope with
  | nil =>
    obtain ⟨rfl, rfl⟩ := pure_ok.1 h
    refine ⟨.refl, hc.alike, ?_, ?_, by simp⟩
    · rintro _ ⟨_, hx, _⟩
      cases hx
    · rintro ⟨_, hx, _⟩
      cases hx
  | cons x xs ih =>
    rw [List.foldlM_cons, bind_ok] at h
    obtain ⟨scope₁, u, hx, h⟩ := h
    have hx := hpart x List.mem_cons_self s scope u scope₁ hc rfl hx
    have hxs := ih (hc.evolves hx.evolves hx.alike) (fun y hy v scope₂ w scope₃ hv ha =>
      hpart y (List.mem_cons_of_mem x hy) v scope₂ w scope₃ hv (ha.trans hx.evolves.active)) h
    have hsplit {P : ι → Prop} : (∃ y ∈ x :: xs, P y) ↔ P x ∨ ∃ y ∈ xs, P y := by simp
    exact (hx.andThen hxs).imp (fun _ => hsplit.1) hsplit.1 hsplit

omit hix in
theorem modelGroup_ok {d : Declared ModelGroup} {occurs : Occurs}
    (hc : Collecting env s r scope) (hd : Belongs env.index (.group d))
    (hm : ∀ m, InGroup env.index s.context.active d occurs m → r.Has env.index m)
    (hany : AnyInGroup env.index s.context.active d occurs → r.HasAny env.index false)
    (h : modelGroup c scope d occurs s = .ok (scope', t)) :
    Collects env s t r scope scope' (InGroup env.index s.context.active d occurs)
      (AnyInGroup env.index s.context.active d occurs) False := by
  unfold modelGroup at h
  refine Collects.imp (.foldlM (M := fun x => InParticle env.index s.context.active
    (d.part (.particle x.2) x.1) (innerBounds d.definition.compositor occurs))
    (E := fun x => AnyInParticle env.index s.context.active
    (d.part (.particle x.2) x.1) (innerBounds d.definition.compositor occurs))
    (A := fun _ => False) hc ?_ h) ?_ ?_ (by simp)
  · rintro ⟨p, i⟩ hp u scope₁ v scope₂ hu ha hrun
    have hp := List.mk_mem_zipIdx_iff_getElem?.1 hp
    rw [← ha] at hm hany ⊢
    exact hcalls.particle hu (.particle hd hp) (fun m hin => hm m (.particle hp hin))
      (fun hin => hany (.particle hp hin)) hrun
  · rintro m ⟨hp, hm⟩
    exact ⟨_, List.mk_mem_zipIdx_iff_getElem?.2 hp, hm⟩
  · rintro ⟨hp, hany⟩
    exact ⟨_, List.mk_mem_zipIdx_iff_getElem?.2 hp, hany⟩

omit hcalls hix in
theorem expanding_ok {α : Type} {name : QName} {collect : Build α} {a : α}
    (h : expanding name collect s = .ok (a, t)) :
    ∃ u, collect { s with context := s.context.enter name } = .ok (a, u) ∧
      t = { u with context := u.context.leave } := by
  unfold expanding at h
  simp only [bind_ok, modifyContext_ok, pure_ok] at h
  obtain ⟨-, _, rfl, _, u, h, -, _, rfl, rfl, rfl⟩ := h
  exact ⟨u, h, rfl⟩

omit hcalls hix in
/-- What is collected while a group is being expanded is held afterwards too. -/
theorem Collects.expanding {name : QName} {members : Member → Prop} {elements attributes : Prop}
    (h : Collects env { s with context := s.context.enter name } u r scope scope' members elements
      attributes) :
    Collects env s { u with context := u.context.leave } r scope scope' members elements
      attributes :=
  ⟨.expanding name h.evolves, h.alike, h.held, h.anyElement, h.anyAttribute⟩

omit hcalls hix in
/-- The opening that is written down last is the one whose members are to be collected. -/
theorem Opens.collecting {n : Node} {source : Source} (h : Opens env s n scope source)
    (hs : Sound env s) :
    Collecting env (s.noted scope source)
      ⟨scope, source, s.context.active, s.graph.inheritedProperties scope.owner⟩ scope :=
  ⟨(Moves.opening h).sound hs, List.mem_cons_self, ⟨rfl, rfl, rfl, rfl⟩⟩

omit hcalls hix in
/-- A new interface is opened at once. -/
theorem newInterface_ok {document : Document} {candidate : String} {documentation : List String}
    {key : CacheKey} {id : NodeId} (source : Source) (hs : Sound env s)
    (hk : s.context.cache.get? key = none) (hkey : key.IsOfGroup env)
    (hsource : ∀ d, source ≠ .type d) (hmisnamed : key.name.isEmpty = true → Misnamed env.index)
    (h : newNode env document key.name candidate (.interface {}) documentation s = .ok (id, t))
    (hu : u = { t with context := t.context.recordNamed key id })
    (hscope : scope = { owner := id, ownerName := u.graph.nameOf id,
                        targetNamespace := document.targetNamespace }) :
    id = s.graph.size ∧ ∃ n, n.isInterface = true ∧ Creation env s u n (some key) none ∧
      Opens env u n scope source := by
  obtain ⟨rfl, n, hm, ha⟩ := newNode_ok h
  have hn : n.isInterface = true := by simp [Node.isInterface, Node.interface?, hm.kind]
  have hnamed : FreshlyNamed env s n (some key) none := by
    refine hm.named (fun _ c hc => ?_) (by rintro _ ⟨⟩) (fun l q hq => ?_)
      fun hempty => .inr (hmisnamed hempty)
    · simp [Node.candidate?, hm.kind] at hc
    · cases hq
      rcases hkey.kind with hkind | hkind <;> cases hkind
  have hcreate : Creation env s u n (some key) none := hu ▸
    ha.creation (some key) none (Node.blank_of_kind (by simp [hm.kind]))
      (.group hn hm.identity hkey) hnamed (by rintro _ ⟨⟩; exact hk) (by simp)
  have hnode : u.graph.node? scope.owner = some n := by
    rw [hcreate.node?, hscope]
    exact if_pos rfl
  refine ⟨rfl, n, hn, hcreate, hnode, ?_, ?_, ?_, fun r hr e => ?_,
    fun d hd => absurd hd (hsource d), fun hclass => ?_, fun d hd => absurd hd (hsource d),
    fun d hd => absurd hd (hsource d)⟩
  · rw [hscope] at hnode ⊢
    exact Graph.nameOf_of_node? hnode
  · rw [Node.hasMembers_eq, hn, Bool.or_true]
  · cases source with
    | type d => exact absurd rfl (hsource d)
    | _ => rw [hscope]; rfl
  · obtain ⟨m, hm, -⟩ := hs.owners r (hcreate.journal ▸ hr)
    rw [e, hscope] at hm
    exact Nat.lt_irrefl _ (Graph.lt_size_of_node? hm)
  · rw [Node.isClass_false_of_isInterface hn] at hclass
    cases hclass

omit hcalls hix in
/-- An interface whose members are collected is finished. -/
theorem Collects.interface {n : Node} {key : CacheKey} {source : Source}
    (hcreate : Creation env s u n (some key) none) (hkey : ¬ key.IsOfType)
    (hopens : Opens env u n scope source)
    {elements attributes : Prop} (howner : scope.owner = s.graph.size)
    (hsource : ∀ d, source ≠ .type d)
    (h : Collects env (u.noted scope source) t
      ⟨scope, source, u.context.active, u.graph.inheritedProperties scope.owner⟩ scope scope'
      (source.Has env.index u.context.active · ) elements attributes)
    (hany : ∀ isAttribute, source.HasAny env.index u.context.active isAttribute →
      HoldsAny t scope.owner isAttribute) : Evolves env none s t :=
  .collect hcreate ⟨by rintro _ ⟨⟩ hk; exact absurd hk hkey, by simp⟩ howner .rfl hopens
    (.nested h.evolves)
    ⟨h.held, hany, fun d _ hd => absurd hd (hsource d),
      fun d hd => absurd hd (hsource d), fun d _ hd => absurd hd (hsource d)⟩

omit hcalls hix in
/-- A node that is an interface when it is created stays one. -/
theorem Creation.interface {n : Node} {key : Option CacheKey} {place : Option Place}
    (hcreate : Creation env s u n key place) (hn : n.isInterface = true) (he : Extends u t) :
    ∃ m, t.graph.node? s.graph.size = some m ∧ m.isInterface = true := by
  obtain ⟨m, hm, hgrows⟩ := he.graph.nodes s.graph.size n (by rw [hcreate.node?, if_pos rfl])
  exact ⟨m, hm, by rwa [Node.isInterface_congr hgrows.label]⟩

omit hix in
theorem groupInterface_ok {d : Declared GroupDef} {id : NodeId} (hs : Sound env s)
    (hd : Belongs env.index (.group (d.inPlace d.definition.group)))
    (hkey : CacheKey.IsOfGroup env ⟨.group, d.location, d.definition.name⟩)
    (hmisnamed : d.definition.name.isEmpty = true → Misnamed env.index)
    (h : groupInterface c env d s = .ok (id, t)) :
    Evolves env none s t ∧ ∃ n, t.graph.node? id = some n ∧ n.isInterface = true := by
  unfold groupInterface at h
  rw [getContext_bind] at h
  cases hk : s.context.cache.get? ⟨.group, d.location, d.definition.name⟩ with
  | some found =>
    simp only [hk] at h
    obtain ⟨rfl, rfl⟩ := pure_ok.1 h
    exact ⟨.refl, hs.interfaces _ _ (.inl rfl) hk⟩
  | none =>
    simp only [hk, interfaceScope, bind_ok, modifyContext_ok, getGraph_ok, note_ok, pure_ok] at h
    obtain ⟨_, s₁, hnew, -, _, rfl, _, _, ⟨_, _, ⟨rfl, rfl⟩, rfl, rfl⟩, -, _, rfl, _, _, hgroup,
      rfl, rfl⟩ := h
    obtain ⟨rfl, n, hinterface, hcreate, hopens⟩ :=
      newInterface_ok (.group d) hs hk hkey nofun hmisnamed hnew rfl rfl
    obtain ⟨u, hrun, rfl⟩ := expanding_ok hgroup
    have hc := (hopens.collecting (hcreate.sound hs)).enter d.definition.name
    have hcollect := (modelGroup_ok hcalls hc hd (fun m hm => hm) id hrun).expanding
    have hany : ∀ isAttribute, (Source.group d).HasAny _ _ isAttribute → HoldsAny _ _ isAttribute
      | false => hcollect.anyElement
      | true => False.elim
    exact ⟨hcollect.interface hcreate (by simp [CacheKey.IsOfType]) hopens rfl nofun hany,
      hcreate.interface hinterface ((Moves.opening hopens).extend.trans hcollect.evolves.extend)⟩

omit hix in
theorem attributeGroupInterface_ok {d : Declared AttributeGroupDef} {id : NodeId} (hs : Sound env s)
    (hd : Belongs env.index (.entries (d.inPlace d.definition.attributes)))
    (hkey : CacheKey.IsOfGroup env ⟨.attributeGroup, d.location, d.definition.name⟩)
    (hmisnamed : d.definition.name.isEmpty = true → Misnamed env.index)
    (h : attributeGroupInterface c env d s = .ok (id, t)) :
    Evolves env none s t ∧ ∃ n, t.graph.node? id = some n ∧ n.isInterface = true := by
  unfold attributeGroupInterface at h
  rw [getContext_bind] at h
  cases hk : s.context.cache.get? ⟨.attributeGroup, d.location, d.definition.name⟩ with
  | some found =>
    simp only [hk] at h
    obtain ⟨rfl, rfl⟩ := pure_ok.1 h
    exact ⟨.refl, hs.interfaces _ _ (.inr rfl) hk⟩
  | none =>
    simp only [hk, interfaceScope, bind_ok, modifyContext_ok, getGraph_ok, note_ok, pure_ok] at h
    obtain ⟨_, s₁, hnew, -, _, rfl, _, _, ⟨_, _, ⟨rfl, rfl⟩, rfl, rfl⟩, -, _, rfl, scope', _,
      hentries, _, _, hany, rfl, rfl⟩ := h
    obtain ⟨rfl, n, hinterface, hcreate, hopens⟩ := newInterface_ok (.attributeGroup d) hs hk
      hkey nofun hmisnamed hnew rfl rfl
    obtain ⟨u, hrun, rfl⟩ := expanding_ok hentries
    have hc := hopens.collecting (hcreate.sound hs)
    have hcollect := (hcalls.attributes (hc.enter d.definition.name) hd (fun m hm => hm)
      hrun).expanding
    obtain ⟨he, hheld⟩ := anyAttributeOf_ok (hc.evolves hcollect.evolves hcollect.alike)
      (or_congr_right (hcollect.anyAttribute.trans (or_iff_right Bool.false_ne_true)).symm) hany
    have hall : Collects env _ _ _ _ scope' _ False _ :=
      ⟨.trans hcollect.evolves he, hcollect.alike,
        fun m hm => (hcollect.held m hm).mono he.extend, False.elim, hcollect.anyAttribute⟩
    have hany : ∀ isAttribute, (Source.attributeGroup d).HasAny _ _ isAttribute →
        HoldsAny _ _ isAttribute
      | false => False.elim
      | true => hheld
    exact ⟨hall.interface hcreate (by simp [CacheKey.IsOfType]) hopens rfl nofun hany,
      hcreate.interface hinterface ((Moves.opening hopens).extend.trans hall.evolves.extend)⟩

omit hcalls hix in
/-- What refers to a group is linked to its interface. -/
theorem implement_ok {build : Build NodeId} (hc : Collecting env s r scope)
    (hbuild : env.options.generateInterfaces = true → ∀ id u, build s = .ok (id, u) →
      Evolves env none s u ∧ ∃ n, u.graph.node? id = some n ∧ n.isInterface = true)
    (h : implement env scope.owner build s = .ok ((), t)) : Evolves env none s t := by
  unfold implement at h
  split at h
  · rename_i hoption
    simp only [bind_ok, modifyGraph_ok] at h
    obtain ⟨id, u, hb, rfl⟩ := h
    obtain ⟨he, hinterface⟩ := hbuild hoption id u hb
    have hc' := hc.evolves he hc.alike
    exact .trans he (.change (.implement hinterface
      (hc'.alike.owner ▸ hc'.sound.owners r hc'.opened)) rfl)
  · obtain ⟨-, rfl⟩ := pure_ok.1 h
    exact .refl

omit hcalls hix in
/-- A group that is referred to gets its interface, and is expanded unless it is being expanded
already. -/
theorem referred_ok {name : QName} {build : Build NodeId} {expand : Build Scope}
    (hc : Collecting env s r scope)
    (hbuild : env.options.generateInterfaces = true → ∀ id u, build s = .ok (id, u) →
      Evolves env none s u ∧ ∃ n, u.graph.node? id = some n ∧ n.isInterface = true)
    (h : (do
      implement env scope.owner build
      if (← getContext).isExpanding name then return scope
      expand : Build Scope) s = .ok (scope', t)) :
    ∃ u, Evolves env none s u ∧ (name ∈ s.context.active ∧ scope' = scope ∧ u = t ∨
      name ∉ s.context.active ∧ expand u = .ok (scope', t)) := by
  rw [bind_ok] at h
  obtain ⟨_, u, himplement, h⟩ := h
  have he := implement_ok hc hbuild himplement
  rw [getContext_bind] at h
  refine ⟨u, he, ?_⟩
  rw [← he.active]
  split at h
  · rename_i hactive
    exact .inl ⟨List.contains_iff_mem.1 hactive, pure_ok.1 h⟩
  · rename_i hactive
    exact .inr ⟨fun hin => hactive (List.contains_iff_mem.2 hin), h⟩

theorem groupReference_ok {name : QName} {document : Document} {occurs : Occurs}
    (hc : Collecting env s r scope)
    (hm : ∀ m g, name ∉ s.context.active → env.index.group? name = some g →
      InGroup env.index (s.context.active ++ [name])
        ((Declared.ofGlobal .groups g).inPlace g.definition.group) occurs m → r.Has env.index m)
    (hany : ∀ g, name ∉ s.context.active → env.index.group? name = some g →
      AnyInGroup env.index (s.context.active ++ [name])
        ((Declared.ofGlobal .groups g).inPlace g.definition.group) occurs →
      r.HasAny env.index false)
    (h : groupReference c env scope name document occurs s = .ok (scope', t)) :
    Collects env s t r scope scope'
      (fun m => ∃ g, name ∉ s.context.active ∧ env.index.group? name = some g ∧
        InGroup env.index (s.context.active ++ [name])
          ((Declared.ofGlobal .groups g).inPlace g.definition.group) occurs m)
      (∃ g, name ∉ s.context.active ∧ env.index.group? name = some g ∧
        AnyInGroup env.index (s.context.active ++ [name])
          ((Declared.ofGlobal .groups g).inPlace g.definition.group) occurs) False := by
  unfold groupReference at h
  cases hg : env.index.group? name with
  | none =>
    simp only [hg] at h
    exact absurd h failUnresolved_ok
  | some g =>
    simp only [hg] at h
    have hd : Belongs env.index
        (.group ((Declared.ofGlobal .groups g).inPlace g.definition.group)) := .globalGroup hg
    obtain ⟨u, he, ⟨hactive, rfl, rfl⟩ | ⟨hnot, hexpand⟩⟩ :=
      referred_ok hc (fun hoption id u h => groupInterface_ok hcalls hc.sound hd
        (isOfGroup_group hix hoption hg _) (.group hg) h) h
    · exact ⟨he, hc.alike, fun m ⟨_, hnot, _⟩ => absurd hactive hnot,
        fun ⟨_, hnot, _⟩ => absurd hactive hnot, by simp⟩
    · obtain ⟨v, hrun, rfl⟩ := expanding_ok hexpand
      rw [← he.active] at hm hany ⊢
      have hcollect := (modelGroup_ok hcalls ((hc.evolves he hc.alike).enter name) hd
        (fun m hin => hm m g (he.active ▸ hnot) hg hin)
        (fun hin => hany g (he.active ▸ hnot) hg hin) hrun).expanding
      refine ⟨.trans he hcollect.evolves, hcollect.alike, ?_, ?_, hcollect.anyAttribute⟩
      · rintro m ⟨g', -, hg', hin⟩
        cases hg'
        exact hcollect.held m hin
      · rintro ⟨g', -, hg', hin⟩
        cases hg'
        exact hcollect.anyElement hin

theorem attributeGroupReference_ok {name : QName} {document : Document}
    (hc : Collecting env s r scope)
    (hm : ∀ m g, name ∉ s.context.active → env.index.attributeGroup? name = some g →
      InEntries env.index (s.context.active ++ [name])
        ((Declared.ofGlobal .attributeGroups g).inPlace g.definition.attributes) m →
      r.Has env.index m)
    (h : attributeGroupReference c env scope name document s = .ok (scope', t)) :
    Collects env s t r scope scope'
      (fun m => ∃ g, name ∉ s.context.active ∧ env.index.attributeGroup? name = some g ∧
        InEntries env.index (s.context.active ++ [name])
          ((Declared.ofGlobal .attributeGroups g).inPlace g.definition.attributes) m) False
      (∃ g, name ∉ s.context.active ∧ env.index.attributeGroup? name = some g ∧
        (g.definition.anyAttribute.isSome = true ∨
          AnyInEntries env.index (s.context.active ++ [name])
            ((Declared.ofGlobal .attributeGroups g).inPlace g.definition.attributes))) := by
  unfold attributeGroupReference at h
  cases hg : env.index.attributeGroup? name with
  | none =>
    simp only [hg] at h
    exact absurd h failUnresolved_ok
  | some g =>
    simp only [hg] at h
    have hd : Belongs env.index
        (.entries ((Declared.ofGlobal .attributeGroups g).inPlace g.definition.attributes)) :=
      .globalAttributeGroup hg
    obtain ⟨u, he, ⟨hactive, rfl, rfl⟩ | ⟨hnot, hexpand⟩⟩ :=
      referred_ok hc (fun hoption id u h => attributeGroupInterface_ok hcalls hc.sound hd
        (isOfGroup_attributeGroup hix hoption hg _) (.attributeGroup hg) h) h
    · exact ⟨he, hc.alike, fun m ⟨_, hnot, _⟩ => absurd hactive hnot, False.elim, by simp [hactive]⟩
    · simp only [bind_ok, pure_ok] at hexpand
      obtain ⟨scope₁, _, hexpand, rfl, rfl⟩ := hexpand
      obtain ⟨v, hrun, rfl⟩ := expanding_ok hexpand
      rw [← he.active] at hm ⊢
      have hcollect := (hcalls.attributes ((hc.evolves he hc.alike).enter name) hd
        (fun m hin => hm m g (he.active ▸ hnot) hg hin) hrun).expanding
      refine ⟨.trans he hcollect.evolves, ?_, ?_, False.elim, ?_⟩
      · -- A wildcard of the group counts for the owner; the rest of the scope is the same.
        split
        · exact ⟨hcollect.alike.1, hcollect.alike.2, hcollect.alike.3, hcollect.alike.4⟩
        · exact hcollect.alike
      · rintro m ⟨g', -, hg', hin⟩
        cases hg'
        exact hcollect.held m hin
      · have hnot : name ∉ u.context.active := he.active ▸ hnot
        split
        · rename_i hsome
          exact iff_of_true rfl (.inr ⟨g, hnot, rfl, .inl hsome⟩)
        · rename_i hnone
          refine hcollect.anyAttribute.trans
            (or_congr_right ⟨fun hin => ⟨g, hnot, rfl, .inr hin⟩, ?_⟩)
          rintro ⟨g', -, hg', hin⟩
          cases hg'
          exact hin.resolve_left hnone

/-! ## Content models and attribute lists -/

theorem particle_ok {d : Declared Particle} {outer : Occurs} {compositor : Compositor}
    (hc : Collecting env s r scope) (hd : Belongs env.index (.particle d))
    (hm : ∀ m, InParticle env.index s.context.active d outer m → r.Has env.index m)
    (hany : AnyInParticle env.index s.context.active d outer → r.HasAny env.index false)
    (h : particle c env scope d outer compositor s = .ok (scope', t)) :
    Collects env s t r scope scope' (InParticle env.index s.context.active d outer)
      (AnyInParticle env.index s.context.active d outer) False := by
  unfold particle at h
  simp only [inParticle_iff] at hm
  rw [anyInParticle_iff] at hany
  -- The members of the term, as the construction takes it apart.
  refine Collects.imp (P := _) ?_ (fun m hin => inParticle_iff.1 hin) anyInParticle_iff.1 .rfl
  cases hempty : (d.definition.occurs.within outer).isEmpty with
  | true =>
    simp only [hempty, if_true] at h
    obtain ⟨rfl, rfl⟩ := pure_ok.1 h
    exact ⟨.refl, hc.alike, fun m hin => absurd hin.1.symm Bool.false_ne_true,
      fun hin => absurd hin.1.symm Bool.false_ne_true, by simp⟩
  | false =>
    simp only [hempty, Bool.false_eq_true, if_false] at h
    simp only [hempty, true_and] at hm hany ⊢
    cases hterm : d.definition.term with
    | element e =>
      simp only [hterm] at h hm ⊢
      refine element_ok hcalls hix hc (.localElement hd hterm) (fun hglobal => ?_) (hm _ rfl) h
      cases hglobal
    | elementRef name =>
      simp only [hterm] at h hm ⊢
      cases hg : env.index.element? name with
      | none =>
        simp only [hg] at h
        exact absurd h failUnresolved_ok
      | some g =>
        simp only [hg] at h
        have hname : g.definition.name = name := hix.elements name g hg
        refine (element_ok hcalls hix hc (.globalElement hg) (fun _ => ⟨g, rfl, hname.symm ▸ hg⟩)
          (hm _ ⟨g, hg, rfl⟩) h).imp ?_ id .rfl
        rintro m ⟨g', hg', rfl⟩
        cases hg'
        rfl
    | any w =>
      simp only [hterm, bind_ok, pure_ok] at h hany ⊢
      obtain ⟨_, u, h, rfl, rfl⟩ := h
      obtain ⟨he, hheld⟩ := anyElement_ok hc (hany trivial) h
      exact ⟨he, hc.alike, fun _ => False.elim, fun _ => hheld, by simp⟩
    | groupRef name =>
      simp only [hterm] at h hm hany ⊢
      exact groupReference_ok hcalls hix hc (fun m g hn hg hin => hm m ⟨g, hn, hg, hin⟩)
        (fun g hn hg hin => hany ⟨g, hn, hg, hin⟩) h
    | group g =>
      simp only [hterm] at h hm hany ⊢
      exact modelGroup_ok hcalls hc (.localGroup hd hterm) hm hany h

theorem attributeItem_ok {d : Declared AttributeItem}
    (hc : Collecting env s r scope) (hd : Belongs env.index (.entry d))
    (hm : ∀ m, InEntry env.index s.context.active d m → r.Has env.index m)
    (h : attributeItem c env scope d s = .ok (scope', t)) :
    Collects env s t r scope scope' (InEntry env.index s.context.active d) False
      (AnyInEntry env.index s.context.active d) := by
  unfold attributeItem at h
  simp only [inEntry_iff] at hm
  refine Collects.imp (P := _) ?_ (fun m hin => inEntry_iff.1 hin) id anyInEntry_iff
  cases hitem : d.definition with
  | «attribute» a =>
    simp only [hitem, bind_ok, pure_ok] at h hm ⊢
    obtain ⟨_, u, h, rfl, rfl⟩ := h
    obtain ⟨he, hheld⟩ := attributeMember_ok hcalls hix hc (.localAttribute hd hitem) (by simp)
      (fun huse => hm _ ⟨huse, rfl⟩) h
    refine ⟨he, hc.alike, ?_, False.elim, by simp⟩
    rintro m ⟨huse, rfl⟩
    exact hheld huse
  | ref name =>
    simp only [hitem] at h hm ⊢
    cases hg : env.index.attribute? name with
    | none =>
      simp only [hg] at h
      exact absurd h failUnresolved_ok
    | some g =>
      simp only [hg, bind_ok, pure_ok] at h
      obtain ⟨_, u, h, rfl, rfl⟩ := h
      have hname : g.definition.name = name := hix.attributes name g hg
      obtain ⟨he, hheld⟩ := attributeMember_ok hcalls hix hc (.globalAttribute hg)
        (fun _ => ⟨g, rfl, hname.symm ▸ hg⟩) (fun huse => hm _ ⟨g, hg, huse, rfl⟩) h
      refine ⟨he, hc.alike, ?_, False.elim, by simp⟩
      rintro m ⟨g', hg', huse, rfl⟩
      cases hg'
      exact hheld huse
  | group name =>
    simp only [hitem] at h hm ⊢
    refine (attributeGroupReference_ok hcalls hix hc
      (fun m g hn hg hin => hm m ⟨g, hn, hg, hin⟩) h).imp (fun _ => id) id ?_
    simp

theorem attributes_ok {d : Declared (List AttributeItem)}
    (hc : Collecting env s r scope) (hd : Belongs env.index (.entries d))
    (hm : ∀ m, InEntries env.index s.context.active d m → r.Has env.index m)
    (h : attributes c env scope d s = .ok (scope', t)) :
    Collects env s t r scope scope' (InEntries env.index s.context.active d) False
      (AnyInEntries env.index s.context.active d) := by
  unfold attributes at h
  refine Collects.imp (.foldlM (M := fun x => InEntry env.index s.context.active
    (d.part (.attribute x.2) x.1)) (E := fun _ => False) (A := fun x => AnyInEntry env.index
    s.context.active (d.part (.attribute x.2) x.1)) hc ?_ h) ?_ False.elim ⟨?_, ?_⟩
  · rintro ⟨item, i⟩ hi u scope₁ v scope₂ hu ha hrun
    have hi := List.mk_mem_zipIdx_iff_getElem?.1 hi
    rw [← ha] at hm ⊢
    exact attributeItem_ok hcalls hix hu (.entry hd hi) (fun m hin => hm m (.entry hi hin)) hrun
  · rintro m ⟨hi, hm⟩
    exact ⟨_, List.mk_mem_zipIdx_iff_getElem?.2 hi, hm⟩
  · rintro ⟨hi, hany⟩
    exact ⟨_, List.mk_mem_zipIdx_iff_getElem?.2 hi, hany⟩
  · rintro ⟨_, hi, hany⟩
    exact .entry (List.mk_mem_zipIdx_iff_getElem?.1 hi) hany

end

end XmlTypes.Build
