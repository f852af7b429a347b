import XmlTypes.Build.Basic
import XmlTypes.Proofs.ClassRuns
import XmlTypes.Proofs.MemberBuilds
/-!
# Building classes

A class is created, gets its base, is opened, and is filled from the walk along its type. So the
ways down fill what they open, with any amount of fuel (`Calls.completes_callsUpTo`).
-/

namespace XmlTypes.Build

open Schema

variable {env : Environment} {s t u : State} {r : Opening} {scope scope' : Scope}
  {before : List Stop} {id : NodeId}

/-! ## Creating and remembering -/

/-- What has to hold of a node so that it may be remembered under a key and for a place. -/
structure Rememberable (env : Environment) (key : Option CacheKey) (place : Option Place)
    (id : NodeId) : Prop where
  element : ∀ k, key = some k → k.kind = .elementType → ∀ g r,
    env.index.element? k.name = some g → g.definition.typeRef = some r →
    ∀ s : State, (∀ p, place = some p → s.context.inlineType? p = some id) →
    ComesTo env s ((Declared.ofGlobal .elements g).part .type r) (.node id)
  «attribute» : ∀ k, key = some k → k.kind ≠ .attributeType
  place : ∀ p, place = some p → ∀ d : Declared TypeRef, Belongs env.index (.reference d) →
    d.place = p → NodeIn env d.document d.definition

theorem Builds.remember {key : Option CacheKey} {place : Option Place} (hs : Ready env s)
    (hnew : ∀ p, place = some p → s.context.inlineType? p = none)
    (h : Rememberable env key place id) :
    Builds env none none s { s with context := s.context.remember key place id } := by
  have hinline : Builds env none none s { s with
      context := place.elim s.context (s.context.recordInline · id) } := by
    cases place with
    | none => exact .refl hs nofun
    | some p => exact .recordInline hs (h.place p rfl)
  have hplaced : ∀ p, place = some p →
      (place.elim s.context (s.context.recordInline · id)).inlineType? p = some id := by
    rintro p rfl
    exact Table.get?_insertNew_self (hnew p rfl)
  -- What is remembered under a key is no concern of places, so the order does not matter.
  cases key with
  | none => exact hinline
  | some k =>
    have hnamed := @Builds.recordNamed env _ k id hinline.ready
      (fun hk g r hg hr => h.element k rfl hk g r hg hr _ hplaced)
      fun hk => absurd hk (h.attribute k rfl)
    cases place <;> exact hinline.trans hnamed

/-- A node that is created and remembered interferes with nothing. -/
theorem Builds.creation {n : Node} {key : Option CacheKey} {place : Option Place}
    (hs : Ready env s) (h : Creation env s t n key place)
    (hremember : Rememberable env key place s.graph.size) : Builds env none none s t := by
  have hadds : Adds n s { t with context := s.context } :=
    ⟨h.nodes, rfl, h.journal, h.placing⟩
  have hb := Builds.adds hs hadds
  have ht : t = { t with context := s.context.remember key place s.graph.size } := by
    rw [← h.context]
  rw [ht]
  exact hb.trans (.remember hb.ready (fun p hp => (h.place p hp).1) hremember)

/-- A complex type whose class is remembered for an element is the one that the element gives. -/
theorem Keyed.typeRef {d : Declared ComplexType} {identity : QName} {k : CacheKey}
    (h : Keyed env.index d identity (some k)) (hd : Belongs env.index (.type d))
    (hkind : k.kind = .elementType) {g : Global ElementDecl}
    (hg : env.index.element? k.name = some g) :
    g.definition.typeRef = some (.inline (.complex d.definition)) ∧
      d.place = elementTypePlace g := by
  cases h with
  | named _ => cases hkind
  | inPlace hsteps hkey =>
    obtain ⟨g', hg', hp⟩ := (hkey k rfl).2.of_element hkind
    obtain rfl := Option.some.inj (hg.symm.trans hg')
    rcases hd.type_cases with ⟨_, _, _, _, _, hglobal⟩ | ⟨r', hr', hdef, -, hrp⟩
    · exact absurd (hglobal ▸ rfl) hsteps
    · exact ⟨hdef ▸ hr'.typeRef_of_place hg (hrp.trans hp), hp⟩

/-- The class of a complex type may be remembered for it. -/
theorem Keyed.rememberable {d : Declared ComplexType} {identity : QName} {key : Option CacheKey}
    (h : Keyed env.index d identity key) (hd : Belongs env.index (.type d)) (id : NodeId) :
    Rememberable env key (classPlace d) id where
  element := by
    rintro k rfl hkind g r hg hr s hplace
    obtain ⟨href, hp⟩ := h.typeRef hd hkind hg
    obtain rfl := Option.some.inj (hr.symm.trans href)
    exact .complex rfl fun hname => hplace (elementTypePlace g) (by simp [classPlace, hname, hp])
  «attribute» := by
    rintro k rfl hk
    cases h with
    | named _ => cases hk
    | inPlace _ hkey =>
      rw [(hkey k rfl).1] at hk
      cases hk
  place p hp r hr hrp := by
    have hdp : d.place = p := by
      unfold classPlace at hp
      split at hp
      · exact Option.some.inj hp
      · cases hp
    rcases hd.type_cases with ⟨_, _, _, _, _, hglobal⟩ | ⟨r', hr', hdef, -, hrp'⟩
    · have hsteps : r.place.steps = [] := by rw [hrp, ← hdp, hglobal]
      exact absurd hsteps hr.reference_steps
    · cases hr.unique hr' (hrp.trans (hdp.symm.trans hrp'.symm))
      rw [hdef]
      exact trivial

/-! ## Bases and texts -/

section
variable {c : Calls} (hcalls : c.Completes env) (hix : env.index.Lawful)
include hcalls hix

theorem derive_builds {derivation : Derivation} {document : Document} (hs : Ready env s)
    (hid : id < s.graph.size) (hbase : s.graph.base? id = none)
    (h : derive c env id derivation document s = .ok ((), t)) :
    Builds env (some id) none s t := by
  unfold derive at h
  cases hx : derivation.base.isXsd with
  | true =>
    simp only [hx, if_true] at h
    cases hp : Primitive.ofBuiltin? derivation.base.name with
    | none =>
      simp only [hp] at h
      exact absurd h failUnresolved_ok
    | some p =>
      cases p <;> simp only [hp] at h
      case anyType =>
        obtain ⟨-, rfl⟩ := pure_ok.1 h
        exact .refl hs nofun
      all_goals exact (Builds.text hs h).weaken nofun
  | false =>
    simp only [hx, Bool.false_eq_true, if_false] at h
    cases hg : env.index.type? derivation.base with
    | none =>
      simp only [hg] at h
      exact absurd h failUnresolved_ok
    | some g =>
      simp only [hg] at h
      rw [bind_ok] at h
      obtain ⟨baseId, s₁, htype, h⟩ := h
      have hb := globalType_builds hcalls hix hs hg htype
      cases hkind : g.definition.isComplex with
      | true =>
        simp only [hkind, if_true] at h
        simp only [bind_ok, modifyGraph_ok, getGraph_ok] at h
        obtain ⟨_, s₂, rfl, _, _, ⟨rfl, rfl⟩, h⟩ := h
        have hset : Builds env (some id) none s₁
            { s₁ with graph := s₁.graph.setBase id baseId } :=
          .setBase hb.ready ((hb.base id hid nofun).trans hbase)
        have hb' : Builds env (some id) none s s₁ := hb.weaken nofun
        refine hb'.trans (hset.trans ?_)
        cases htext : ((s₁.graph.setBase id baseId).class? baseId).bind (·.text) with
        | none =>
          simp only [htext] at h
          obtain ⟨-, rfl⟩ := pure_ok.1 h
          exact .refl hset.ready nofun
        | some v =>
          simp only [htext] at h
          exact (Builds.text hset.ready h).weaken nofun
      | false =>
        simp only [hkind, Bool.false_eq_true, if_false] at h
        exact (hb.trans (.text hb.ready h)).weaken nofun

theorem classScope_builds {d : Declared ComplexType} (hs : Ready env s) (hid : id < s.graph.size)
    (hbase : s.graph.base? id = none) (h : classScope c env id d s = .ok (scope, t)) :
    Builds env (some id) none s t ∧ scope.owner = id ∧
      scope.targetNamespace = (Source.type d).targetNamespace := by
  unfold classScope at h
  rw [getGraph_bind] at h
  cases hd : d.definition.derivation with
  | none =>
    simp only [hd] at h
    obtain ⟨rfl, rfl⟩ := pure_ok.1 h
    exact ⟨.refl hs nofun, rfl, rfl⟩
  | some derivation =>
    simp only [hd] at h
    rw [bind_ok] at h
    obtain ⟨_, s₁, hderive, h⟩ := h
    have hb := derive_builds hcalls hix hs hid hbase hderive
    cases hm : derivation.method <;> simp only [hm, bind_ok, getGraph_ok, pure_ok] at h
    · obtain ⟨_, _, ⟨rfl, rfl⟩, rfl, rfl⟩ := h
      exact ⟨hb, rfl, rfl⟩
    · obtain ⟨rfl, rfl⟩ := h
      exact ⟨hb, rfl, rfl⟩

omit hcalls hix in
theorem mixedText_builds {mixed : Bool} {owner : NodeId} (hs : Ready env s)
    (h : (do
      let g ← getGraph
      if mixed && (g.class? owner).any (·.text.isNone) then
        setText owner (.primitive .string) : Build Unit) s = .ok ((), t)) :
    Builds env none none s t := by
  rw [getGraph_bind] at h
  split at h
  · exact .text hs h
  · obtain ⟨-, rfl⟩ := pure_ok.1 h
    exact .refl hs nofun

theorem classText_builds {d : Declared ComplexType} (hs : Ready env s)
    (hd : Belongs env.index (.type d)) (h : classText c env scope d s = .ok ((), t)) :
    Builds env none none s t := by
  unfold classText at h
  cases hcontent : d.definition.simpleContent with
  | none =>
    simp only [hcontent] at h
    exact mixedText_builds hs h
  | some content =>
    simp only [hcontent] at h
    rw [bind_ok] at h
    obtain ⟨resolved, s₁, htype, h⟩ := h
    obtain ⟨hb, -⟩ := typeRef_builds hcalls hix hs (.simpleContent hd hcontent) htype
    rw [bind_ok] at h
    obtain ⟨_, s₂, hset, h⟩ := h
    have hb₂ := hb.trans (.text hb.ready hset)
    exact hb₂.trans (mixedText_builds hb₂.ready h)

/-! ## Members -/

theorem classParticle_gathers {d : Declared ComplexType} (hc : Gathering env s r scope before)
    (hd : Belongs env.index (.type d)) (h : classParticle c env scope d s = .ok (scope', t)) :
    ∃ content, (match d.definition.particle with
      | none => content = []
      | some p => AlongParticle env.index s.context.active (d.part .content p) .once .sequence
        content) ∧ Gathers env s t r scope' (before ++ content) := by
  unfold classParticle at h
  cases hp : d.definition.particle with
  | none =>
    simp only [hp] at h
    obtain ⟨rfl, rfl⟩ := pure_ok.1 h
    exact ⟨[], rfl, by simpa using hc.refl⟩
  | some p =>
    simp only [hp] at h
    exact particle_gathers hcalls hix hc (.content hd hp) h

/-- A class that is created is opened with its base, and filled from the walk along its type. -/
theorem classContent_builds {d : Declared ComplexType} {n : Node} (hb : Builds env none none s t)
    (hd : Belongs env.index (.type d)) (hn : t.graph.node? s.graph.size = some n)
    (hclass : n.isClass = true) (hblank : n.Blank)
    (hsites : ∀ head, ⟨s.graph.size, head⟩ ∉ t.context.substitutions.sites)
    (hno : ∀ r ∈ t.journal, r.scope.owner ≠ s.graph.size)
    (h : classContent c env s.graph.size d t = .ok ((), u)) :
    Builds env none none s u ∧ Extends t u := by
  have hlt : s.graph.size < t.graph.size := Graph.lt_size_of_node? hn
  unfold classContent at h
  simp only [bind_ok, note_ok] at h
  obtain ⟨scope, s₂, hscope, _, _, rfl, _, s₄, htext, scope₅, s₅, hentries, scope₆, s₆, hparticle,
    hany⟩ := h
  obtain ⟨hb₂, howner, htarget⟩ := classScope_builds hcalls hix hb.ready hlt
    (by rw [Graph.base?_eq, hn]; exact hblank.base) hscope
  obtain ⟨m, hm, hgrows⟩ := hb₂.extend.graph.nodes _ n hn
  have hmembers : m.hasMembers = true := by
    rw [Node.hasMembers_eq, Node.isClass_congr hgrows.label, hclass, Bool.true_or]
  have hnil : s₂.graph.properties scope.owner = [] := by
    rw [howner, hb₂.properties _ hlt nofun, Graph.properties_of_node? hn, hblank.properties]
  have hc₃ : Gathering env (s₂.noted scope (.type d))
      ⟨scope, .type d, s₂.context.active, s₂.graph.inheritedProperties scope.owner⟩ scope [] := by
    refine .start hb₂.ready (howner ▸ hm) hmembers hnil fun head hsite => hsites head ?_
    rw [howner] at hsite
    exact (hb₂.sites ⟨s.graph.size, head⟩ hlt nofun).1 hsite
  have hb₄ := classText_builds hcalls hix hc₃.ready hd htext
  have hc₄ := hc₃.build hb₄
  obtain ⟨attributes, hattributes, h₅⟩ :=
    attributes_gathers hcalls hix hc₄ (.attributes hd) hentries
  have hc₅ := hc₄.after h₅
  obtain ⟨content, hcontent, h₆⟩ := classParticle_gathers hcalls hix hc₅ hd hparticle
  have h₇ := anyAttributeOf_gathers (hc₅.after h₆) hany
  have hgathers := Gathers.build hc₃ hb₄ (h₅.trans (h₆.trans h₇))
  refine ⟨hgathers.opened (hb.ofNew hb₂ (Nat.le_refl _)) (Nat.le_of_eq howner.symm) ?_ htarget
    ⟨attributes, content, rfl, ?_, ?_⟩,
    hb₂.extend.trans ((Extends.noted _ _ _).trans hgathers.builds.extend)⟩
  · rw [howner]
    exact hb₂.unopened hlt hno
  · rw [hb₄.active] at hattributes
    exact hattributes
  · rw [h₅.builds.active, hb₄.active] at hcontent
    exact hcontent

theorem classNode_builds {d : Declared ComplexType} {identity : QName} {candidate : String}
    {key : Option CacheKey} (hs : Ready env s) (hd : Belongs env.index (.type d))
    (hkeyed : Keyed env.index d identity key)
    (h : classNode c env d identity candidate key s = .ok (id, t)) :
    Builds env none none s t ∧
      (d.definition.name = none → t.context.inlineType? d.place = some id) := by
  rcases classNode_cases h with ⟨rfl, hfound⟩ | ⟨rfl, -, hnew, shape, n, s₁, hblank, hm, ha, hrun⟩
  · refine ⟨.refl hs nofun, fun hname => ?_⟩
    rcases hfound with ⟨k, rfl, hk⟩ | hfound
    · -- It is remembered for an element only as the node for its place.
      cases hkeyed with
      | named hnamed => cases hname.symm.trans hnamed
      | inPlace hsteps hkey =>
        obtain ⟨hkind, hkeys⟩ := hkey k rfl
        obtain ⟨g, hg, -⟩ := hkeys.of_element hkind
        obtain ⟨href, hp⟩ := (Keyed.inPlace hsteps hkey).typeRef hd hkind hg
        have hplaced := (hs.elements k id hkind hk g _ hg href).placed
        exact hp ▸ hplaced.place _ id rfl (fun _ => hname) rfl
    · exact hfound
  · have hb := Builds.adds hs ha
    obtain ⟨hn, -, hsites, hno⟩ := ha.new hs hblank
    have hplace (p : Place) (hp : classPlace d = some p) : s₁.context.inlineType? p = none := by
      unfold classPlace at hp
      split at hp
      · rw [← Option.some.inj hp, ha.context]
        exact hnew
      · cases hp
    have hremembered := hb.trans
      (.remember hb.ready hplace (hkeyed.rememberable hd s.graph.size))
    obtain ⟨hbuilds, hextend⟩ := classContent_builds hcalls hix hremembered hd hn
      (by simp [Node.isClass, Node.class?, hm.kind]) hblank
      (by simpa only [Context.substitutions_remember] using hsites) hno hrun
    refine ⟨hbuilds, fun hname => hextend.inlineTypes _ _ ?_⟩
    simp only [Context.inlineType?, Context.inlineTypes_remember, classPlace, hname,
      Option.isNone_none, if_true, Option.elim_some]
    exact Table.get?_insertNew_self (ha.context ▸ hnew)

end

/-- The ways down fill what they open, with any amount of fuel: without any they fail. -/
theorem Calls.completes_callsUpTo (hix : env.index.Lawful) (fuel : Nat) :
    (callsUpTo env fuel).Completes env := by
  induction fuel with
  | zero =>
    exact ⟨fun _ _ _ h => absurd h failBottomless_ok, fun _ _ h => absurd h failBottomless_ok,
      fun _ _ h => absurd h failBottomless_ok⟩
  | succ fuel ih =>
    exact ⟨classNode_builds ih hix, particle_gathers ih hix, attributes_gathers ih hix⟩

end XmlTypes.Build
