import XmlTypes.Proofs.Globals
import XmlTypes.Proofs.Invariants
/-!
# What a whole construction builds

A class is created, looks up its base, is opened and gets its text and its members, and nothing
that is built on the way interferes. As the ways down do what they are for with every amount of
fuel (`Calls.sound_callsUpTo`), so does the construction of all documents (`run_ok`), and in the
end every global type is remembered.
-/

namespace XmlTypes.Build

open Schema

variable {env : Environment} {s t u : State} {id : NodeId}

/-! ## Bases -/

/-- What is known of the head of a class once its base is looked up. -/
def Based (env : Environment) (s : State) (id : NodeId) (derivation : Derivation) : Prop :=
  isBuiltin derivation.base = false → ∃ g, env.index.type? derivation.base = some g ∧
    (g.definition.isComplex = true → ∃ b, s.graph.base? id = some b ∧
      Denotes env s derivation.base (.node b)) ∧
    (g.definition.isComplex = false →
      ∃ v, s.graph.text? id = some v ∧ Denotes env s derivation.base v)

theorem setText_text? {v : ValueType} (hid : (s.graph.class? id).isSome)
    (h : setText id v s = .ok ((), t)) : t.graph.text? id = some v := by
  rw [setText_ok.1 h]
  obtain ⟨n, hn, hclass⟩ := Graph.class?_isSome.1 hid
  obtain ⟨c, hc⟩ := Option.isSome_iff_exists.1 hclass
  rw [Graph.text?_eq]
  simp [hn, Node.text?, hc]

theorem setText_evolves {v : ValueType} (hv : s.graph.IsValue v)
    (h : setText id v s = .ok ((), t)) : Evolves env (some id) s t := by
  rw [setText_ok.1 h]
  exact .change (.text hv) rfl

theorem setText_base? {v : ValueType} (h : setText id v s = .ok ((), t)) (j : NodeId) :
    t.graph.base? j = s.graph.base? j := by
  rw [setText_ok.1 h]
  exact Graph.base?_congr (Graph.bind_node?_modify _ fun _ n => (n.setText_keeps v).base)

section
variable {c : Calls} (hcalls : c.Sound env) (hix : env.index.Lawful)
include hcalls hix

/-- The base is set once, to the node of the type that is named. -/
theorem derive_ok {derivation : Derivation} {document : Document} (hs : Sound env s)
    (hclass : (s.graph.class? id).isSome) (hbase : s.graph.base? id = none)
    (h : derive c env id derivation document s = .ok ((), t)) :
    Evolves env (some id) s t ∧ Based env t id derivation ∧
      (derivation.base.isXsd = true ∨ (∀ g, env.index.type? derivation.base = some g →
        g.definition.isComplex = false) → t.graph.base? id = none) := by
  unfold derive at h
  cases hx : derivation.base.isXsd with
  | true =>
    simp only [hx, if_true] at h
    cases hp : Primitive.ofBuiltin? derivation.base.name with
    | none =>
      simp only [hp] at h
      exact absurd h failUnresolved_ok
    | some p =>
      have hbuiltin : isBuiltin derivation.base = true := by simp [isBuiltin, hx, hp]
      have hbased : Based env t id derivation := fun hb => absurd (hbuiltin.symm.trans hb) (by simp)
      -- The type of anything is no base; every other type is that of the text.
      cases p <;> simp only [hp] at h
      case anyType =>
        obtain ⟨-, rfl⟩ := pure_ok.1 h
        exact ⟨.rfl, hbased, fun _ => hbase⟩
      all_goals exact ⟨setText_evolves (Graph.isValue_primitive _) h, hbased,
        fun _ => (setText_base? h id).trans hbase⟩
  | false =>
    simp only [hx, Bool.false_eq_true, if_false] at h
    cases hg : env.index.type? derivation.base with
    | none =>
      simp only [hg] at h
      exact absurd h failUnresolved_ok
    | some g =>
      simp only [hg] at h
      rw [bind_ok] at h
      obtain ⟨baseId, s₁, htype, h⟩ := h
      obtain ⟨he, hd, hcomplex, hvalue⟩ := globalType_ok hcalls hix hs hg htype
      obtain ⟨n, hn, hn'⟩ := Graph.class?_isSome.1 hclass
      have hclass₁ := he.extend.graph.class? hclass
      have hbase₁ := (he.head_unchanged (Graph.lt_size_of_node? hn) (by simp)).1.trans hbase
      cases hkind : g.definition.isComplex with
      | true =>
        simp only [hkind, if_true] at h
        simp only [bind_ok, modifyGraph_ok, getGraph_ok] at h
        obtain ⟨_, s₂, rfl, _, _, ⟨rfl, rfl⟩, h⟩ := h
        have hset : Change env (some id) s₁ { s₁ with graph := s₁.graph.setBase id baseId } :=
          .base hbase₁ hclass₁ (hcomplex hkind)
        have hbase₂ : (s₁.graph.setBase id baseId).base? id = some baseId :=
          (Graph.base?_setBase hclass₁).trans (if_pos rfl)
        have he' : Evolves env (some id) { s₁ with graph := s₁.graph.setBase id baseId } t := by
          cases htext : ((s₁.graph.setBase id baseId).class? baseId).bind (·.text) with
          | none =>
            simp only [htext] at h
            obtain ⟨-, rfl⟩ := pure_ok.1 h
            exact .rfl
          | some v =>
            simp only [htext] at h
            exact setText_evolves ((hset.sound (he.sound hs)).texts baseId v htext) h
        refine ⟨.trans (.nested he) (.trans (.change hset rfl) he'),
          fun _ => ⟨g, hg, fun _ => ?_, fun hk => ?_⟩, fun hno => ?_⟩
        · exact ⟨baseId, he'.extend.graph.base? hbase₂, hd.mono (hset.extend.trans he'.extend)⟩
        · exact absurd (hkind.symm.trans hk) (by simp)
        · rcases hno with hno | hno
          · cases hno
          · exact absurd (hkind.symm.trans (hno g rfl)) (by simp)
      | false =>
        simp only [hkind, Bool.false_eq_true, if_false] at h
        have he' : Evolves env (some id) s₁ t := setText_evolves hvalue h
        refine ⟨.trans (.nested he) he', fun _ => ⟨g, hg, ?_, fun _ => ?_⟩,
          fun _ => (setText_base? h id).trans hbase₁⟩
        · exact fun hk => absurd (hkind.symm.trans hk) (by simp)
        · exact ⟨_, setText_text? hclass₁ h, hd.mono he'.extend⟩

/-- A class is opened with its base, and without what its base classes have if it restricts
them. -/
theorem classScope_ok {d : Declared ComplexType} {n : Node} {scope : Scope} (hs : Sound env s)
    (hn : s.graph.node? id = some n) (hclass : n.isClass = true) (hbase : n.base? = none)
    (h : classScope c env id d s = .ok (scope, t)) :
    Evolves env (some id) s t ∧ scope.owner = id ∧ scope.ownerName = n.name ∧
      scope.restated = (Source.type d).restated t.graph id ∧ scope.anyAttribute = false ∧
      (∀ derivation, d.definition.derivation = some derivation → Based env t id derivation) ∧
      ((∀ n, ¬ HasComplexBase env.index d n) → t.graph.base? id = none) := by
  have hclass' : (s.graph.class? id).isSome := Graph.class?_isSome.2 ⟨n, hn, hclass⟩
  have hbase' : s.graph.base? id = none := by rw [Graph.base?_eq, hn]; exact hbase
  unfold classScope at h
  rw [getGraph_bind] at h
  cases hd : d.definition.derivation with
  | none =>
    simp only [hd] at h
    obtain ⟨rfl, rfl⟩ := pure_ok.1 h
    exact ⟨.rfl, rfl, Graph.nameOf_of_node? hn, by simp [Source.restated, Source.isRestriction, hd],
      rfl, nofun, fun _ => hbase'⟩
  | some derivation =>
    simp only [hd] at h
    rw [bind_ok] at h
    obtain ⟨_, s₁, hderive, h⟩ := h
    obtain ⟨he, hb, hnone⟩ := derive_ok hcalls hix hs hclass' hbase' hderive
    have hbaseless (hno : ∀ n, ¬ HasComplexBase env.index d n) : s₁.graph.base? id = none := by
      refine hnone (Classical.or_iff_not_imp_left.2 fun hx g hg => Bool.eq_false_iff.2 fun hk => ?_)
      exact hno derivation.base
        ⟨⟨derivation.method, hd⟩, Bool.eq_false_iff.2 hx, g, hg, hk⟩
    cases hm : derivation.method with
    | extension =>
      simp only [hm] at h
      obtain ⟨rfl, rfl⟩ := pure_ok.1 h
      exact ⟨he, rfl, Graph.nameOf_of_node? hn,
        by simp [Source.restated, Source.isRestriction, hd, hm], rfl, by rintro _ ⟨⟩; exact hb,
        hbaseless⟩
    | restriction =>
      simp only [hm, bind_ok, getGraph_ok, pure_ok] at h
      obtain ⟨_, _, ⟨rfl, rfl⟩, rfl, rfl⟩ := h
      exact ⟨he, rfl, Graph.nameOf_of_node? hn,
        by simp [Source.restated, Source.isRestriction, hd, hm], rfl, by rintro _ ⟨⟩; exact hb,
        hbaseless⟩

omit hcalls hix in
/-- Character data between the elements does not replace a text. -/
theorem mixedText_ok (env : Environment) {mixed : Bool} {owner : NodeId}
    (h : (do
      let g ← getGraph
      if mixed && (g.class? owner).any (·.text.isNone) then
        setText owner (.primitive .string) : Build Unit) s = .ok ((), t)) :
    Evolves env (some owner) s t ∧
      (∀ v, s.graph.text? owner = some v → t.graph.text? owner = some v) ∧
      t.graph.base? owner = s.graph.base? owner := by
  rw [getGraph_bind] at h
  split at h
  · rename_i hmixed
    refine ⟨setText_evolves (Graph.isValue_primitive _) h, fun v hv => ?_, setText_base? h owner⟩
    obtain ⟨c, hc, htext⟩ := Option.bind_eq_some_iff.1 hv
    simp [hc, htext] at hmixed
  · obtain ⟨-, rfl⟩ := pure_ok.1 h
    exact ⟨.rfl, fun v hv => hv, rfl⟩

/-- The text has the type of the simple content. Without that a text that is settled stays. -/
theorem classText_ok {d : Declared ComplexType} {scope : Scope} (hs : Sound env s)
    (hd : Belongs env.index (.type d)) (hclass : (s.graph.class? scope.owner).isSome)
    {r : Opening} (hr : r ∈ s.journal) (hsource : r.source = .type d)
    (h : classText c env scope d s = .ok ((), t)) :
    Evolves env (some scope.owner) s t ∧
      (∀ content, d.definition.simpleContent = some content →
        ∃ v, t.graph.text? scope.owner = some v ∧ Written env t (some content) v ∧
          Placed env t (d.part .simpleContent content) v) ∧
      (d.definition.simpleContent = none →
        ∀ v, s.graph.text? scope.owner = some v → t.graph.text? scope.owner = some v) ∧
      t.graph.base? scope.owner = s.graph.base? scope.owner := by
  unfold classText at h
  cases hcontent : d.definition.simpleContent with
  | none =>
    simp only [hcontent] at h
    obtain ⟨he, hkeep, hbase⟩ := mixedText_ok env h
    exact ⟨he, nofun, fun _ => hkeep, hbase⟩
  | some content =>
    simp only [hcontent] at h
    rw [bind_ok] at h
    obtain ⟨resolved, s₁, htype, h⟩ := h
    obtain ⟨he, hw, hv, hp⟩ := typeRef_ok hcalls hix hs (.simpleContent hd hcontent)
      (.opening hr (.content hsource hcontent)) htype
    rw [bind_ok] at h
    obtain ⟨_, s₂, hset, h⟩ := h
    obtain ⟨he₂, hkeep, hbase⟩ := mixedText_ok env h
    have htext := hkeep _ (setText_text? (he.extend.graph.class? hclass) hset)
    have he' : Evolves env _ s₁ t := .trans (setText_evolves hv hset) he₂
    refine ⟨.trans (.nested he) he', ?_, nofun, ?_⟩
    · rintro _ ⟨⟩
      exact ⟨_, htext, hw.mono he'.extend, hp.mono he'.extend⟩
    · obtain ⟨n, hn, -⟩ := Graph.class?_isSome.1 hclass
      exact hbase.trans ((setText_base? hset _).trans
        (he.head_unchanged (Graph.lt_size_of_node? hn) (by simp)).1)

theorem classParticle_ok {d : Declared ComplexType} {r : Opening} {scope scope' : Scope}
    (hc : Collecting env s r scope) (hd : Belongs env.index (.type d))
    (hm : ∀ p m, d.definition.particle = some p →
      InParticle env.index s.context.active (d.part .content p) .once m → r.Has env.index m)
    (hany : (Source.type d).HasAny env.index s.context.active false → r.HasAny env.index false)
    (h : classParticle c env scope d s = .ok (scope', t)) :
    Collects env s t r scope scope'
      (fun m => ∃ p, d.definition.particle = some p ∧
        InParticle env.index s.context.active (d.part .content p) .once m)
      ((Source.type d).HasAny env.index s.context.active false) False := by
  unfold classParticle at h
  cases hp : d.definition.particle with
  | none =>
    simp only [hp] at h
    obtain ⟨rfl, rfl⟩ := pure_ok.1 h
    refine ⟨.refl, hc.alike, ?_, ?_, by simp⟩
    · rintro _ ⟨_, hp', _⟩
      cases hp'
    · rintro ⟨_, hp', _⟩
      cases hp.symm.trans hp'
  | some p =>
    simp only [hp] at h
    refine (particle_ok hcalls hix hc (.content hd hp) (fun m hin => hm p m hp hin)
      (fun hin => hany ⟨p, hp, hin⟩) h).imp ?_ ?_ .rfl
    · rintro m ⟨_, ⟨⟩, hin⟩
      exact hin
    · rintro ⟨_, hp', hin⟩
      cases hp.symm.trans hp'
      exact hin

/-- A class that is created and remembered is opened and gets what belongs to it. -/
theorem classContent_ok {d : Declared ComplexType} {n : Node} {key : Option CacheKey}
    {place : Option Place} (hs : Sound env s) (hd : Belongs env.index (.type d))
    (hsought : Sought env.index s.journal d)
    (hcreate : Creation env s t n key place) (hfits : (Source.type d).Fits env.index key place)
    (hplace : d.definition.name = none → t.context.inlineType? d.place = some s.graph.size)
    (hclass : n.isClass = true) (h : classContent c env s.graph.size d t = .ok ((), u)) :
    Evolves env none s u ∧ Extends t u ∧ OpenedFor u s.graph.size (· = d) := by
  have hst := hcreate.sound hs
  have hn : t.graph.node? s.graph.size = some n := by rw [hcreate.node?, if_pos rfl]
  unfold classContent at h
  simp only [bind_ok, note_ok] at h
  obtain ⟨scope, s₂, hscope, _, _, rfl, _, s₄, htext, scope₅, s₅, hentries, scope₆, s₆, hparticle,
    hany⟩ := h
  obtain ⟨he₂, howner, hname, hrestated, hnone, hbased, hbaseless⟩ :=
    classScope_ok hcalls hix hst hn hclass hcreate.blank.base hscope
  obtain ⟨m, hm, hgrows⟩ := he₂.extend.graph.nodes _ n hn
  have hmclass : m.isClass = true := (Node.isClass_congr hgrows.label).trans hclass
  have hopens : Opens env s₂ m scope (.type d) := by
    refine ⟨howner ▸ hm, hname.trans hgrows.name.symm, ?_, howner ▸ hrestated, ?_, ?_,
      fun _ => ⟨d, rfl⟩, ?_, ?_⟩
    · rw [Node.hasMembers_eq, hmclass, Bool.true_or]
    · -- What was opened before belongs to older nodes, what was opened since to newer ones.
      intro r hr e
      rcases he₂.faithful (fun id hid => Option.some.inj hid ▸ hcreate.lt_size) r hr with
        hr | ⟨hl, -, -⟩
      · obtain ⟨k, hk, -⟩ := hs.owners r (hcreate.journal ▸ hr)
        exact Nat.lt_irrefl _ (howner ▸ e ▸ Graph.lt_size_of_node? hk)
      · exact Nat.lt_irrefl _ (Nat.lt_of_lt_of_le hcreate.lt_size (howner ▸ e ▸ hl))
    · rintro _ ⟨⟩
      exact ⟨hmclass, hd⟩
    · rintro _ ⟨⟩
      exact hsought.mono (hcreate.extend.trans he₂.extend).journal
    · rintro _ ⟨⟩ hnone
      exact howner ▸ he₂.extend.inlineTypes _ _ (hplace hnone)
  have hc₃ := hopens.collecting (he₂.sound hst)
  have hclass₃ : ((s₂.noted scope (.type d)).graph.class? scope.owner).isSome :=
    Graph.class?_isSome.2 ⟨m, howner ▸ hm, hmclass⟩
  obtain ⟨he₄, hcontent, hkeep, hbase₄⟩ :=
    classText_ok hcalls hix hc₃.sound hd hclass₃ hc₃.opened rfl htext
  have hc₄ := hc₃.evolves he₄ hc₃.alike
  have ha₄ : s₄.context.active = s₂.context.active := he₄.active
  have h₅ := attributes_ok hcalls hix hc₄ (.attributes hd)
    (fun m hin => .inr (ha₄ ▸ hin)) hentries
  have hc₅ := hc₄.evolves h₅.evolves h₅.alike
  have ha₅ : s₅.context.active = s₂.context.active := h₅.evolves.active.trans ha₄
  have h₆ := classParticle_ok hcalls hix hc₅ hd
    (fun p m hp hin => .inl ⟨p, hp, ha₅ ▸ hin⟩) (ha₅ ▸ id) hparticle
  -- An attribute wildcard of a group is kept in mind while the content is collected.
  have hkept : scope₆.anyAttribute = true ↔ AnyInEntries env.index s₂.context.active
      (d.inPlace d.definition.attributes) := by
    rw [h₆.anyAttribute, h₅.anyAttribute, hnone, ha₄]
    simp
  obtain ⟨he₇, hattribute⟩ := anyAttributeOf_ok (hc₅.evolves h₆.evolves h₆.alike)
    (or_congr_right hkept.symm) hany
  have he := Evolves.trans h₅.evolves (.trans h₆.evolves he₇)
  obtain ⟨hbase, hkept⟩ : u.graph.base? scope.owner = s₄.graph.base? scope.owner ∧
      u.graph.text? scope.owner = s₄.graph.text? scope.owner := by
    refine he.head_unchanged ?_ nofun
    obtain ⟨k, hk, -⟩ := Graph.class?_isSome.1 (he₄.extend.graph.class? hclass₃)
    exact Graph.lt_size_of_node? hk
  have hextend := ((Moves.opening hopens).extend.trans he₄.extend).trans he.extend
  refine ⟨.collect hcreate hfits howner he₂ hopens (howner ▸ .trans he₄ (.nested he))
    ⟨?_, ?_, ?_, ?_, ?_⟩, he₂.extend.trans hextend,
    ⟨_, (he₄.extend.trans he.extend).journal List.mem_cons_self, howner, d, rfl, rfl⟩⟩
  · rintro m (⟨p, hp, hin⟩ | hin)
    · exact (h₆.held m ⟨p, hp, ha₅ ▸ hin⟩).mono he₇.extend
    · exact (h₅.held m (ha₄ ▸ hin)).mono (Evolves.trans h₆.evolves he₇).extend
  · rintro (_ | _) hin
    · exact (h₆.anyElement (ha₅ ▸ hin)).mono he₇.extend
    · exact hattribute hin
  · rintro _ derivation ⟨⟩ hderivation hx
    obtain ⟨g, hg, hcomplex, hsimple⟩ := hbased derivation hderivation hx
    refine ⟨g, hg, fun hk => ?_, fun hk hnone => ?_⟩
    · obtain ⟨b, hb, hn⟩ := hcomplex hk
      exact ⟨b, hextend.graph.base? (howner ▸ hb), hn.mono hextend⟩
    · obtain ⟨v, hv, hn⟩ := hsimple hk
      exact ⟨v, hkept ▸ hkeep hnone v (howner ▸ hv), hn.mono hextend⟩
  · rintro _ ⟨⟩ hno
    exact hbase.trans (hbase₄.trans (howner ▸ hbaseless hno))
  · rintro _ content ⟨⟩ hc
    obtain ⟨v, hv, hw, hp⟩ := hcontent content hc
    exact ⟨v, hkept ▸ hv, hw.mono he.extend, hp.mono he.extend⟩

/-- The place for which the class of a complex type is remembered, if it is given in place. -/
def classPlace (d : Declared ComplexType) : Option Place :=
  if d.definition.name.isNone then some d.place else none

omit hcalls hix in
/-- A class is found, or it is created, remembered and given what belongs to it. -/
theorem classNode_cases {d : Declared ComplexType} {identity : QName} {candidate : String}
    {key : Option CacheKey} (h : classNode c env d identity candidate key s = .ok (id, t)) :
    t = s ∧ ((∃ k, key = some k ∧ s.context.cache.get? k = some id) ∨
        s.context.inlineType? d.place = some id) ∨
      id = s.graph.size ∧ (∀ k, key = some k → s.context.cache.get? k = none) ∧
        s.context.inlineType? d.place = none ∧ ∃ shape n s₁, n.Blank ∧
          Made env d.document candidate s identity (.classLike shape) n ∧ Adds n s s₁ ∧
          classContent c env s.graph.size d { s₁ with
            context := s₁.context.remember key (classPlace d) s.graph.size } = .ok ((), t) := by
  unfold classNode at h
  rw [getContext_bind] at h
  cases hfound : (key.bind s.context.cache.get?).orElse
      fun _ => s.context.inlineType? d.place with
  | some found =>
    rw [hfound] at h
    obtain ⟨rfl, rfl⟩ := pure_ok.1 h
    refine .inl ⟨rfl, ?_⟩
    rw [← Option.bind_eq_some_iff]
    cases hk : key.bind s.context.cache.get? with
    | none => exact .inr (by rwa [hk, Option.orElse_none] at hfound)
    | some known => exact .inl (by rwa [hk, Option.orElse_some] at hfound)
  | none =>
    simp only [hfound, bind_ok] at h
    obtain ⟨_, s₁, hnew, h⟩ := h
    obtain ⟨rfl, n, hm, ha⟩ := newNode_ok hnew
    have hrun : id = s.graph.size ∧ classContent c env s.graph.size d { s₁ with
        context := s₁.context.remember key (classPlace d) s.graph.size } = .ok ((), t) := by
      cases key <;> cases hname : d.definition.name <;>
        simp only [hname, Option.isNone_none, Option.isNone_some, Bool.false_eq_true, if_true,
          if_false, bind_ok, modifyContext_ok, pure_ok] at h <;>
        simp only [classPlace, hname, Option.isNone_none, Option.isNone_some, Bool.false_eq_true,
          if_true, if_false]
      · obtain ⟨_, _, rfl, _, _, h, rfl, rfl⟩ := h
        exact ⟨rfl, h⟩
      · obtain ⟨_, _, h, rfl, rfl⟩ := h
        exact ⟨rfl, h⟩
      · obtain ⟨_, _, rfl, _, _, rfl, _, _, h, rfl, rfl⟩ := h
        exact ⟨rfl, h⟩
      · obtain ⟨_, _, rfl, _, _, h, rfl, rfl⟩ := h
        exact ⟨rfl, h⟩
    refine .inr ⟨hrun.1, ?_, ?_, _, n, s₁, Node.blank_of_kind (by simp [hm.kind]), hm, ha, hrun.2⟩
    · rintro k rfl
      cases hk : s.context.cache.get? k with
      | none => rfl
      | some known => simp [hk] at hfound
    · cases hk : key.bind s.context.cache.get? with
      | none => rwa [hk, Option.orElse_none] at hfound
      | some known => rw [hk, Option.orElse_some] at hfound; cases hfound

/-- The class of a definition is the one that is remembered, or is created. -/
theorem classNode_ok {d : Declared ComplexType} {identity : QName} {candidate : String}
    {key : Option CacheKey} (hs : Sound env s) (hd : Belongs env.index (.type d))
    (hsought : Sought env.index s.journal d) (hkeyed : Keyed env.index d identity key)
    (hcandidate : identity.isEmpty = false → candidate = env.naming.complexType identity "")
    (h : classNode c env d identity candidate key s = .ok (id, t)) :
    Evolves env none s t ∧ t.graph.IsValue (.node id) ∧
    (d.place.steps = [] → (t.graph.class? id).isSome ∧
      ∀ k, key = some k → k.name.isEmpty = false → t.context.cache.get? k = some id) ∧
    Reaches s t d identity key id := by
  rcases classNode_cases h with ⟨rfl, hreaches⟩ | ⟨rfl, hkey, hunplaced, shape, n, s₁, hblank, hm,
    ha, hrun⟩
  · -- For a global type it is found under the key: places are for types given in place only.
    have hvalue : t.graph.IsValue (.node id) := by
      rcases hreaches with ⟨k, rfl, hk⟩ | hk
      · cases hkeyed with
        | inPlace _ hkind =>
          have hkind := (hkind k rfl).1
          exact hs.values _ _ (by simp [hkind]) (by simp [hkind]) hk
        | named _ => exact hs.values _ _ (by simp) (by simp) hk
      · obtain ⟨n, hn, hfills⟩ := hs.inPlace _ _ hk
        exact .of_node hn hfills.isInterface
    refine ⟨.refl, hvalue, fun hsteps => ?_, hreaches.imp_right .inl⟩
    rcases hreaches with ⟨k, rfl, hk⟩ | hk
    · cases hkeyed with
      | inPlace hplace _ => exact absurd hsteps hplace
      | named hname => exact ⟨hs.classes _ _ _ hk, by rintro _ ⟨⟩ _; exact hk⟩
    · obtain ⟨n, -, hfills⟩ := hs.inPlace _ _ hk
      exact absurd hsteps hfills.steps
  · have hclass : n.isClass = true := by simp [Node.isClass, Node.class?, hm.kind]
    have hplace : ∀ p, classPlace d = some p →
        s.context.inlineType? p = none ∧ Fills env.index p n := by
      intro p hp
      cases hkeyed with
      | named hname => simp [classPlace, hname] at hp
      | inPlace hsteps _ =>
        cases hname : d.definition.name with
        | some name => simp [classPlace, hname] at hp
        | none =>
          simp only [classPlace, hname, Option.isNone_none, if_true, Option.some.injEq] at hp
          rcases hd.type_cases with ⟨m, g, -, -, -, hglobal⟩ | ⟨r, hr, hdef, -, hrp⟩
          · exact absurd (hglobal ▸ rfl) hsteps
          · exact ⟨hp ▸ hunplaced, r, _, hr, hrp.trans hp, hdef,
              Node.isClass_iff.1 hclass⟩
    have hremembered (hnone : d.definition.name = none) :
        (s₁.context.remember key (classPlace d) s.graph.size).inlineType? d.place =
          some s.graph.size := by
      rw [Context.inlineType?, Context.inlineTypes_remember]
      simp only [classPlace, hnone, Option.isNone_none, if_true, Option.elim_some]
      exact Table.get?_insertNew_self (ha.context ▸ hunplaced)
    have hpurpose : Purpose env n key := by
      cases hkeyed with
      | named hname => exact .type hd hname hclass hm.identity
      | inPlace _ hkind =>
        exact .unnamed hm.identity (Node.simple?_of_isClass hclass) fun k hk =>
          .inl ⟨(hkind k hk).1, hclass⟩
    have hnamed : FreshlyNamed env s n key (classPlace d) :=
      hm.named_of_keyed hix hd hkeyed hcandidate
    have hcreate := ha.creation key (classPlace d) hblank hpurpose hnamed
      hkey hplace
    have hfits : (Source.type d).Fits env.index key (classPlace d) := by
      refine ⟨fun k hk _ => ⟨d, rfl, ?_⟩, fun p hp => ⟨d, rfl, ?_⟩⟩
      · cases hkeyed with
        | named hname => exact Option.some.inj hk ▸ .name hname
        | inPlace _ helement => exact (helement k hk).2
      · cases hname : d.definition.name with
        | some name => simp [classPlace, hname] at hp
        | none => simpa [classPlace, hname] using hp
    obtain ⟨he, hextend, hopened⟩ :=
      classContent_ok hcalls hix hs hd hsought hcreate hfits hremembered hclass hrun
    have hnode := (hcreate.node? s.graph.size).trans (if_pos rfl)
    have hclass' := hextend.graph.class? (Graph.class?_isSome.2 ⟨n, hnode, hclass⟩)
    obtain ⟨n', hnode', hgrows⟩ := hextend.graph.nodes _ n hnode
    refine ⟨he, .of_class hclass', fun _ => ⟨hclass', ?_⟩,
      .inr (.inr ⟨Nat.le_refl _, hopened, n', hnode', hgrows.identity.trans hm.identity⟩)⟩
    · rintro k rfl hne
      exact hextend.cache _ _ (hcreate.get?_key hne)

end

/-- The ways down do what they are for, with any amount of fuel: without any they fail. -/
theorem Calls.sound_callsUpTo (hix : env.index.Lawful) (fuel : Nat) :
    (callsUpTo env fuel).Sound env := by
  induction fuel with
  | zero =>
    exact ⟨fun _ _ _ _ _ h => absurd h failBottomless_ok,
      fun _ _ _ _ h => absurd h failBottomless_ok, fun _ _ _ h => absurd h failBottomless_ok⟩
  | succ fuel ih => exact ⟨classNode_ok ih hix, particle_ok ih hix, attributes_ok ih hix⟩

/-! ## Roots -/

/-- Roots are no concern of others. -/
theorem roots_decorate (root : Node → Option QName) (isAbstractRoot : Node → Bool) :
    Node.Decorates fun n => { n with root := root n, isAbstractRoot := isAbstractRoot n } := by
  intro n
  constructor
  · constructor <;> rfl
  · rfl

theorem setRoot_decorates (element : QName) :
    Node.Decorates fun n => { n with root := some element } :=
  roots_decorate (fun _ => some element) (·.isAbstractRoot)

theorem demote_ok (h : demote id s = .ok ((), t)) : Evolves env none s t := by
  rw [modifyGraph_ok.1 h]
  refine .change (.decorate fun n => ⟨?_, ?_⟩) rfl
  · refine .trans (roots_decorate (fun _ => none) (fun _ => true) n).1 ?_
    refine Node.mapClass_keeps _ _ (fun _ => ?_) (fun _ => ?_) (fun _ => ?_) fun _ => ?_ <;> rfl
  · exact Node.text?_mapClass _ _ fun _ => rfl

/-- What the class of a root element is when it is made. -/
structure MadeForRoot (element : QName) (n : Node) : Prop where
  isRootClass : n.IsRootClass
  isClass : n.isClass = true
  root : n.root = some element
  isAbstractRoot : n.isAbstractRoot = false

/-- The class of a root element is made once. -/
theorem rootClass_cases {base : NodeId} {element : QName} {document : Document}
    (hdoc : document ∈ env.index.documents)
    (h : rootClass env base element document s = .ok ((), t)) :
    (s.context.cache.get? ⟨.rootElement, document.location, element⟩).isSome ∧ t = s ∨
      ∃ n s₁, Creation env s s₁ n (some ⟨.rootElement, document.location, element⟩) none ∧
        MadeForRoot element n ∧ t = { s₁ with graph := s₁.graph.setBase s.graph.size base } := by
  unfold rootClass at h
  rw [getContext_bind] at h
  split at h
  · rename_i hfound
    exact .inl ⟨hfound, (pure_ok.1 h).2.symm⟩
  · rename_i hnone
    simp only [bind_ok, getGraph_ok, modifyGraph_ok, modifyContext_ok] at h
    obtain ⟨_, _, ⟨rfl, rfl⟩, id, s₁, hnew, _, _, rfl, _, _, rfl, rfl⟩ := h
    obtain ⟨rfl, n, hm, ha⟩ := newNode_ok hnew
    have hclass : n.isClass = true := by simp [Node.isClass, Node.class?, hm.kind]
    let made : Node := { n with isAnonymous := false, root := some element }
    have hadds : Adds made s _ :=
      ha.modify (f := fun n => { n with isAnonymous := false, root := some element }) rfl rfl
    have hnamed :
        FreshlyNamed env s made (some ⟨.rootElement, document.location, element⟩) none := by
      refine ⟨hm.free, fun hname => ?_, by rintro _ ⟨⟩, ?_, by rintro ⟨⟩,
        fun _ => .inl ⟨⟨hm.identity, rfl⟩, hclass⟩⟩
      · cases hname.symm.trans (congrArg QName.isEmpty hm.identity)
      · rintro _ _ ⟨⟩
        exact ⟨document, hdoc, rfl, hm.unreserved rfl⟩
    refine .inr ⟨made, _, hadds.creation (some ⟨.rootElement, document.location, element⟩) none
        (Node.blank_of_kind (by simp [made, hm.kind]))
        (.unnamed hm.identity (Node.simple?_of_isClass hclass) ?_) hnamed ?_ (by simp),
      ⟨⟨hm.identity, rfl⟩, hclass, rfl, hm.isAbstractRoot⟩, rfl⟩
    · rintro _ ⟨⟩
      exact .inr ⟨rfl, hclass⟩
    · rintro _ ⟨⟩
      simpa using hnone

theorem rootClass_ok {base : NodeId} {element : QName} {document : Document}
    (hdoc : document ∈ env.index.documents) (hbase : (s.graph.class? base).isSome)
    (h : rootClass env base element document s = .ok ((), t)) : Evolves env none s t := by
  rcases rootClass_cases hdoc h with ⟨-, rfl⟩ | ⟨n, s₁, hcreate, hmade, rfl⟩
  · exact .refl
  · have hn : s₁.graph.node? s.graph.size = some n := by rw [hcreate.node?, if_pos rfl]
    have hbased : Change env (some s.graph.size) s₁ _ := .base
      (by rw [Graph.base?_eq, hn]; exact hcreate.blank.base)
      (Graph.class?_isSome.2 ⟨n, hn, hmade.isClass⟩) (hcreate.extend.graph.class? hbase)
    refine .create hcreate ?_ (fun _ => ⟨rfl, hmade.isRootClass⟩) (.change hbased rfl)
    rintro _ ⟨⟩
    simp [CacheKey.IsOfType]

theorem claimRoot_ok {element : QName} {document : Document}
    (hdoc : document ∈ env.index.documents) (hclass : (s.graph.class? id).isSome)
    (h : claimRoot env id element document s = .ok ((), t)) :
    Evolves env none s t := by
  cases claimRoot_cases h with
  | further _ hroot => exact rootClass_ok hdoc hclass hroot
  | first _ _ ht =>
    have hroot : Change env none s
        { s with graph := s.graph.modify id fun n => { n with root := some element } } :=
      .decorate (setRoot_decorates element)
    refine .trans (.change hroot rfl) ?_
    exact ht ▸ .change (.aside rfl rfl rfl rfl rfl) rfl
  | second _ _ hhome hdemote hfirst hroot =>
    have he : Evolves env none s _ := demote_ok hdemote
    have hclass := he.extend.graph.class? hclass
    have he' := rootClass_ok (Index.mem_documents_of_document? hhome) hclass hfirst
    have hclass := he'.extend.graph.class? hclass
    exact .trans he (.trans he' (rootClass_ok hdoc hclass hroot))

theorem claimClass_ok {e : ElementDecl} {document : Document} {v : ValueType}
    (hdoc : document ∈ env.index.documents)
    (h : claimClass env e document v s = .ok ((), t)) : Evolves env none s t := by
  cases v with
  | primitive p =>
    obtain ⟨-, rfl⟩ := pure_ok.1 h
    exact .refl
  | node id =>
    rw [claimClass, getGraph_bind] at h
    split at h
    · obtain ⟨-, rfl⟩ := pure_ok.1 h
      exact .refl
    · rename_i hclass
      split at h
      · rw [modifyGraph_ok.1 h]
        exact .change (.decorate (setRoot_decorates e.name)) rfl
      · refine claimRoot_ok hdoc ?_ h
        simpa [Option.isSome_iff_ne_none] using hclass

theorem topLevelElement_ok {d : Declared ElementDecl} {g : Global ElementDecl}
    (hix : env.index.Lawful) (hs : Sound env s) (hd : d = .ofGlobal .elements g)
    (hg : env.index.element? g.definition.name = some g)
    (h : topLevelElement env d s = .ok ((), t)) : Evolves env none s t := by
  subst hd
  obtain ⟨resolved, s₁, s₂, htype, hjoin, h⟩ := topLevelElement_cases h
  obtain ⟨he, hw, hv⟩ :=
    globalElementType_ok (Calls.sound_callsUpTo hix env.limit) hix hs rfl hg htype
  refine .trans he (.trans ?_ (claimClass_ok (Index.mem_documents_of_element? hg) h))
  rcases hjoin with ⟨-, rfl⟩ | ⟨head, -, rfl⟩
  · exact .refl
  · exact .change (.join hg hw hv) rfl

/-! ## All declarations -/

/-- The global type has a node, which is a class if the type is complex. -/
def IsBuilt (env : Environment) (s : State) (n : QName) (g : Global TypeDefinition) : Prop :=
  ∃ id, Denotes env s n (.node id) ∧
    (g.definition.isComplex = true → (s.graph.class? id).isSome = true)

theorem IsBuilt.mono {n : QName} {g : Global TypeDefinition} (h : IsBuilt env s n g)
    (he : Extends s t) : IsBuilt env t n g :=
  h.imp fun _ ⟨hd, hclass⟩ => ⟨hd.mono he, fun hk => he.graph.class? (hclass hk)⟩

theorem task_ok {x : Task} (hix : env.index.Lawful) (hs : Sound env s)
    (hx : x.Counts env.index) (h : x.run env s = .ok ((), t)) :
    Evolves env none s t ∧ ∀ n g, x = .type n g → IsBuilt env t n g := by
  cases x with
  | type name g =>
    simp only [Task.run, bind_ok, pure_ok] at h
    obtain ⟨id, s₁, htype, -, rfl⟩ := h
    obtain ⟨he, hd, hclass, -⟩ :=
      globalType_ok (Calls.sound_callsUpTo hix env.limit) hix hs hx.1 htype
    refine ⟨he, ?_⟩
    rintro _ _ ⟨⟩
    exact ⟨id, hd, hclass⟩
  | element g => exact ⟨topLevelElement_ok hix hs rfl hx h, nofun⟩

theorem sound_start (env : Environment) (resolver : Resolver) : Sound env { resolver } where
  inPlace _ _ h := by cases h
  named _ _ h := by cases h
  classes _ _ _ h := by cases h
  simples _ _ _ h := by cases h
  elements _ _ _ h := by cases h
  interfaces _ _ _ h := by cases h
  attributes _ _ _ h := by cases h
  owners _ h := nomatch h
  opened _ h := nomatch h
  values _ _ _ _ h := by cases h
  texts _ _ h := by cases h

/-- The construction of a schema begins with nothing, and in the end every global type is built. -/
theorem run_built {resolver : Resolver} (hix : env.index.Lawful) (h : run env resolver = .ok s) :
    Evolves env none { resolver } s ∧ ∀ n g, env.index.type? n = some g → IsBuilt env s n g := by
  obtain ⟨he, -, hall⟩ := forM_ok (R := Evolves env none) (K := Sound env)
    (P := fun (x : Task) t => ∀ n g, x = .type n g → IsBuilt env t n g)
    (fun _ => .refl) (fun _ _ _ => .trans)
    (fun x hx s t hs h => by
      obtain ⟨he, hknown⟩ := task_ok hix hs (mem_tasks_iff.1 hx) h
      exact ⟨he, he.sound hs, hknown⟩)
    (fun _ _ _ he hx n g hn => (hx n g hn).mono he.extend) (sound_start env resolver) (run_eq h)
  refine ⟨he, fun n g hg => hall (.type n g) ?_ n g rfl⟩
  exact mem_tasks_iff.2 ⟨hg, hix.types n g hg⟩

/-- A type that has a name is remembered. -/
theorem run_ok {resolver : Resolver} (hix : env.index.Lawful) (h : run env resolver = .ok s) :
    Evolves env none { resolver } s ∧ ∀ n g, env.index.type? n = some g → n.isEmpty = false →
      ∃ id, s.context.cache.get? (typeKey n g) = some id := by
  obtain ⟨he, hbuilt⟩ := run_built hix h
  refine ⟨he, fun n g hg hne => ?_⟩
  obtain ⟨id, ⟨g', _, hg', ⟨⟩, hk, -⟩, -⟩ := hbuilt n g hg
  obtain rfl := Option.some.inj (hg.symm.trans hg')
  exact ⟨id, hk hne⟩

/-- What holds at first and is kept by every step holds in the end. -/
theorem run_invariant {resolver : Resolver} {P : State → Prop} (hix : env.index.Lawful)
    (hstart : P { resolver }) (hstep : ∀ t u, Moves env t u → P t → P u)
    (h : run env resolver = .ok s) : P s :=
  (run_ok hix h).1.invariant hstart hstep

theorem run_recorded {resolver : Resolver} (hix : env.index.Lawful)
    (h : run env resolver = .ok s) : Recorded env s :=
  (recorded_start env resolver).of_moves (run_ok hix h).1.moves

/-- A class that is remembered for a complex type, by its name or as one given in place, is opened
for the type. So what holds of what is opened holds of the classes of all complex types. -/
theorem run_opened {resolver : Resolver} (hix : env.index.Lawful)
    (h : run env resolver = .ok s) {id : NodeId} (hid : (s.graph.class? id).isSome) :
    (∀ location name, s.context.cache.get? ⟨.complexType, location, name⟩ = some id →
      OpenedFor s id fun d => d.location = location ∧ d.definition.name = some name) ∧
    ∀ p, s.context.inlineType? p = some id → OpenedFor s id (·.place = p) := by
  have he := (run_ok hix h).1
  refine ⟨fun location name hk => ?_, fun p hp => ?_⟩
  · rcases he.opened_of_key (.inl rfl) hk with hk | ⟨hk, -⟩ | ho
    · cases hk
    · cases hk
    · exact ho.imp fun d hd => hd.of_name rfl
  · rcases he.opened_of_place hp with hp | hno | ho
    · cases hp
    · exact absurd hid (Graph.not_isSome_class? hno)
    · exact ho

/-- Everything that is opened is finished in the end. -/
theorem run_faithful {resolver : Resolver} (hix : env.index.Lawful)
    (h : run env resolver = .ok s) {r : Opening} (hr : r ∈ s.journal) : Faithful env s r :=
  (((run_ok hix h).1.faithful nofun r hr).resolve_left nofun).2.2

end XmlTypes.Build
