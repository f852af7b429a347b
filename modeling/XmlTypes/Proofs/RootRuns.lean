import XmlTypes.Proofs.Identity
import XmlTypes.Proofs.RootClaims
/-!
# The claims that a construction makes

Along a construction each global element that counts claims the class of its type once
(`topLevelElement_runs`), and in the end all of them have (`run_rooted`).
-/

namespace XmlTypes.Build

open Schema

/-- A state that a construction comes to between two declarations, where the given claims are
made. -/
structure Between (env : Environment) (resolver : Resolver) (s : State)
    (claims inPlace : List Claim) : Prop where
  built : Evolves env none { resolver } s
  rooted : Rooted env s claims inPlace

/-- The element has claimed the class of its type, if it has one. -/
structure Settled (env : Environment) (s : State) (claims inPlace : List Claim)
    (g : Global ElementDecl) : Prop where
  named : ∀ n type, g.definition.typeRef = some (.named n) → isBuiltin n = false →
    env.index.type? n = some type → type.definition.isComplex = true →
    ∃ id, Denotes env s n (.node id) ∧ ⟨g, id⟩ ∈ claims
  inPlace : ∀ type, g.definition.typeRef = some (.inline (.complex type)) →
    ∃ id, ⟨g, id⟩ ∈ inPlace

variable {env : Environment} {resolver : Resolver} {s t : State} {g : Global ElementDecl}
  {claims inPlace claims' inPlace' : List Claim} {id : NodeId}

theorem Settled.mono (h : Settled env s claims inPlace g) (he : Extends s t)
    (hc : claims ⊆ claims') (hi : inPlace ⊆ inPlace') : Settled env t claims' inPlace' g where
  named n type htype hb hg hk := by
    obtain ⟨id, hd, hmem⟩ := h.named n type htype hb hg hk
    exact ⟨id, hd.mono he, hc hmem⟩
  inPlace type htype := by
    obtain ⟨id, hmem⟩ := h.inPlace type htype
    exact ⟨id, hi hmem⟩

theorem Between.build (h : Between env resolver s claims inPlace) (he : Evolves env none s t)
    (hq : Quiet s t) : Between env resolver t claims inPlace :=
  ⟨h.built.trans he, h.rooted.build he hq⟩

/-- From `s` to `t` the elements of a kind claim what they have to claim, and no others do. -/
def Advances (env : Environment) (resolver : Resolver) (mine : Global ElementDecl → Prop)
    (s t : State) (claims inPlace : List Claim) : Prop :=
  Extends s t ∧ ∃ claims' inPlace', Between env resolver t claims' inPlace' ∧
    claims ⊆ claims' ∧ inPlace ⊆ inPlace' ∧ (∀ c ∈ claims', c ∈ claims ∨ mine c.element) ∧
    ∀ g, env.index.element? g.definition.name = some g → mine g → Settled env t claims' inPlace' g

/-- Nothing is claimed if there is nothing to claim. -/
theorem Between.advances {mine : Global ElementDecl → Prop} (he : Extends s t)
    (h : Between env resolver t claims inPlace)
    (hsettled : ∀ g, env.index.element? g.definition.name = some g → mine g →
      Settled env t claims inPlace g) : Advances env resolver mine s t claims inPlace :=
  ⟨he, claims, inPlace, h, List.Subset.refl _, List.Subset.refl _, fun _ => .inl, hsettled⟩

/-- Only the elements that count matter. -/
theorem Advances.congr {mine mine' : Global ElementDecl → Prop}
    (h : Advances env resolver mine s t claims inPlace)
    (hiff : ∀ g, env.index.element? g.definition.name = some g → (mine g ↔ mine' g)) :
    Advances env resolver mine' s t claims inPlace := by
  obtain ⟨he, claims', inPlace', ht, hc, hi, hmine, hsettled⟩ := h
  refine ⟨he, claims', inPlace', ht, hc, hi, fun c hmem => ?_, fun g hg hm => ?_⟩
  · exact (hmine c hmem).imp_right (hiff _ (ht.rooted.named c hmem).1).1
  · exact hsettled g hg ((hiff g hg).2 hm)

/-- One part after the other, each with elements of its own. -/
theorem forM_advances {ι : Type} {f : ι → Build Unit} (owns : ι → Global ElementDecl → Prop)
    (xs : List ι) (hstep : ∀ x ∈ xs, ∀ s t claims inPlace, Between env resolver s claims inPlace →
      (∀ c ∈ claims, ¬ owns x c.element) → f x s = .ok ((), t) →
      Advances env resolver (owns x) s t claims inPlace)
    (hapart : xs.Pairwise fun x y => ∀ g, owns x g → ¬ owns y g)
    (h : Between env resolver s claims inPlace) (hnew : ∀ x ∈ xs, ∀ c ∈ claims, ¬ owns x c.element)
    (hrun : xs.forM f s = .ok ((), t)) :
    Advances env resolver (fun g => ∃ x ∈ xs, owns x g) s t claims inPlace := by
  induction xs generalizing s claims inPlace with
  | nil =>
    obtain ⟨-, rfl⟩ := pure_ok.1 hrun
    exact h.advances (.refl s) fun _ _ ⟨_, hx, _⟩ => nomatch hx
  | cons x xs ih =>
    change (f x >>= fun _ => xs.forM f) s = _ at hrun
    rw [bind_ok] at hrun
    obtain ⟨_, u, hx, hrun⟩ := hrun
    rw [List.pairwise_cons] at hapart
    obtain ⟨he, claims₁, inPlace₁, hu, hc₁, hi₁, hmine₁, hsettled₁⟩ :=
      hstep x List.mem_cons_self s u claims inPlace h (hnew x List.mem_cons_self) hx
    obtain ⟨he', claims₂, inPlace₂, ht, hc₂, hi₂, hmine₂, hsettled₂⟩ :=
      ih (fun y hy => hstep y (List.mem_cons_of_mem x hy)) hapart.2 hu (fun y hy c hc => by
        -- What is claimed so far was claimed before, or belongs to this part alone.
        rcases hmine₁ c hc with hc | hc
        · exact hnew y (List.mem_cons_of_mem x hy) c hc
        · exact hapart.1 y hy _ hc) hrun
    refine ⟨he.trans he', claims₂, inPlace₂, ht, List.Subset.trans hc₁ hc₂,
      List.Subset.trans hi₁ hi₂, fun c hc => ?_, fun g hg hm => ?_⟩
    · rcases hmine₂ c hc with hc | ⟨y, hy, hc⟩
      · exact (hmine₁ c hc).imp_right fun hc => ⟨x, List.mem_cons_self, hc⟩
      · exact .inr ⟨y, List.mem_cons_of_mem x hy, hc⟩
    · obtain ⟨y, hy, hm⟩ := hm
      rcases List.mem_cons.1 hy with rfl | hy
      · exact (hsettled₁ g hg hm).mono he' hc₂ hi₂
      · exact hsettled₂ g hg ⟨y, hy, hm⟩

/-- A name of a complex type, unless it is empty, stands for a class. -/
theorem Denotes.isSome_class? (hs : Sound env s) {n : QName} {type : Global TypeDefinition}
    (h : Denotes env s n (.node id)) (hn : n.isEmpty = false)
    (hg : env.index.type? n = some type) (hk : type.definition.isComplex = true) :
    (s.graph.class? id).isSome := by
  obtain ⟨type', _, hg', ⟨⟩, hfound, -⟩ := h
  obtain rfl := Option.some.inj (hg.symm.trans hg')
  have hfound := hfound hn
  rw [typeKey, if_pos hk] at hfound
  exact hs.classes _ _ _ hfound

theorem hasInlineType_eq {e : ElementDecl} :
    hasInlineType e = true ↔ ∃ type, e.typeRef = some (.inline type) := by
  unfold hasInlineType
  split
  · rename_i type htype
    exact ⟨fun _ => ⟨type, htype⟩, fun _ => rfl⟩
  · rename_i hno
    exact ⟨nofun, fun ⟨type, htype⟩ => absurd htype (hno type)⟩

/-! ## Classes and names -/

section
variable (he : Evolves env none { resolver } s) (hclass : (s.graph.class? id).isSome)
  (h : NamedFor env s g id)
include he hclass h

omit hclass in
/-- What is remembered under a name has the name. -/
theorem NamedFor.identity (hnames : Names g) : ∃ m, s.graph.node? id = some m ∧
    m.identity.isEmpty = false ∧ g.definition.typeRef = some (.named m.identity) ∧
    isBuiltin m.identity = false := by
  obtain ⟨n, htype, hb, ⟨type, _, hg, ⟨⟩, hkey, -⟩, -⟩ := h
  obtain ⟨m, hm, rfl, -⟩ :=
    he.remembered_of_start.remembered n type id hg (hkey (hnames n htype))
  exact ⟨m, hm, hnames _ htype, htype, hb⟩

omit hclass in
theorem NamedFor.not_nameless (hnames : Names g) : ¬ Nameless s id := by
  rintro ⟨m', hm', hempty⟩
  obtain ⟨m, hm, hne, -⟩ := h.identity he hnames
  obtain rfl := Option.some.inj (hm.symm.trans hm')
  cases hne.symm.trans hempty

omit he in
theorem NamedFor.unnamedFor (hno : ¬ Names g) : UnnamedFor s id := by
  obtain ⟨n, htype, -, -, hempty⟩ := h
  refine (hempty ?_).resolve_left fun hno => Graph.not_isSome_class? hno hclass
  rw [← Bool.not_eq_false]
  intro hn
  refine hno fun m hm => ?_
  obtain rfl : n = m := by simpa [htype] using hm
  exact hn

/-- The elements of one class have types with names, or none has. -/
theorem NamedFor.names {g' : Global ElementDecl} (h' : NamedFor env s g' id) (hnames : Names g) :
    Names g' :=
  Classical.byContradiction fun hno => h.not_nameless he hnames (h'.unnamedFor hclass hno).nameless

end

/-! ## Elements -/

/-- A complex type that is given in place comes to a class. -/
theorem TypeFor.isSome_class? (h : Between env resolver s claims inPlace) {v : ValueType}
    (hv : TypeFor env s g v) {type : ComplexType}
    (htype : g.definition.typeRef = some (.inline (.complex type))) :
    ∃ id, v = .node id ∧ (s.graph.class? id).isSome := by
  obtain ⟨id, rfl⟩ := hv.isNode type htype
  rcases hv.node id rfl with ⟨n, hn, -⟩ | ⟨type', htype', hgiven⟩
  · exact absurd (htype.symm.trans hn) nofun
  · obtain rfl : TypeDefinition.complex type = type' := by simpa [htype] using htype'
    have hin := hgiven.resolve_right fun ⟨hk, _⟩ => nomatch hk
    exact ⟨id, rfl, hin.opened.isSome_class? h.built.recorded_of_start⟩

/-- An element without a class has nothing to claim. -/
theorem TypeFor.settled (h : Between env resolver s claims inPlace) {v : ValueType}
    (hv : TypeFor env s g v) (hno : ∀ id, v = .node id → ¬ (s.graph.class? id).isSome = true) :
    Settled env s claims inPlace g := by
  refine ⟨fun n type htype hb hg hk => ?_, fun type htype => ?_⟩
  · obtain ⟨id, hid, hclass⟩ := hv.isClass n type htype hb hg hk
    exact absurd hclass (hno id hid)
  · obtain ⟨id, hid, hclass⟩ := hv.isSome_class? h htype
    exact absurd hclass (hno id hid)

section
variable (h : Between env resolver s claims inPlace)
  (hg : env.index.element? g.definition.name = some g)
include h hg

/-- The element joins the group of its head, which is no concern of claims. -/
theorem Between.join {v : ValueType} (head : QName) (hv : TypeFor env s g v)
    (hvalue : s.graph.IsValue v) :
    Between env resolver
      { s with
        context :=
          { s.context with
            substitutions := s.context.substitutions.register ⟨head, g.definition.name, v⟩
              g.definition.isAbstract } }
      claims inPlace :=
  h.build (.change (.join hg hv.written hvalue) rfl)
    (.of_context rfl (fun _ _ => id) (fun _ _ => id) rfl fun _ _ => rfl)

/-- An element whose type is given in place gets the class for itself. -/
theorem claimClass_given (hclass : (s.graph.class? id).isSome) (hin : InPlaceFor s g id)
    (hinline : hasInlineType g.definition = true)
    (hrun : claimClass env g.definition g.document (.node id) s = .ok ((), t)) :
    Between env resolver t claims (⟨g, id⟩ :: inPlace) := by
  refine ⟨h.built.trans (claimClass_ok (Index.mem_documents_of_element? hg) hrun), ?_⟩
  rw [claimClass, getGraph_bind, Option.isNone_eq_false_iff.2 hclass] at hrun
  simp only [Bool.false_eq_true, if_false, hinline, if_true] at hrun
  exact h.rooted.give hg hin hclass hrun

variable (hix : env.index.Lawful) (hnew : ∀ c ∈ claims, c.name ≠ g.definition.name)
include hix hnew

/-- An element whose type is written as a name claims the class. -/
theorem claimClass_named (hclass : (s.graph.class? id).isSome) (hnamed : NamedFor env s g id)
    (hfresh : Names g ∨ claimants claims id = [])
    (hinline : hasInlineType g.definition = false)
    (hrun : claimClass env g.definition g.document (.node id) s = .ok ((), t)) :
    Between env resolver t (claims ++ [⟨g, id⟩]) inPlace := by
  refine ⟨h.built.trans (claimClass_ok (Index.mem_documents_of_element? hg) hrun), ?_⟩
  rw [claimClass, getGraph_bind, Option.isNone_eq_false_iff.2 hclass] at hrun
  simp only [Bool.false_eq_true, if_false, hinline] at hrun
  have hopened : ¬ Unopened s id := by
    obtain ⟨_, -, -, hd, -⟩ := hnamed
    exact (hd.opened h.built hclass).not_unopened
  -- A class that is shared now was shared before, or another element has claimed it.
  have hnames : ∀ c, Shared (claims ++ [⟨g, id⟩]) c → Names c.element := by
    intro c hc
    rcases hfresh with hnames | hnil
    · by_cases hid : c.node = id
      · rcases List.mem_append.1 hc.1 with hmem | hmem
        · obtain ⟨-, hnamed', -⟩ := h.rooted.named c hmem
          exact hnamed.names h.built hclass (hid ▸ hnamed') hnames
        · exact List.mem_singleton.1 hmem ▸ hnames
      · rw [Shared, claimants_append_of_ne hid] at hc
        exact h.rooted.names c ⟨(List.mem_append.1 hc.1).resolve_right fun hmem =>
          hid (congrArg Claim.node (List.mem_singleton.1 hmem)), hc.2⟩
    · exact h.rooted.names c ((shared_append_first hnil).1 hc)
  exact claimRoot_rooted h.rooted hopened hg hnamed hclass hnew hnames hrun hix
    h.built.sound_of_start

/-- An element claims what its type comes to, if that is a class, and nothing else is claimed. -/
theorem claimClass_runs {v : ValueType} (hv : TypeFor env s g v)
    (hfresh : ∀ id, v = .node id → (s.graph.class? id).isSome →
      Names g ∨ claimants claims id = [])
    (hrun : claimClass env g.definition g.document v s = .ok ((), t)) :
    Advances env resolver (· = g) s t claims inPlace := by
  have he := (claimClass_ok (Index.mem_documents_of_element? hg) hrun).extend
  cases v with
  | primitive p =>
    obtain ⟨-, rfl⟩ := pure_ok.1 hrun
    exact h.advances he fun _ _ hm => hm ▸ hv.settled h nofun
  | node id =>
    by_cases hclass : (s.graph.class? id).isSome = true
    · rcases hv.node id rfl with hnamed | ⟨type, htype, hgiven⟩
      · have ⟨n, htype, _, hd, _⟩ := hnamed
        have hinline : hasInlineType g.definition = false := by
          rw [Bool.eq_false_iff, ne_eq, hasInlineType_eq, htype]
          exact fun ⟨_, h⟩ => nomatch h
        have ht := claimClass_named h hg hix hnew hclass hnamed (hfresh id rfl hclass) hinline
          hrun
        refine ⟨he, _, inPlace, ht, List.subset_append_left _ _, List.Subset.refl _,
          fun c hc => ?_, ?_⟩
        · rcases List.mem_append.1 hc with hc | hc
          · exact .inl hc
          · exact .inr (congrArg Claim.element (List.mem_singleton.1 hc))
        · rintro _ - rfl
          refine ⟨fun m type hm _ _ _ => ⟨id, ?_, by simp⟩, fun type hm => ?_⟩
          · obtain rfl : n = m := by simpa [htype] using hm
            exact hd.mono he
          · exact absurd (htype.symm.trans hm) nofun
      · have hin := hgiven.resolve_right fun ⟨_, hno⟩ => Graph.not_isSome_class? hno hclass
        have ht := claimClass_given h hg hclass hin (hasInlineType_eq.2 ⟨type, htype⟩) hrun
        refine ⟨he, claims, _, ht, List.Subset.refl _, List.subset_cons_self _ _, fun c => .inl, ?_⟩
        rintro _ - rfl
        refine ⟨fun m type' hm _ _ _ => ?_, fun _ _ => ⟨id, List.mem_cons_self⟩⟩
        exact absurd (htype.symm.trans hm) nofun
    · rw [claimClass, getGraph_bind, if_pos (by simpa using hclass)] at hrun
      obtain ⟨-, rfl⟩ := pure_ok.1 hrun
      refine h.advances he fun _ _ hm => hm ▸ hv.settled h fun id' hid => ?_
      exact ValueType.node.inj hid ▸ hclass

/-- A global element has claimed the class of its type once it is built. -/
theorem topLevelElement_runs
    (hrun : topLevelElement env (.ofGlobal .elements g) s = .ok ((), t)) :
    Advances env resolver (· = g) s t claims inPlace := by
  obtain ⟨resolved, s₁, s₂, htype, hjoin, hrun⟩ := topLevelElement_cases hrun
  obtain ⟨he, hv, hvalue⟩ := globalElementType_runs hix h.built hg htype
  have h₁ := h.build he (globalElementType_quiet hg htype)
  have hjoined : Between env resolver s₂ claims inPlace ∧ Extends s₁ s₂ ∧
      s₂.graph = s₁.graph := by
    rcases hjoin with ⟨-, rfl⟩ | ⟨head, -, rfl⟩
    · exact ⟨h₁, .refl s₂, rfl⟩
    · exact ⟨h₁.join hg head hv hvalue, (Change.join hg hv.written hvalue).extend, rfl⟩
  obtain ⟨h₂, he₂, hgraph⟩ := hjoined
  obtain ⟨he₃, hclaims⟩ := claimClass_runs h₂ hg hix hnew (hv.mono he₂) (fun id hid hclass =>
    (globalElementType_fresh hix h.built htype (hgraph ▸ hclass) hid).imp_right
      h.rooted.claimants_eq_nil) hrun
  exact ⟨he.extend.trans (he₂.trans he₃), hclaims⟩

end

/-! ## All declarations -/

/-- A type claims nothing, and an element what it has to claim. -/
theorem task_runs {x : Task} (hix : env.index.Lawful) (h : Between env resolver s claims inPlace)
    (hx : x.Counts env.index) (hnew : ∀ c ∈ claims, x ≠ .element c.element)
    (hrun : x.run env s = .ok ((), t)) :
    Advances env resolver (fun g => x = .element g) s t claims inPlace := by
  cases x with
  | type name g =>
    simp only [Task.run, bind_ok, pure_ok] at hrun
    obtain ⟨id, s₁, htype, -, rfl⟩ := hrun
    have he := (globalType_ok (Calls.sound_callsUpTo hix env.limit) hix h.built.sound_of_start
      hx.1 htype).1
    exact (h.build he (globalType_quiet hx.1 htype)).advances he.extend (by rintro _ _ ⟨⟩)
  | element g =>
    refine (topLevelElement_runs h hx hix (fun c hc he => ?_) hrun).congr fun g' _ =>
      ⟨fun he => he ▸ rfl, fun he => (Task.element.inj he).symm⟩
    have hfound := (h.rooted.named c hc).1
    rw [he, hx, Option.some.injEq] at hfound
    exact hnew c hc (congrArg Task.element hfound)

theorem rooted_start (env : Environment) (resolver : Resolver) :
    Rooted env { resolver } [] [] where
  distinct := List.nodup_nil
  named _ h := nomatch h
  given _ h := nomatch h
  first _ := rfl
  claimed _ _ h := by cases h
  root _ _ h := by cases h
  rootInPlace _ h := nomatch h
  classes := by
    constructor
    · intro _ _ h
      cases h
    · exact fun _ h => nomatch h.1
    · intro _ _ _ h
      cases h
  names _ h := nomatch h.1

/-- In the end every global element that counts has claimed the class of its type. -/
theorem run_rooted (hix : env.index.Lawful) (h : run env resolver = .ok s) :
    ∃ claims inPlace, Between env resolver s claims inPlace ∧
      ∀ g, env.index.element? g.definition.name = some g → Settled env s claims inPlace g := by
  have hstart : Between env resolver { resolver } [] [] := ⟨.refl, rooted_start env resolver⟩
  obtain ⟨-, claims, inPlace, hs, -, -, -, hsettled⟩ :=
    forM_advances (fun x g => x = Task.element g) (tasks env.index)
      (fun x hx s t claims inPlace h hnew hrun =>
        task_runs hix h (mem_tasks_iff.1 hx) (fun c hc => hnew c hc) hrun)
      ((nodup_tasks _).imp fun hne g hx hy => hne (hx.trans hy.symm)) hstart
      (fun _ _ => nofun) (run_eq h)
  exact ⟨claims, inPlace, hs, fun g hg => hsettled g hg ⟨.element g, mem_tasks_iff.2 hg, rfl⟩⟩

end XmlTypes.Build
