import XmlTypes.Proofs.Roots
/-!
# Names of root elements

While a schema is built, a node gets a root only from the element that claims it, and each element
that counts claims once. So no two nodes have one root (`run_apart`).
-/

namespace XmlTypes

/-- The node has the given root element. -/
def Graph.HasRoot (g : Graph) (i : NodeId) (q : QName) : Prop :=
  ∃ n, g.node? i = some n ∧ n.root = some q

/-- The node is the type of several root elements. -/
def Graph.IsAbstractRoot (g : Graph) (i : NodeId) : Prop :=
  ∃ n, g.node? i = some n ∧ n.isAbstractRoot = true

section
variable {g g' : Graph} {i : NodeId} {q : QName}

/-- The standing of a node tells its root. -/
theorem Graph.hasRoot_congr (h : (g'.node? i).map Node.standing = (g.node? i).map Node.standing) :
    g'.HasRoot i q ↔ g.HasRoot i q := by
  have hone {g g' : Graph}
      (h : (g'.node? i).map Node.standing = (g.node? i).map Node.standing) (hq : g.HasRoot i q) :
      g'.HasRoot i q := by
    obtain ⟨n, hn, hroot⟩ := hq
    obtain ⟨m, hm, hst⟩ := Build.exists_of_standing h hn
    exact ⟨m, hm, (congrArg (·.2.2.1) hst).trans hroot⟩
  exact ⟨hone h.symm, hone h⟩

theorem Graph.IsAbstractRoot.congr
    (h : (g'.node? i).map Node.standing = (g.node? i).map Node.standing)
    (hi : g.IsAbstractRoot i) : g'.IsAbstractRoot i := by
  obtain ⟨n, hn, habstract⟩ := hi
  obtain ⟨m, hm, hst⟩ := Build.exists_of_standing h hn
  exact ⟨m, hm, (congrArg (·.2.2.2.1) hst).trans habstract⟩

theorem Graph.IsAbstractRoot.lt_size (h : g.IsAbstractRoot i) : i < g.size := by
  obtain ⟨n, hn, -⟩ := h
  exact Graph.lt_size_of_node? hn

end

namespace Build

open Schema

variable {env : Environment} {resolver : Resolver} {s t : State} {done done' : List Slot}
  {id i j : NodeId} {q : QName} {g : Global ElementDecl}

/-! ## Claims in order -/

/-- The element that counts for the name is one of those that were built. -/
def IsDone (ix : Index) (done : List Slot) (q : QName) : Prop :=
  ∃ g, ix.element? q = some g ∧ g.slot ∈ done

theorem IsDone.mono {ix : Index} (h : IsDone ix done q) (hsub : done ⊆ done') :
    IsDone ix done' q := by
  obtain ⟨g, hg, hslot⟩ := h
  exact ⟨g, hg, hsub hslot⟩

/-- No two nodes have one root, and every root is an element that was built. What is recorded of
the first claim to a class tells where the root of the element is, until the class is shared. -/
structure RootsApart (ix : Index) (s : State) (done : List Slot) : Prop where
  known : ∀ i q, s.graph.HasRoot i q → IsDone ix done q
  apart : ∀ i j q, s.graph.HasRoot i q → s.graph.HasRoot j q → i = j
  firsts : ∀ id f, s.context.roots.get? id = some f → IsDone ix done f.element ∧
    (s.graph.IsAbstractRoot id ∨ ∀ i, s.graph.HasRoot i f.element → i = id)
  distinct : ∀ id id' f f', s.context.roots.get? id = some f →
    s.context.roots.get? id' = some f' → f.element = f'.element → id = id'

namespace RootsApart

variable {ix : Index}

theorem mono (h : RootsApart ix s done) (hsub : done ⊆ done') : RootsApart ix s done' :=
  ⟨fun i q hq => (h.known i q hq).mono hsub, h.apart,
    fun id f hf => ⟨(h.firsts id f hf).1.mono hsub, (h.firsts id f hf).2⟩, h.distinct⟩

/-- A step that gives no roots. -/
theorem frame (h : RootsApart ix s done) (hroots : t.context.roots = s.context.roots)
    (hroot : ∀ i q, t.graph.HasRoot i q → s.graph.HasRoot i q)
    (habstract : ∀ i, s.graph.IsAbstractRoot i → t.graph.IsAbstractRoot i) :
    RootsApart ix t done where
  known i q hq := h.known i q (hroot i q hq)
  apart i j q hi hj := h.apart i j q (hroot i q hi) (hroot j q hj)
  firsts id f hf := by
    obtain ⟨hdone, hwhere⟩ := h.firsts id f (hroots ▸ hf)
    exact ⟨hdone, hwhere.imp (habstract id) fun honly i hi => honly i (hroot i _ hi)⟩
  distinct id id' f f' hf hf' := h.distinct id id' f f' (hroots ▸ hf) (hroots ▸ hf')

/-- What builds types gives no roots. -/
theorem quiet (h : RootsApart ix s done) (hq : Quiet s t) : RootsApart ix t done := by
  refine h.frame hq.roots (fun i q hi => ?_) fun i hi =>
    .congr (hq.standing i hi.lt_size) hi
  rcases Nat.lt_or_ge i s.graph.size with hlt | hge
  · exact (Graph.hasRoot_congr (hq.standing i hlt)).1 hi
  · obtain ⟨n, hn, hroot⟩ := hi
    rw [(hq.fresh i n hn hge).root] at hroot
    cases hroot

/-- A step that gives one node a root that no other node has. -/
theorem give (h : RootsApart ix s done) (hdone : IsDone ix done q)
    (hroots : t.context.roots = s.context.roots)
    (hroot : ∀ i q', t.graph.HasRoot i q' → s.graph.HasRoot i q' ∨ i = j ∧ q' = q)
    (hfree : ∀ i, s.graph.HasRoot i q → i = j)
    (hfirst : ∀ id f, s.context.roots.get? id = some f → f.element = q →
      s.graph.IsAbstractRoot id)
    (habstract : ∀ i, s.graph.IsAbstractRoot i → t.graph.IsAbstractRoot i) :
    RootsApart ix t done where
  known i q' hq' := by
    rcases hroot i q' hq' with hq' | ⟨-, rfl⟩
    · exact h.known i q' hq'
    · exact hdone
  apart i i' q' hi hi' := by
    rcases hroot i q' hi with hi | ⟨rfl, rfl⟩ <;> rcases hroot i' q' hi' with hi' | ⟨rfl, hq⟩
    · exact h.apart i i' q' hi hi'
    · exact hfree i (hq ▸ hi)
    · exact (hfree i' hi').symm
    · rfl
  firsts id f hf := by
    rw [hroots] at hf
    obtain ⟨hknown, hwhere⟩ := h.firsts id f hf
    refine ⟨hknown, ?_⟩
    rcases hwhere with hshared | honly
    · exact .inl (habstract id hshared)
    · by_cases hq : f.element = q
      · exact .inl (habstract id (hfirst id f hf hq))
      · exact .inr fun i hi => honly i ((hroot i _ hi).resolve_right fun ⟨_, he⟩ => hq he)
  distinct id id' f f' hf hf' := h.distinct id id' f f' (hroots ▸ hf) (hroots ▸ hf')

/-- The first claim to a class is recorded. -/
theorem record (h : RootsApart ix s done) {f : RootClaim} (hdone : IsDone ix done f.element)
    (honly : ∀ i, s.graph.HasRoot i f.element → i = id)
    (hnew : ∀ id' f', s.context.roots.get? id' = some f' → f'.element ≠ f.element) :
    RootsApart ix { s with context := { s.context with
      roots := s.context.roots.insert id f } } done := by
  have hget (id' : NodeId) : (s.context.roots.insert id f).get? id' =
      if id' = id then some f else s.context.roots.get? id' := Table.get?_insert _ _ _ _
  refine ⟨h.known, h.apart, fun id' f' hf' => ?_, fun id' id'' f' f'' hf' hf'' he => ?_⟩
  · rw [hget] at hf'
    split at hf'
    · rename_i hid
      obtain rfl := Option.some.inj hf'
      exact ⟨hdone, .inr fun i hi => (honly i hi).trans hid.symm⟩
    · exact h.firsts id' f' hf'
  · rw [hget] at hf' hf''
    split at hf' <;> split at hf''
    · rename_i hid hid'
      exact hid.trans hid'.symm
    · obtain rfl := Option.some.inj hf'
      exact absurd he.symm (hnew id'' f'' hf'')
    · obtain rfl := Option.some.inj hf''
      exact absurd he (hnew id' f' hf')
    · exact h.distinct id' id'' f' f'' hf' hf'' he

end RootsApart

/-! ## One claim -/

/-- A class is made for an element, if there is none yet. -/
theorem rootClass_apart {ix : Index} {base : NodeId} {document : Document}
    (h : RootsApart ix s done) (hdone : IsDone ix done q) (hfree : ∀ i, ¬ s.graph.HasRoot i q)
    (hfirst : ∀ id f, s.context.roots.get? id = some f → f.element = q →
      s.graph.IsAbstractRoot id)
    (hdoc : document ∈ env.index.documents)
    (hrun : rootClass env base q document s = .ok ((), t)) :
    RootsApart ix t done ∧ t.context.roots = s.context.roots ∧
      ∀ i q', t.graph.HasRoot i q' → s.graph.HasRoot i q' ∨ q' = q := by
  rcases rootClass_cases hdoc hrun with ⟨-, rfl⟩ | ⟨n, s₁, hcreate, hmade, rfl⟩
  · exact ⟨h, rfl, fun _ _ => .inl⟩
  have hroots : s₁.context.roots = s.context.roots :=
    (congrArg Context.roots hcreate.context).trans (Context.roots_remember _ _ _ _)
  have hstanding := (Graph.Still.setBase (g := s₁.graph) s.graph.size base).standing
  -- The new node is the only one that gets the root.
  have hroot (i : NodeId) (q' : QName) (hi : s₁.graph.HasRoot i q') :
      s.graph.HasRoot i q' ∨ i = s.graph.size ∧ q' = q := by
    obtain ⟨m, hm, hq'⟩ := hi
    rw [hcreate.node?] at hm
    split at hm
    · rename_i hnew
      obtain rfl := Option.some.inj hm
      exact .inr ⟨hnew, Option.some.inj (hq'.symm.trans hmade.root)⟩
    · exact .inl ⟨m, hm, hq'⟩
  have habstract (i : NodeId) (hi : s.graph.IsAbstractRoot i) : s₁.graph.IsAbstractRoot i := by
    refine Graph.IsAbstractRoot.congr ?_ hi
    rw [hcreate.node?, if_neg (Nat.ne_of_lt hi.lt_size)]
  have h₁ : RootsApart ix s₁ done :=
    h.give hdone hroots hroot (fun i hi => absurd hi (hfree i)) hfirst habstract
  refine ⟨h₁.frame rfl (fun i q' => (Graph.hasRoot_congr (hstanding i)).1) fun i hi =>
    .congr (hstanding i) hi, hroots, fun i q' hi => ?_⟩
  exact (hroot i q' ((Graph.hasRoot_congr (hstanding i)).1 hi)).imp_right And.right

namespace RootsApart

section
variable {ix : Index} (h : RootsApart ix s done)
include h

/-- An element that is not built yet is no root. -/
theorem free (hnew : ¬ IsDone ix done q) (i : NodeId) : ¬ s.graph.HasRoot i q :=
  fun hi => hnew (h.known i q hi)

theorem unrecorded (hnew : ¬ IsDone ix done q) (id : NodeId) (f : RootClaim)
    (hf : s.context.roots.get? id = some f) : f.element ≠ q :=
  fun he => hnew (he ▸ (h.firsts id f hf).1)

/-- A node gets the root of an element that is not built yet. -/
theorem setRoot (hnew : ¬ IsDone ix done q) (hsub : done ⊆ done') (hdone : IsDone ix done' q)
    (id : NodeId) :
    RootsApart ix { s with graph := s.graph.modify id fun n => { n with root := some q } } done' ∧
      ∀ i, (s.graph.modify id fun n => { n with root := some q }).HasRoot i q → i = id := by
  have hroot (i : NodeId) (q' : QName)
      (hi : (s.graph.modify id fun n => { n with root := some q }).HasRoot i q') :
      s.graph.HasRoot i q' ∨ i = id ∧ q' = q := by
    obtain ⟨m, hm, hq'⟩ := hi
    rw [Graph.node?_modify] at hm
    split at hm
    · rename_i hid
      obtain ⟨n, -, rfl⟩ := Option.map_eq_some_iff.1 hm
      exact .inr ⟨hid, (Option.some.inj hq').symm⟩
    · exact .inl ⟨m, hm, hq'⟩
  refine ⟨(h.mono hsub).give hdone rfl hroot (fun i hi => absurd hi (h.free hnew i))
    (fun id f hf he => absurd he (h.unrecorded hnew id f hf)) ?_, fun i hi => ?_⟩
  · rintro i ⟨n, hn, habstract⟩
    refine ⟨if i = id then { n with root := some q } else n, ?_, ?_⟩
    · rw [Graph.node?_modify, hn]
      split <;> rfl
    · split <;> exact habstract
  · exact ((hroot i q hi).resolve_left (h.free hnew i)).1

/-- A class that is demoted has no root any more. -/
theorem demoted (hrun : demote id s = .ok ((), t)) :
    RootsApart ix t done ∧ t.context.roots = s.context.roots ∧
      (∀ i q, t.graph.HasRoot i q → s.graph.HasRoot i q ∧ i ≠ id) ∧
      ((s.graph.node? id).isSome → t.graph.IsAbstractRoot id) := by
  obtain ⟨change, rfl, hchange⟩ := demote_changes hrun
  have hroot (i : NodeId) (q : QName) (hi : (s.graph.modify id change).HasRoot i q) :
      s.graph.HasRoot i q ∧ i ≠ id := by
    obtain ⟨m, hm, hq⟩ := hi
    rw [Graph.node?_modify] at hm
    split at hm
    · obtain ⟨n, -, rfl⟩ := Option.map_eq_some_iff.1 hm
      exact absurd ((hchange n).1.symm.trans hq) nofun
    · rename_i hid
      exact ⟨⟨m, hm, hq⟩, hid⟩
  refine ⟨h.frame rfl (fun i q hi => (hroot i q hi).1) ?_, rfl, hroot, fun hsome => ?_⟩
  · rintro i ⟨n, hn, habstract⟩
    by_cases hid : i = id
    · exact ⟨change n, by rw [Graph.node?_modify, if_pos hid, hn]; rfl, (hchange n).2.1⟩
    · exact ⟨n, by rw [Graph.node?_modify, if_neg hid, hn], habstract⟩
  · obtain ⟨n, hn⟩ := Option.isSome_iff_exists.1 hsome
    exact ⟨change n, by rw [Graph.node?_modify, if_pos rfl, hn]; rfl, (hchange n).2.1⟩

end

/-- A class that a second element claims is shared: it has no root any more, and the elements get
classes for them. -/
theorem share {home document : Document} {f : RootClaim} {s₁ s₂ : State}
    (h : RootsApart env.index s done)
    (hnew : ¬ IsDone env.index done q) (hsub : done ⊆ done') (hdone : IsDone env.index done' q)
    (hsome : (s.graph.node? id).isSome) (hf : s.context.roots.get? id = some f)
    (honly : ∀ i, s.graph.HasRoot i f.element → i = id)
    (hhome : home ∈ env.index.documents) (hdoc : document ∈ env.index.documents)
    (hdemote : demote id s = .ok ((), s₁))
    (hfirst : rootClass env id f.element home s₁ = .ok ((), s₂))
    (hrun : rootClass env id q document s₂ = .ok ((), t)) : RootsApart env.index t done' := by
  obtain ⟨h₁, hroots₁, hroot₁, hshared⟩ := h.demoted hdemote
  -- The class was the only node with its first root, and has none now.
  obtain ⟨h₂, hroots₂, hroot₂⟩ := rootClass_apart h₁ (h.firsts id f hf).1
    (fun i hi => (hroot₁ i _ hi).2 (honly i (hroot₁ i _ hi).1))
    (fun id' f' hf' he => by
      rw [hroots₁] at hf'
      exact h.distinct id' id f' f hf' hf he ▸ hshared hsome) hhome hfirst
  have hroots : s₂.context.roots = s.context.roots := hroots₂.trans hroots₁
  refine (rootClass_apart (h₂.mono hsub) hdone (fun i hi => ?_)
    (fun id f hf he => absurd he (h.unrecorded hnew id f (hroots ▸ hf))) hdoc hrun).1
  rcases hroot₂ i q hi with hi | he
  · exact h.free hnew i (hroot₁ i q hi).1
  · exact h.unrecorded hnew id f hf he.symm

/-- An element that is not built yet claims a class. -/
theorem claimRoot {document : Document} (h : RootsApart env.index s done)
    (hnew : ¬ IsDone env.index done q) (hsub : done ⊆ done')
    (hdone : IsDone env.index done' q) (hsome : (s.graph.node? id).isSome)
    (hdoc : document ∈ env.index.documents)
    (hrun : Build.claimRoot env id q document s = .ok ((), t)) : RootsApart env.index t done' := by
  cases claimRoot_cases hrun with
  | further _ hroot =>
    exact (rootClass_apart (h.mono hsub) hdone (h.free hnew)
      (fun id f hf he => absurd he (h.unrecorded hnew id f hf)) hdoc hroot).1
  | first _ _ ht =>
    obtain ⟨h₁, honly⟩ := h.setRoot hnew hsub hdone id
    exact ht ▸ h₁.record hdone honly (h.unrecorded hnew)
  | second hshared hf hhome hdemote hfirst hroot =>
    have hown : ¬ s.graph.IsAbstractRoot id := by
      rintro ⟨n, hn, habstract⟩
      rw [hn, Option.any_some, habstract] at hshared
      cases hshared
    exact h.share hnew hsub hdone hsome hf ((h.firsts id _ hf).2.resolve_left hown)
      (Index.mem_documents_of_document? hhome) hdoc hdemote hfirst hroot

/-- An element that is not built yet claims what its type comes to. -/
theorem claimClass {v : ValueType} (h : RootsApart env.index s done)
    (hg : env.index.element? g.definition.name = some g) (hnew : g.slot ∉ done)
    (hrun : Build.claimClass env g.definition g.document v s = .ok ((), t)) :
    RootsApart env.index t (g.slot :: done) := by
  have hsub : done ⊆ g.slot :: done := List.subset_cons_self _ _
  have hdone : IsDone env.index (g.slot :: done) g.definition.name := ⟨g, hg, List.mem_cons_self⟩
  have hundone : ¬ IsDone env.index done g.definition.name := by
    rintro ⟨g', hg', hslot⟩
    obtain rfl := Option.some.inj (hg.symm.trans hg')
    exact hnew hslot
  cases v with
  | primitive p =>
    obtain ⟨-, rfl⟩ := pure_ok.1 hrun
    exact h.mono hsub
  | node id =>
    rw [Build.claimClass, getGraph_bind] at hrun
    split at hrun
    · obtain ⟨-, rfl⟩ := pure_ok.1 hrun
      exact h.mono hsub
    · rename_i hclass
      split at hrun
      · rw [modifyGraph_ok.1 hrun]
        exact (h.setRoot hundone hsub hdone id).1
      · have hsome : (s.graph.class? id).isSome := by
          rwa [Option.isNone_iff_eq_none, ← ne_eq, ← Option.isSome_iff_ne_none] at hclass
        obtain ⟨n, hn, -⟩ := Graph.class?_isSome.1 hsome
        exact h.claimRoot hundone hsub hdone (Option.isSome_iff_exists.2 ⟨n, hn⟩)
          (Index.mem_documents_of_element? hg) hrun

theorem topLevelElement (h : RootsApart env.index s done)
    (hg : env.index.element? g.definition.name = some g) (hnew : g.slot ∉ done)
    (hrun : Build.topLevelElement env (.ofGlobal .elements g) s = .ok ((), t)) :
    RootsApart env.index t (g.slot :: done) := by
  obtain ⟨resolved, s₁, s₂, htype, hjoin, hrun⟩ := topLevelElement_cases hrun
  have h₁ := h.quiet (globalElementType_quiet hg htype)
  have h₂ : RootsApart env.index s₂ done := by
    rcases hjoin with ⟨-, rfl⟩ | ⟨head, -, rfl⟩
    · exact h₁
    · exact h₁.frame rfl (fun _ _ => id) fun _ => id
  exact h₂.claimClass hg hnew hrun

end RootsApart

/-! ## All claims -/

/-- The declarations that are left are built one after the other, each element for the first
time. -/
theorem RootsApart.tasks {xs : List Task} (h : RootsApart env.index s done)
    (hcounts : ∀ x ∈ xs, x.Counts env.index) (hnodup : xs.Nodup)
    (hnew : ∀ g, Task.element g ∈ xs → g.slot ∉ done)
    (hrun : xs.forM (Task.run env) s = .ok ((), t)) : ∃ done', RootsApart env.index t done' := by
  induction xs generalizing s done with
  | nil =>
    obtain ⟨-, rfl⟩ := pure_ok.1 hrun
    exact ⟨done, h⟩
  | cons x xs ih =>
    change (x.run env >>= fun _ => xs.forM (Task.run env)) s = _ at hrun
    rw [bind_ok] at hrun
    obtain ⟨_, u, hx, hrun⟩ := hrun
    obtain ⟨hnot, hleft⟩ := List.nodup_cons.1 hnodup
    have hrest (y : Task) (hy : y ∈ xs) : y.Counts env.index :=
      hcounts y (List.mem_cons_of_mem x hy)
    have hcount := hcounts x List.mem_cons_self
    cases x with
    | type name g =>
      simp only [Task.run, bind_ok, pure_ok] at hx
      obtain ⟨id, s₁, htype, -, rfl⟩ := hx
      exact ih (h.quiet (globalType_quiet hcount.1 htype)) hrest hleft
        (fun g' hg' => hnew g' (List.mem_cons_of_mem _ hg')) hrun
    | element g =>
      refine ih (h.topLevelElement hcount (hnew g List.mem_cons_self) hx) hrest hleft
        (fun g' hg' hmem => ?_) hrun
      rcases List.mem_cons.1 hmem with hslot | hmem
      · -- At one place there is one element, which is not built twice.
        obtain rfl := Index.element?_eq_of_slot (hrest _ hg') hcount hslot
        exact hnot hg'
      · exact hnew g' (List.mem_cons_of_mem _ hg') hmem

/-- While a schema is built, no two nodes get one root, and roots are elements that count. -/
theorem run_apart (h : run env resolver = .ok s) : ∃ done, RootsApart env.index s done := by
  have hstart : RootsApart env.index { resolver } [] := by
    refine ⟨?_, ?_, nofun, nofun⟩
    · rintro i q ⟨n, hn, -⟩
      cases hn
    · rintro i j q ⟨n, hn, -⟩
      cases hn
  exact hstart.tasks (fun x => mem_tasks_iff.1) (nodup_tasks _) (fun _ _ => nofun) (run_eq h)

end Build

end XmlTypes
