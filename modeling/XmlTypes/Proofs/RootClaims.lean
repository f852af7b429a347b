import XmlTypes.Proofs.RootClasses
/-!
# Claims to root elements

Global elements claim the classes of their types one after the other. The elements that have
claimed a class so far, in order, decide what is recorded on it: the first one is its root element,
and as soon as there are two it is the abstract base of a class for each of them (`Rooted`).
-/

namespace XmlTypes.Build

open Schema

variable {env : Environment} {s t : State} {g : Global ElementDecl} {id : NodeId} {c : Claim}

/-- The elements that have claimed a class, in order. -/
def claimants (claims : List Claim) (id : NodeId) : List (Global ElementDecl) :=
  (claims.filter (·.node = id)).map (·.element)

section
variable {claims : List Claim}

theorem mem_claimants : g ∈ claimants claims id ↔ ⟨g, id⟩ ∈ claims := by
  simp only [claimants, List.mem_map, List.mem_filter, decide_eq_true_eq]
  constructor
  · rintro ⟨⟨g', id'⟩, ⟨hmem, hid⟩, hg⟩
    simp only at hid hg
    exact hid ▸ hg ▸ hmem
  · exact fun h => ⟨_, ⟨h, rfl⟩, rfl⟩

theorem claimants_append (claims : List Claim) (c : Claim) (id : NodeId) :
    claimants (claims ++ [c]) id =
      claimants claims id ++ if c.node = id then [c.element] else [] := by
  unfold claimants
  rw [List.filter_append, List.map_append]
  by_cases h : c.node = id <;> simp [h]

theorem claimants_append_self :
    claimants (claims ++ [⟨g, id⟩]) id = claimants claims id ++ [g] := by
  rw [claimants_append, if_pos rfl]

theorem claimants_append_of_ne {j : NodeId} (h : j ≠ id) :
    claimants (claims ++ [⟨g, id⟩]) j = claimants claims j := by
  rw [claimants_append, if_neg (Ne.symm h), List.append_nil]

/-- A claim to a class that is claimed more than once. -/
def Shared (claims : List Claim) (c : Claim) : Prop :=
  c ∈ claims ∧ 2 ≤ (claimants claims c.node).length

theorem shared_append_first (h : claimants claims id = []) :
    Shared (claims ++ [⟨g, id⟩]) c ↔ Shared claims c := by
  unfold Shared
  rw [claimants_append, List.mem_append, List.mem_singleton]
  by_cases hc : id = c.node
  · subst hc
    simp [h]
  · have hne : c ≠ ⟨g, id⟩ := fun he => hc (he ▸ rfl)
    simp [hc, hne]

theorem shared_append_second {f : Global ElementDecl} (h : claimants claims id = [f]) :
    Shared (claims ++ [⟨g, id⟩]) c ↔ (Shared claims c ∨ c = ⟨f, id⟩) ∨ c = ⟨g, id⟩ := by
  unfold Shared
  rw [claimants_append, List.mem_append, List.mem_singleton]
  have hf : c = ⟨f, id⟩ ↔ c ∈ claims ∧ c.node = id := by
    constructor
    · rintro rfl
      exact ⟨mem_claimants.1 (h ▸ List.mem_singleton_self f), rfl⟩
    · rintro ⟨hmem, rfl⟩
      have : c.element ∈ claimants claims c.node := mem_claimants.2 hmem
      rw [h, List.mem_singleton] at this
      exact this ▸ rfl
  by_cases hc : id = c.node
  · subst hc
    simp [h, hf]
  · have hne : c ≠ ⟨g, id⟩ := fun he => hc (he ▸ rfl)
    have hne' : c ≠ ⟨f, id⟩ := fun he => hc (he ▸ rfl)
    simp [hc, hne, hne']

theorem shared_append_further (h : 2 ≤ (claimants claims id).length) :
    Shared (claims ++ [⟨g, id⟩]) c ↔ Shared claims c ∨ c = ⟨g, id⟩ := by
  unfold Shared
  rw [claimants_append, List.mem_append, List.mem_singleton]
  by_cases hc : id = c.node
  · subst hc
    simp only [if_true, List.length_append, List.length_singleton, h, and_true]
    exact and_iff_left (Nat.le_succ_of_le h)
  · have hne : c ≠ ⟨g, id⟩ := fun he => hc (he ▸ rfl)
    simp [hc, hne]

end

/-- What the elements that have claimed a class make of it. -/
structure ClaimedBy (elements : List (Global ElementDecl)) (n : Node) : Prop where
  isAbstractRoot : n.isAbstractRoot = true ↔ 2 ≤ elements.length
  isAbstract : 2 ≤ elements.length → n.class?.map (·.isAbstract) = some true

/-- The root element of a class that the given elements have claimed. -/
def rootOf : List (Global ElementDecl) → Option QName
  | [g] => some g.definition.name
  | _ => none

theorem rootOf_eq_none {elements : List (Global ElementDecl)} (h : 2 ≤ elements.length) :
    rootOf elements = none := by
  match elements, h with
  | _ :: _ :: _, _ => rfl

/-- What is recorded about root elements follows from the elements that have claimed classes, by
the name of a type and in place, each in order. -/
structure Rooted (env : Environment) (s : State) (claims inPlace : List Claim) : Prop where
  /-- No element claims twice. -/
  distinct : (claims.map Claim.name).Nodup
  named : ∀ c ∈ claims, env.index.element? c.name = some c.element ∧
    NamedFor env s c.element c.node ∧ (s.graph.class? c.node).isSome
  given : ∀ c ∈ inPlace, env.index.element? c.name = some c.element ∧
    InPlaceFor s c.element c.node ∧ (s.graph.class? c.node).isSome
  first : ∀ id, s.context.roots.get? id = (claimants claims id).head?.map fun g =>
    ⟨g.definition.name, g.document.location⟩
  claimed : ∀ id n, s.graph.node? id = some n → ClaimedBy (claimants claims id) n
  root : ∀ id n, s.graph.node? id = some n → claimants claims id ≠ [] →
    (∀ c ∈ inPlace, c.node ≠ id) → n.root = rootOf (claimants claims id)
  rootInPlace : ∀ c ∈ inPlace, claimants claims c.node = [] →
    (∀ c' ∈ inPlace, c'.node = c.node → c'.name = c.name) →
    ∀ n, s.graph.node? c.node = some n → n.root = some c.name
  classes : RootClasses s (Shared claims)
  /-- Nobody shares a class of an empty name, which is a new one each time. -/
  names : ∀ c, Shared claims c → Names c.element

/-- A node that no element has claimed is not an abstract root. -/
theorem ClaimedBy.nil {n : Node} (h : n.isAbstractRoot = false) : ClaimedBy [] n := by
  refine ⟨?_, nofun⟩
  rw [h]
  exact ⟨nofun, nofun⟩

theorem ClaimedBy.congr {elements : List (Global ElementDecl)} {m n : Node}
    (h : ClaimedBy elements m) (hst : n.standing = m.standing) : ClaimedBy elements n := by
  simp only [Node.standing, Prod.mk.injEq] at hst
  obtain ⟨-, -, -, hr, ha⟩ := hst
  exact ⟨hr ▸ h.isAbstractRoot, fun hl => ha.trans (h.isAbstract hl)⟩

namespace Rooted

variable {claims inPlace : List Claim}

theorem claimants_eq_nil (h : Rooted env s claims inPlace) {j : NodeId}
    (hj : s.graph.size ≤ j) : claimants claims j = [] := by
  refine List.eq_nil_iff_forall_not_mem.2 fun g hg => ?_
  obtain ⟨n, hn, -⟩ := Graph.class?_isSome.1 (h.named _ (mem_claimants.1 hg)).2.2
  exact absurd (Graph.lt_size_of_node? hn) (Nat.not_lt.2 hj)

theorem lt_size (h : Rooted env s claims inPlace) {j : NodeId} (hne : claimants claims j ≠ []) :
    j < s.graph.size :=
  Nat.lt_of_not_le fun hge => hne (h.claimants_eq_nil hge)

/-- What builds types has nothing to do with claims: a node that is claimed was there before, and
has the same standing. -/
theorem build (h : Rooted env s claims inPlace) (he : Evolves env none s t) (hq : Quiet s t) :
    Rooted env t claims inPlace where
  distinct := h.distinct
  named c hc := by
    obtain ⟨hg, hnamed, hclass⟩ := h.named c hc
    exact ⟨hg, hnamed.mono he.extend, he.extend.graph.class? hclass⟩
  given c hc := by
    obtain ⟨hg, hin, hclass⟩ := h.given c hc
    exact ⟨hg, hin.mono he.extend, he.extend.graph.class? hclass⟩
  first id := hq.roots ▸ h.first id
  claimed id n hn := by
    rcases Nat.lt_or_ge id s.graph.size with hlt | hge
    · obtain ⟨m, hm, hst⟩ := exists_of_standing (hq.standing id hlt).symm hn
      exact (h.claimed id m hm).congr hst.symm
    · rw [h.claimants_eq_nil hge]
      exact .nil (hq.fresh id n hn hge).isAbstractRoot
  root id n hn hne hin := by
    obtain ⟨m, hm, hst⟩ := exists_of_standing (hq.standing id (h.lt_size hne)).symm hn
    exact (congrArg (·.2.2.1) hst).symm.trans (h.root id m hm hne hin)
  rootInPlace c hc hnil hsame n hn := by
    obtain ⟨_, hlt, -⟩ := Graph.class?_isSome.1 (h.given c hc).2.2
    obtain ⟨m, hm, hst⟩ :=
      exists_of_standing (hq.standing _ (Graph.lt_size_of_node? hlt)).symm hn
    exact (congrArg (·.2.2.1) hst).symm.trans (h.rootInPlace c hc hnil hsame m hm)
  classes := h.classes.build he hq
  names := h.names

/-- A claim to a class, by the name of its type, concerns the class alone. -/
theorem claim (h : Rooted env s claims inPlace) (he : Extends s t)
    (hg : env.index.element? g.definition.name = some g) (hnamed : NamedFor env s g id)
    (hclass : (s.graph.class? id).isSome) (hnew : ∀ c ∈ claims, c.name ≠ g.definition.name)
    (hfirst : t.context.roots.get? id = (claimants claims id ++ [g]).head?.map fun g =>
      ⟨g.definition.name, g.document.location⟩)
    (hroots : ∀ j, j ≠ id → t.context.roots.get? j = s.context.roots.get? j)
    (hst : ∀ j, j < s.graph.size → j ≠ id →
      (t.graph.node? j).map Node.standing = (s.graph.node? j).map Node.standing)
    (hfresh : ∀ j n, t.graph.node? j = some n → s.graph.size ≤ j → n.isAbstractRoot = false)
    (hclaimed : ∀ n, t.graph.node? id = some n → ClaimedBy (claimants claims id ++ [g]) n ∧
      ((∀ c ∈ inPlace, c.node ≠ id) → n.root = rootOf (claimants claims id ++ [g])))
    (hclasses : RootClasses t (Shared (claims ++ [⟨g, id⟩])))
    (hnames : ∀ c, Shared (claims ++ [⟨g, id⟩]) c → Names c.element) :
    Rooted env t (claims ++ [⟨g, id⟩]) inPlace where
  distinct := by
    rw [List.map_append, List.nodup_append]
    refine ⟨h.distinct, List.nodup_singleton _, ?_⟩
    intro a ha b hb hab
    obtain ⟨c, hc, rfl⟩ := List.mem_map.1 ha
    exact hnew c hc (hab.trans (List.mem_singleton.1 hb))
  named c hc := by
    rcases List.mem_append.1 hc with hc | hc
    · obtain ⟨hg, hnamed, hclass⟩ := h.named c hc
      exact ⟨hg, hnamed.mono he, he.graph.class? hclass⟩
    · obtain rfl := List.mem_singleton.1 hc
      exact ⟨hg, hnamed.mono he, he.graph.class? hclass⟩
  given c hc := by
    obtain ⟨hg, hin, hclass⟩ := h.given c hc
    exact ⟨hg, hin.mono he, he.graph.class? hclass⟩
  first j := by
    by_cases hj : j = id
    · rw [hj, claimants_append_self, hfirst]
    · rw [claimants_append_of_ne hj, hroots j hj, h.first]
  claimed j n hn := by
    by_cases hj : j = id
    · subst hj
      rw [claimants_append_self]
      exact (hclaimed n hn).1
    · rw [claimants_append_of_ne hj]
      rcases Nat.lt_or_ge j s.graph.size with hlt | hge
      · obtain ⟨m, hm, hst⟩ := exists_of_standing (hst j hlt hj).symm hn
        exact (h.claimed j m hm).congr hst.symm
      · rw [h.claimants_eq_nil hge]
        exact .nil (hfresh j n hn hge)
  root j n hn hne hin := by
    by_cases hj : j = id
    · subst hj
      rw [claimants_append_self]
      exact (hclaimed n hn).2 hin
    · rw [claimants_append_of_ne hj] at hne ⊢
      obtain ⟨m, hm, hst⟩ := exists_of_standing (hst j (h.lt_size hne) hj).symm hn
      exact (congrArg (·.2.2.1) hst).symm.trans (h.root j m hm hne hin)
  rootInPlace c hc hnil hsame n hn := by
    -- The class that is claimed now is not one that no element has claimed by name.
    have hne : c.node ≠ id := by
      intro he
      rw [he, claimants_append_self] at hnil
      exact List.cons_ne_nil _ _ (List.append_eq_nil_iff.1 hnil).2
    rw [claimants_append_of_ne hne] at hnil
    obtain ⟨_, hlt, -⟩ := Graph.class?_isSome.1 (h.given c hc).2.2
    obtain ⟨m, hm, hst⟩ := exists_of_standing (hst _ (Graph.lt_size_of_node? hlt) hne).symm hn
    exact (congrArg (·.2.2.1) hst).symm.trans (h.rootInPlace c hc hnil hsame m hm)
  classes := hclasses
  names := hnames

end Rooted

/-- The class of a type that is given in place gets its element as root. -/
theorem Rooted.give {claims inPlace : List Claim} (h : Rooted env s claims inPlace)
    (hg : env.index.element? g.definition.name = some g) (hin : InPlaceFor s g id)
    (hclass : (s.graph.class? id).isSome)
    (ht : modifyGraph (·.modify id fun n => { n with root := some g.definition.name }) s =
      .ok ((), t)) : Rooted env t claims (⟨g, id⟩ :: inPlace) := by
  rw [modifyGraph_ok] at ht
  have hchange : Change env none s t := ht ▸ .decorate (setRoot_decorates g.definition.name)
  have he := hchange.extend
  -- Only the root of the class itself is another one.
  have hnode {j : NodeId} {n : Node} (hn : t.graph.node? j = some n) :
      ∃ m, s.graph.node? j = some m ∧ n.isAbstractRoot = m.isAbstractRoot ∧ n.class? = m.class? ∧
        if j = id then n.root = some g.definition.name else n.root = m.root := by
    rw [ht, Graph.node?_modify] at hn
    split at hn
    · rename_i hj
      obtain ⟨m, hm, rfl⟩ := Option.map_eq_some_iff.1 hn
      exact ⟨m, hm, rfl, rfl, by rw [if_pos hj]⟩
    · rename_i hj
      exact ⟨n, hn, rfl, rfl, by rw [if_neg hj]⟩
  refine ⟨h.distinct, fun c hc => ?_, fun c hc => ?_, ht ▸ h.first, fun j n hn => ?_,
    fun j n hn hne hothers => ?_, fun c hc hnil hsame n hn => ?_,
    h.classes.modify he hin.opened.not_unopened (by rw [ht]) (by rw [ht]) (by rw [ht]), h.names⟩
  · obtain ⟨hg, hnamed, hclass⟩ := h.named c hc
    exact ⟨hg, hnamed.mono he, he.graph.class? hclass⟩
  · rcases List.mem_cons.1 hc with rfl | hc
    · exact ⟨hg, hin.mono he, he.graph.class? hclass⟩
    · obtain ⟨hg, hin, hclass⟩ := h.given c hc
      exact ⟨hg, hin.mono he, he.graph.class? hclass⟩
  · obtain ⟨m, hm, hroot, hclass, -⟩ := hnode hn
    have hclaimed := h.claimed j m hm
    exact ⟨hroot ▸ hclaimed.isAbstractRoot, fun hl => hclass ▸ hclaimed.isAbstract hl⟩
  · obtain ⟨m, hm, -, -, hroot⟩ := hnode hn
    rw [if_neg fun he => hothers _ List.mem_cons_self he.symm] at hroot
    exact hroot.trans (h.root j m hm hne fun c hc => hothers c (List.mem_cons_of_mem _ hc))
  · obtain ⟨m, hm, -, -, hroot⟩ := hnode hn
    by_cases hid : c.node = id
    · rw [if_pos hid] at hroot
      exact hroot.trans (congrArg some (hsame _ List.mem_cons_self hid.symm))
    · rw [if_neg hid] at hroot
      have hc : c ∈ inPlace :=
        (List.mem_cons.1 hc).resolve_left fun he => hid (congrArg Claim.node he)
      exact hroot.trans (h.rootInPlace c hc hnil
        (fun c' hc' => hsame c' (List.mem_cons_of_mem _ hc')) m hm)

/-- The graph after a class is demoted: nothing but the class is changed. -/
theorem demote_changes (h : demote id s = .ok ((), t)) :
    ∃ f : Node → Node, t = { s with graph := s.graph.modify id f } ∧
      ∀ n, (f n).root = none ∧ (f n).isAbstractRoot = true ∧
        (n.isClass = true → (f n).class?.map (·.isAbstract) = some true) := by
  refine ⟨_, modifyGraph_ok.1 h, fun n => ?_⟩
  rcases n with ⟨_, _, _, _, _, _, _, k⟩
  cases k <;> simp [Node.mapClass, Node.class?, Node.isClass]

section
variable {claims inPlace : List Claim} (h : Rooted env s claims inPlace)

include h in
/-- No class is made for an element that shares no class with others. -/
theorem Rooted.get?_rootKey (hno : ∀ c, Shared claims c → c.name ≠ g.definition.name) :
    s.context.cache.get? (rootKey g) = none := by
  cases hk : s.context.cache.get? (rootKey g) with
  | none => rfl
  | some r =>
    obtain ⟨c, hc, he⟩ := h.classes.keys _ r rfl hk
    exact absurd (congrArg CacheKey.name he).symm (hno c hc)

include h in
theorem Rooted.get?_rootKey_of_single (hg : claimants claims id = [g]) :
    s.context.cache.get? (rootKey g) = none := by
  refine h.get?_rootKey fun c hc he => ?_
  have hmem : ⟨g, id⟩ ∈ claims := mem_claimants.1 (hg ▸ List.mem_singleton_self g)
  obtain rfl : c = ⟨g, id⟩ := List.inj_on_of_nodup_map h.distinct hc.1 hmem he
  have hlen := hc.2
  rw [hg] at hlen
  exact absurd hlen (Nat.not_le.2 (Nat.lt_succ_self 1))

variable (hix : env.index.Lawful) (hs : Sound env s) (hid : ¬ Unopened s id)
  (hg : env.index.element? g.definition.name = some g) (hnamed : NamedFor env s g id)
  (hclass : (s.graph.class? id).isSome) (hnew : ∀ c ∈ claims, c.name ≠ g.definition.name)
  (hnames : ∀ c, Shared (claims ++ [⟨g, id⟩]) c → Names c.element)
  (hrun : claimRoot env id g.definition.name g.document s = .ok ((), t))
include h hid hg hnamed hclass hnew hnames hrun

/-- A class that no element has claimed gets its first root element. -/
theorem claimRoot_first (hnil : claimants claims id = []) :
    Rooted env t (claims ++ [⟨g, id⟩]) inPlace := by
  have he := (claimRoot_ok (Index.mem_documents_of_element? hg) hclass hrun).extend
  obtain ⟨n, hn, hclass'⟩ := Graph.class?_isSome.1 hclass
  have habstract : n.isAbstractRoot = false := by
    rw [Bool.eq_false_iff, ne_eq, (h.claimed id n hn).isAbstractRoot, hnil]
    exact nofun
  have hroots : s.context.roots.get? id = none := by rw [h.first, hnil]; rfl
  obtain rfl : t = _ := by
    cases claimRoot_cases hrun with
    | further hshared _ => simp [hn, habstract] at hshared
    | first _ _ ht => exact ht
    | second _ hf => cases hroots.symm.trans hf
  refine h.claim he hg hnamed hclass hnew ?_ (fun j hj => ?_) (fun j _ hj => ?_)
    (fun j m hm hj => ?_) (fun m hm => ?_) ?_ hnames
  · rw [hnil]
    exact (Table.get?_insert _ _ _ _).trans (if_pos rfl)
  · exact (Table.get?_insert _ _ _ _).trans (if_neg hj)
  · rw [Graph.node?_modify, if_neg hj]
  · have hlt := Graph.lt_size_of_node? hm
    rw [Graph.size_modify] at hlt
    exact absurd hj (Nat.not_le.2 hlt)
  · rw [Graph.node?_modify, if_pos rfl, hn, Option.map_some, Option.some.injEq] at hm
    rw [hnil, ← hm]
    have hone : ¬ 2 ≤ ([] ++ [g]).length := Nat.not_succ_le_self 1
    refine ⟨⟨?_, fun hlen => absurd hlen hone⟩, fun _ => rfl⟩
    exact iff_of_false (ne_true_of_eq_false habstract) hone
  · exact (h.classes.modify he hid rfl rfl rfl).congr fun c => (shared_append_first hnil).symm

omit hid in
/-- A class that several elements have claimed is the base of a class for each further one. -/
theorem claimRoot_further (hs : Sound env s) (hlen : 2 ≤ (claimants claims id).length) :
    Rooted env t (claims ++ [⟨g, id⟩]) inPlace := by
  obtain ⟨n, hn, -⟩ := Graph.class?_isSome.1 hclass
  have habstract := (h.claimed id n hn).isAbstractRoot.2 hlen
  have hm : Makes env s t ⟨g, id⟩ := by
    cases claimRoot_cases hrun with
    | further _ hroot =>
      exact rootClass_makes (Index.mem_documents_of_element? hg) hclass rfl
        (h.get?_rootKey fun c hc => hnew c hc.1) hroot
    | first hshared => simp [hn, habstract] at hshared
    | second hshared => simp [hn, habstract] at hshared
  have hlen' : 2 ≤ (claimants claims id ++ [g]).length := by
    rw [List.length_append]
    omega
  have hne : claimants claims id ≠ [] := by
    intro hnil
    rw [hnil] at hlen
    cases hlen
  refine h.claim hm.evolves.extend hg hnamed hclass hnew ?_ (fun j _ => by rw [hm.roots])
    (fun j hj _ => hm.standing j hj) (fun j m hj hge => ?_) (fun m hm' => ?_)
    ((h.classes.makes hs hm).congr fun c => (shared_append_further hlen).symm) hnames
  · rw [hm.roots, h.first, List.head?_append_of_ne_nil _ hne]
  · exact hm.isAbstractRoot_of_new hj hge
  · have hst := hm.standing id (Graph.lt_size_of_node? hn)
    rw [hm', hn, Option.map_some, Option.map_some, Option.some.injEq] at hst
    have hclaimed := (h.claimed id n hn).congr hst
    refine ⟨⟨?_, fun _ => hclaimed.isAbstract hlen⟩, fun hin => ?_⟩
    · exact ⟨fun _ => hlen', fun _ => hclaimed.isAbstractRoot.2 hlen⟩
    · have hroot : m.root = n.root := congrArg (·.2.2.1) hst
      rw [hroot, h.root id n hn hne hin, rootOf_eq_none hlen, rootOf_eq_none hlen']

/-- A class that one element has claimed becomes the base of a class for each of the two. -/
theorem claimRoot_second (hix : env.index.Lawful) (hs : Sound env s) {f : Global ElementDecl}
    (hf : claimants claims id = [f]) : Rooted env t (claims ++ [⟨g, id⟩]) inPlace := by
  have hmem : ⟨f, id⟩ ∈ claims := mem_claimants.1 (hf ▸ List.mem_singleton_self f)
  obtain ⟨n, hn, hclass'⟩ := Graph.class?_isSome.1 hclass
  have habstract : n.isAbstractRoot = false := by
    rw [Bool.eq_false_iff, ne_eq, (h.claimed id n hn).isAbstractRoot, hf]
    exact Nat.not_le.2 (Nat.lt_succ_self 1)
  have hroots : s.context.roots.get? id = some ⟨f.definition.name, f.document.location⟩ := by
    rw [h.first, hf]
    rfl
  -- The class is demoted, then the first element and this one get a class each.
  obtain ⟨home, s₁, s₂, hhome, hdemote, hroot, hrun⟩ : ∃ home s₁ s₂,
      env.index.document? f.document.location = some home ∧ demote id s = .ok ((), s₁) ∧
      rootClass env id f.definition.name home s₁ = .ok ((), s₂) ∧
      rootClass env id g.definition.name g.document s₂ = .ok ((), t) := by
    cases claimRoot_cases hrun with
    | further hshared _ => simp [hn, habstract] at hshared
    | first _ hnone => cases hroots.symm.trans hnone
    | second _ hfirst hhome hdemote hroot hrun =>
      obtain rfl := Option.some.inj (hroots.symm.trans hfirst)
      exact ⟨_, _, _, hhome, hdemote, hroot, hrun⟩
  have he₁ : Evolves env none s s₁ := demote_ok hdemote
  obtain ⟨change, rfl, hchange⟩ := demote_changes hdemote
  have hs₁ := he₁.sound hs
  have hclass₁ := he₁.extend.graph.class? hclass
  have hclasses₁ := h.classes.modify he₁.extend hid rfl rfl rfl
  have hm₁ : Makes env _ s₂ ⟨f, id⟩ :=
    rootClass_makes (Index.mem_documents_of_document? hhome) hclass₁ (hix.locations _ _ hhome)
      (h.get?_rootKey_of_single hf) hroot
  have hkey' : s₂.context.cache.get? (rootKey g) = none := by
    cases hk : s₂.context.cache.get? (rootKey g) with
    | none => rfl
    | some r =>
      rcases hm₁.keys _ _ hk with hk | hk
      · cases (h.get?_rootKey fun c hc => hnew c hc.1).symm.trans hk
      · exact absurd (congrArg CacheKey.name hk).symm (hnew _ hmem)
  have hclass₂ := hm₁.evolves.extend.graph.class? hclass₁
  have hm₂ : Makes env s₂ t ⟨g, id⟩ :=
    rootClass_makes (Index.mem_documents_of_element? hg) hclass₂ rfl hkey' hrun
  have hclasses := (hclasses₁.makes hs₁ hm₁).makes (hm₁.evolves.sound hs₁) hm₂
  have hsize : s.graph.size ≤ s₂.graph.size := (he₁.trans hm₁.evolves).extend.graph.size
  have hst (j : NodeId) (hj : j < s.graph.size) : (t.graph.node? j).map Node.standing =
      ((s.graph.modify id change).node? j).map Node.standing := by
    rw [hm₂.standing j (Nat.lt_of_lt_of_le hj hsize), hm₁.standing j]
    rw [Graph.size_modify]
    exact hj
  refine h.claim (he₁.trans (hm₁.evolves.trans hm₂.evolves)).extend hg hnamed hclass hnew ?_
    (fun j _ => by rw [hm₂.roots, hm₁.roots]) (fun j hj hne => ?_) (fun j m hm hge => ?_)
    (fun m hm => ?_) (hclasses.congr fun c => (shared_append_second hf).symm) hnames
  · rw [hm₂.roots, hm₁.roots, hf]
    exact hroots
  · rw [hst j hj, Graph.node?_modify, if_neg hne]
  · rcases Nat.lt_or_ge j s₂.graph.size with hlt | hge'
    · -- The class for the first element.
      obtain ⟨m', hm', hst⟩ := exists_of_standing (hm₂.standing j hlt).symm hm
      have hnew' := hm₁.isAbstractRoot_of_new hm'
        (Nat.le_trans (Nat.le_of_eq (Graph.size_modify id change)) hge)
      exact (congrArg (·.2.2.2.1) hst).symm.trans hnew'
    · exact hm₂.isAbstractRoot_of_new hm hge'
  · have hst := hst id (Graph.lt_size_of_node? hn)
    rw [hm, Graph.node?_modify, if_pos rfl, hn, Option.map_some, Option.map_some,
      Option.map_some, Option.some.injEq] at hst
    obtain ⟨hnone, hshared, habstract⟩ := hchange n
    have hclaimed : ClaimedBy ([f] ++ [g]) (change n) :=
      ⟨⟨fun _ => Nat.le_refl _, fun _ => hshared⟩, fun _ => habstract hclass'⟩
    have hroot : m.root = (change n).root := congrArg (·.2.2.1) hst
    rw [hf]
    exact ⟨hclaimed.congr hst, fun _ => hroot.trans hnone⟩

/-- Whatever has claimed the class before. -/
theorem claimRoot_rooted (hix : env.index.Lawful) (hs : Sound env s) :
    Rooted env t (claims ++ [⟨g, id⟩]) inPlace := by
  match hf : claimants claims id with
  | [] => exact claimRoot_first h hid hg hnamed hclass hnew hnames hrun hf
  | [f] => exact claimRoot_second h hid hg hnamed hclass hnew hnames hrun hix hs hf
  | f :: f' :: fs =>
    exact claimRoot_further h hg hnamed hclass hnew hnames hrun hs (by rw [hf]; simp)

end

end XmlTypes.Build
