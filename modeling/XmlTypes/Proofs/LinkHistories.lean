import Mathlib.Data.List.Induction
import XmlTypes.Proofs.Links
/-!
# Links made one after the other

Links are made between classes and their bases, and between interfaces and what implements or
extends them, in any order and again and again. An interface and what refers to it always know one
another. A class keeps the base that it was given last, but every base that it was ever given goes
on to list it (`Made`), so the two ends of a base agree exactly where no other base was given
afterwards (`inverse_links_iff`).
-/

namespace XmlTypes.Graph

/-- A link between two nodes. -/
inductive Link
  | base (derived base : NodeId)
  | implementer (interface implementer : NodeId)
deriving DecidableEq, Repr

namespace Link

/-- Makes the link in a graph. -/
def make (g : Graph) : Link → Graph
  | base c b => g.setBase c b
  | implementer i m => g.addImplementer i m

/-- The link is between two classes, or between an interface and a class or an interface. -/
def Fits (g : Graph) : Link → Prop
  | base c b => (g.class? c).isSome ∧ (g.class? b).isSome
  | implementer i m => (g.interface? i).isSome ∧ ((g.class? m).isSome ∨ (g.interface? m).isSome)

instance (g : Graph) (l : Link) : Decidable (l.Fits g) := by
  cases l <;> unfold Fits <;> infer_instance

/-- The base that the link gives to a class. -/
def baseOf? (c : NodeId) : Link → Option NodeId
  | base derived b => if derived = c then some b else none
  | implementer .. => none

theorem baseOf?_eq_some {l : Link} {c b : NodeId} : l.baseOf? c = some b ↔ l = .base c b := by
  cases l with
  | base => simp [baseOf?]
  | implementer => simp [baseOf?]

end Link

/-- Makes some links, one after the other. -/
def linkAll (g : Graph) (links : List Link) : Graph := links.foldl Link.make g

theorem linkAll_concat (g : Graph) (links : List Link) (l : Link) :
    g.linkAll (links ++ [l]) = l.make (g.linkAll links) := by
  rw [linkAll, List.foldl_append]
  rfl

/-- The base that a class is given last. -/
def lastBase? (links : List Link) (c : NodeId) : Option NodeId :=
  links.reverse.findSome? (Link.baseOf? c)

/-- `b` is the base of `c` exactly if it lists `c` once. -/
def BaseAgrees (g : Graph) (c b : NodeId) : Prop :=
  g.base? c = some b ↔ (g.derivedClasses b).count c = 1

instance (g : Graph) (c b : NodeId) : Decidable (g.BaseAgrees c b) :=
  inferInstanceAs (Decidable (_ ↔ _))

/-- The links that a graph without any has once some were made. -/
structure Made (g : Graph) (links : List Link) : Prop where
  base : ∀ c, g.base? c = lastBase? links c
  derived : ∀ b c, c ∈ g.derivedClasses b ↔ .base c b ∈ links
  derived_once : ∀ b, (g.derivedClasses b).Nodup
  interfaces : ∀ m i, i ∈ g.interfaces m ↔ i ≠ m ∧ .implementer i m ∈ links
  implementers : ∀ i m, m ∈ g.implementersOf i ↔ i ≠ m ∧ .implementer i m ∈ links
  implementers_once : ∀ i, (g.implementersOf i).Nodup

section
variable {g g' : Graph} {links : List Link} {l : Link} {c b i m id : NodeId}

/-! ## The last base -/

theorem lastBase?_concat (links : List Link) (l : Link) (c : NodeId) :
    lastBase? (links ++ [l]) c = (l.baseOf? c).or (lastBase? links c) := by
  rw [lastBase?, List.reverse_append, List.findSome?_append]
  simp [lastBase?]

theorem mem_of_lastBase? (h : lastBase? links c = some b) : .base c b ∈ links := by
  obtain ⟨l, hl, hb⟩ := List.exists_of_findSome?_eq_some h
  exact Link.baseOf?_eq_some.1 hb ▸ List.mem_reverse.1 hl

theorem exists_lastBase? (h : .base c b ∈ links) : ∃ b', lastBase? links c = some b' := by
  cases hlast : lastBase? links c with
  | some b' => exact ⟨b', rfl⟩
  | none =>
    have hnone := List.findSome?_eq_none_iff.1 hlast _ (List.mem_reverse.2 h)
    rw [Link.baseOf?_eq_some.2 rfl] at hnone
    cases hnone

/-! ## Kinds of nodes -/

theorem isSome_class?_iff :
    (g.class? id).isSome ↔ (g.node? id).map (·.kind.label) = some "class" := by
  rw [class?_isSome, Option.map_eq_some_iff]
  exact exists_congr fun n => and_congr_right fun _ => Node.isClass_iff

theorem isSome_interface?_iff :
    (g.interface? id).isSome ↔ (g.node? id).map (·.kind.label) = some "interface" := by
  rw [interface?, Option.isSome_bind, Option.any_eq_true, Option.map_eq_some_iff]
  exact exists_congr fun n => and_congr_right fun _ => Node.isInterface_iff

theorem exists_interface (h : (g.interface? id).isSome) :
    ∃ n, g.node? id = some n ∧ n.isInterface = true := by
  obtain ⟨n, hn, hlabel⟩ := Option.map_eq_some_iff.1 (isSome_interface?_iff.1 h)
  exact ⟨n, hn, Node.isInterface_iff.2 hlabel⟩

theorem exists_hasMembers (h : (g.class? id).isSome ∨ (g.interface? id).isSome) :
    ∃ n, g.node? id = some n ∧ n.hasMembers = true := by
  rcases h with h | h
  · obtain ⟨n, hn, hclass⟩ := class?_isSome.1 h
    exact ⟨n, hn, by rw [Node.hasMembers_eq, hclass, Bool.true_or]⟩
  · obtain ⟨n, hn, hinterface⟩ := exists_interface h
    exact ⟨n, hn, by rw [Node.hasMembers_eq, hinterface, Bool.or_true]⟩

/-- No link changes what a node is. -/
theorem label_make (l : Link) (g : Graph) (id : NodeId) :
    ((l.make g).node? id).map (·.kind.label) = (g.node? id).map (·.kind.label) := by
  cases l with
  | base c b =>
    refine map_node?_setBase (·.kind.label) (fun n f _ => ?_) c b id
    rcases n with ⟨_, _, _, _, _, _, _, k⟩
    cases k <;> rfl
  | implementer i m =>
    refine map_node?_addImplementer i m id (v := (·.kind.label)) (fun n id => ?_) fun n id => ?_
    · exact (n.implementing_grows id).label
    · exact (n.implementedBy_grows id).label

theorem Link.Fits.congr (hg : ∀ id, (g'.node? id).map (·.kind.label) =
    (g.node? id).map (·.kind.label)) (h : l.Fits g) : l.Fits g' := by
  cases l with
  | base => simpa only [Fits, isSome_class?_iff, hg] using h
  | implementer => simpa only [Fits, isSome_class?_iff, isSome_interface?_iff, hg] using h

/-- What fits, fits whatever links were made before. -/
theorem Link.Fits.linkAll (links : List Link) (h : l.Fits g) : l.Fits (g.linkAll links) :=
  List.foldlRecOn (motive := l.Fits) links Link.make h fun _ h l' _ => h.congr (label_make l' _)

/-! ## One more link -/

theorem Unlinked.made (h : g.Unlinked) : g.Made [] where
  base c := h.base c
  derived b c := by simp [h.derived b]
  derived_once b := h.derived b ▸ List.nodup_nil
  interfaces m i := by simp [h.interfaces m]
  implementers i m := by simp [h.implementers i]
  implementers_once i := h.implementers i ▸ List.nodup_nil

theorem Made.setBase (h : g.Made links) {derived base : NodeId}
    (hderived : (g.class? derived).isSome) (hbase : (g.class? base).isSome) :
    (g.setBase derived base).Made (links ++ [.base derived base]) where
  base c := by
    rw [base?_setBase hderived, lastBase?_concat, h.base]
    by_cases hc : c = derived
    · simp [Link.baseOf?, hc]
    · simp [Link.baseOf?, hc, Ne.symm hc]
  derived b c := by
    rw [derivedClasses_setBase hbase, List.mem_append, List.mem_singleton, Link.base.injEq,
      ← h.derived]
    split
    · rename_i hb
      simp [mem_addOnce, hb]
    · rename_i hb
      simp [hb]
  derived_once b := by
    rw [derivedClasses_setBase hbase]
    split
    · exact nodup_addOnce (h.derived_once b)
    · exact h.derived_once b
  interfaces m i := by simp [interfaces_setBase, h.interfaces m i]
  implementers i m := by simp [implementersOf_setBase, h.implementers i m]
  implementers_once i := implementersOf_setBase (g := g) derived base i ▸ h.implementers_once i

theorem Made.addImplementer (h : g.Made links) {interface implementer : NodeId}
    (hinterface : (g.interface? interface).isSome)
    (himplementer : (g.class? implementer).isSome ∨ (g.interface? implementer).isSome) :
    (g.addImplementer interface implementer).Made (links ++ [.implementer interface implementer])
    where
  base c := by
    rw [base?_addImplementer, lastBase?_concat, h.base]
    rfl
  derived b c := by simp [derivedClasses_addImplementer, h.derived b c]
  derived_once b :=
    derivedClasses_addImplementer (g := g) interface implementer b ▸ h.derived_once b
  interfaces m i := by
    rw [List.mem_append, List.mem_singleton, Link.implementer.injEq]
    by_cases hne : interface = implementer
    · rw [Graph.addImplementer, if_pos hne, h.interfaces]
      refine and_congr_right fun him => (or_iff_left ?_).symm
      rintro ⟨rfl, rfl⟩
      exact him hne
    · rw [interfaces_addImplementer hne (exists_hasMembers himplementer), and_or_left,
        ← h.interfaces]
      split
      · rename_i hm
        subst hm
        rw [mem_addOnce]
        refine or_congr_right ⟨fun hi => ⟨hi ▸ hne, hi, rfl⟩, fun hi => hi.2.1⟩
      · rename_i hm
        simp [hm]
  implementers i m := by
    rw [List.mem_append, List.mem_singleton, Link.implementer.injEq]
    by_cases hne : interface = implementer
    · rw [Graph.addImplementer, if_pos hne, h.implementers]
      refine and_congr_right fun him => (or_iff_left ?_).symm
      rintro ⟨rfl, rfl⟩
      exact him hne
    · rw [implementersOf_addImplementer hne (exists_interface hinterface), and_or_left,
        ← h.implementers]
      split
      · rename_i hi
        subst hi
        rw [mem_addOnce]
        refine or_congr_right ⟨fun hm => ⟨hm ▸ hne, rfl, hm⟩, fun hm => hm.2.2⟩
      · rename_i hi
        simp [hi]
  implementers_once i := by
    by_cases hne : interface = implementer
    · rw [Graph.addImplementer, if_pos hne]
      exact h.implementers_once i
    · rw [implementersOf_addImplementer hne (exists_interface hinterface)]
      split
      · exact nodup_addOnce (h.implementers_once i)
      · exact h.implementers_once i

theorem Made.make (h : g.Made links) (hl : l.Fits g) : (l.make g).Made (links ++ [l]) := by
  cases l with
  | base => exact h.setBase hl.1 hl.2
  | implementer => exact h.addImplementer hl.1 hl.2

/-- All that is known of the links of a graph in which links were made. -/
theorem Unlinked.linkAll_made (hg : g.Unlinked) (hl : ∀ l ∈ links, l.Fits g) :
    (g.linkAll links).Made links := by
  induction links using List.reverseRecOn with
  | nil => exact hg.made
  | append_singleton links l ih =>
    have hmade := ih fun l hl' => hl l (List.mem_append_left _ hl')
    have hfits : l.Fits (g.linkAll links) :=
      (hl l (List.mem_append_right _ List.mem_cons_self)).linkAll links
    rw [linkAll_concat]
    exact hmade.make hfits

/-! ## Both ends of a link -/

theorem count_eq_one_iff {ids : List NodeId} (h : ids.Nodup) : ids.count id = 1 ↔ id ∈ ids := by
  rw [h.count]
  split <;> simp [*]

/-- A class and a base know one another unless the class was given another base afterwards. -/
theorem Made.baseAgrees_iff (h : g.Made links) :
    g.BaseAgrees c b ↔ (.base c b ∈ links → lastBase? links c = some b) := by
  rw [BaseAgrees, count_eq_one_iff (h.derived_once b), h.base, h.derived]
  exact ⟨fun hiff hmem => hiff.2 hmem, fun hlast => ⟨mem_of_lastBase?, hlast⟩⟩

/-- All classes and their bases know one another where no class was given two. -/
theorem Made.forall_baseAgrees_iff (h : g.Made links) :
    (∀ c b, g.BaseAgrees c b) ↔ ∀ c b b', .base c b ∈ links → .base c b' ∈ links → b = b' := by
  simp only [h.baseAgrees_iff]
  constructor
  · intro hlast c b b' hb hb'
    exact Option.some.inj ((hlast c b hb).symm.trans (hlast c b' hb'))
  · intro hone c b hb
    obtain ⟨b', hlast⟩ := exists_lastBase? hb
    rw [hlast, hone c b b' hb (mem_of_lastBase? hlast)]

end

/-- After any links, an interface and what refers to it list one another, each once. A class has the
base that it was given last, and every base that it was given lists it once. So the two ends of a
base agree unless the class was given another one later, and all of them agree exactly if no class
was given two bases. -/
theorem inverse_links_iff {g : Graph} (hg : g.Unlinked) {links : List Link}
    (hl : ∀ l ∈ links, l.Fits g) :
    let linked := g.linkAll links
    (∀ m i, i ∈ linked.interfaces m ↔ (linked.implementersOf i).count m = 1) ∧
      (∀ c, linked.base? c = lastBase? links c) ∧
      (∀ c b, (linked.derivedClasses b).count c = if .base c b ∈ links then 1 else 0) ∧
      (∀ c b, linked.BaseAgrees c b ↔ (.base c b ∈ links → lastBase? links c = some b)) ∧
      ((∀ c b, linked.BaseAgrees c b) ↔
        ∀ c b b', .base c b ∈ links → .base c b' ∈ links → b = b') := by
  intro linked
  have h : linked.Made links := hg.linkAll_made hl
  refine ⟨fun m i => ?_, h.base, fun c b => ?_, fun _ _ => h.baseAgrees_iff,
    h.forall_baseAgrees_iff⟩
  · rw [count_eq_one_iff (h.implementers_once i), h.interfaces, h.implementers]
  · rw [(h.derived_once b).count]
    simp only [h.derived]

/-- Three classes and an interface. -/
def loose : Graph :=
  { nodes :=
      #[.make "A" "" default (.classLike {}), .make "B" "" default (.classLike {}),
        .make "C" "" default (.classLike {}), .make "I" "" default (.interface {})] }

theorem loose_unlinked : loose.Unlinked := unlinked_of_nodes (by decide)

/-- A class comes back to its first base, and the second one goes on to list it. -/
theorem inverse_links_loose :
    let links := [Link.base 0 1, .implementer 3 0, .base 0 2, .implementer 3 3, .base 0 1]
    let linked := loose.linkAll links
    loose.Unlinked ∧ (∀ l ∈ links, l.Fits loose) ∧ linked.BaseAgrees 0 1 ∧
      ¬ linked.BaseAgrees 0 2 ∧
        (3 ∈ linked.interfaces 0 ↔ (linked.implementersOf 3).count 0 = 1) := by
  intro links linked
  have hl : ∀ l ∈ links, l.Fits loose := by decide
  obtain ⟨hinterfaces, -, -, hagrees, -⟩ := inverse_links_iff loose_unlinked hl
  exact ⟨loose_unlinked, hl, (hagrees 0 1).2 (by decide), (hagrees 0 2).not.2 (by decide),
    hinterfaces 0 3⟩

/-- The base that a class had first lists it when it has another. -/
theorem former_base_lists_class :
    let links := [Link.base 0 1, .base 0 2]
    let linked := loose.linkAll links
    loose.Unlinked ∧ (∀ l ∈ links, l.Fits loose) ∧ linked.base? 0 = some 2 ∧
      (linked.derivedClasses 1).count 0 = 1 ∧ ¬ linked.BaseAgrees 0 1 :=
  ⟨loose_unlinked, by decide, by decide, by decide, by decide⟩

end XmlTypes.Graph
