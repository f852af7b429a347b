import XmlTypes.Proofs.ClassRuns
import XmlTypes.Proofs.Finishing
/-!
# Names along base classes

Two properties at different places of a class and its base classes have different names as far as
somebody has looked: `addProperty` looks at the owner and its base classes, `isNameTaken` at derived
classes too. `Exposed` lists the pairs of places at which nobody does. The names of a class and its
base classes are distinct exactly if they are distinct at these.
-/

namespace XmlTypes

namespace Graph

open Relation

variable {g g' : Graph} {c a : NodeId} {i j : Nat}

/-- The properties at two places have different names, if they are there. -/
def Apart (g : Graph) (c : NodeId) (i : Nat) (a : NodeId) (j : Nat) : Prop :=
  ∀ p q, (g.properties c)[i]? = some p → (g.properties a)[j]? = some q → p.name ≠ q.name

/-- An interface may take over one name for the properties at both places. -/
def Together (g : Graph) (c : NodeId) (i : Nat) (a : NodeId) (j : Nat) : Prop :=
  ∃ interface index p, (g.interface? interface).isSome ∧
    (g.properties interface)[index]? = some p ∧
    (c, i) ∈ g.declarations interface index (g.implementersOf interface) p ∧
    (a, j) ∈ g.declarations interface index (g.implementersOf interface) p

/-! ## Renames keep names apart -/

/-- A name that is free for a place is no name at the other places of the node, its base classes
and derived classes. -/
theorem apart_of_free {name : String} (hfree : g.isNameTaken c i name = false)
    (ha : a = c ∧ i ≠ j ∨ a ∈ g.ancestors c ∨ a ∈ g.descendants c) {q : Property}
    (hq : (g.properties a)[j]? = some q) : q.name ≠ name := by
  simp only [isNameTaken, Bool.or_eq_false_iff, List.any_eq_false, decide_eq_true_eq,
    List.mem_append] at hfree
  rcases ha with ⟨rfl, hij⟩ | ha
  · exact hfree.1 q (List.mem_eraseIdx_iff_getElem?.2 ⟨j, hij.symm, hq⟩)
  · have := hfree.2 a ha
    simp only [List.any_eq_true, decide_eq_true_eq, not_exists, not_and] at this
    exact this q (List.mem_of_getElem? hq)

/-- A name that is free for all places that get it comes to stand at one of two places alone, unless
both get it. -/
theorem apart_renameAll {targets : List (NodeId × Nat)} {name : String}
    (hbases : ∀ a b, g.base? a = some b → a ∈ g.derivedClasses b)
    (hfree : ∀ t ∈ targets, g.isNameTaken t.1 t.2 name = false)
    (ha : a = c ∧ i ≠ j ∨ a ∈ g.ancestors c) (hboth : (c, i) ∈ targets → (a, j) ∉ targets)
    (hap : (c, i) ∉ targets → (a, j) ∉ targets → g.Apart c i a j) :
    (g.renameAll targets name).Apart c i a j := by
  intro p q hp hq
  rw [getElem?_renameAll, Option.map_eq_some_iff] at hp hq
  obtain ⟨p, hp, rfl⟩ := hp
  obtain ⟨q, hq, rfl⟩ := hq
  by_cases hc : (c, i) ∈ targets
  · rw [if_pos hc, if_neg (hboth hc)]
    exact (apart_of_free (hfree _ hc) (ha.imp_right .inl) hq).symm
  · rw [if_neg hc]
    split
    · rename_i hn
      -- Here the base class is renamed, and knows what derives from it.
      refine apart_of_free (hfree _ hn) ?_ hp
      rcases ha with ⟨rfl, hij⟩ | ha
      · exact .inl ⟨rfl, hij.symm⟩
      · exact .inr (.inr (mem_descendants hbases ha))
    · rename_i hn
      exact hap hc hn p q hp hq

/-- A rename that does not affect both places keeps them apart. -/
theorem Renames.apart (h : g.Renames g') (hl : g.Linked)
    (ha : a = c ∧ i ≠ j ∨ a ∈ g.ancestors c) (ht : ¬ g.Together c i a j)
    (hap : g.Apart c i a j) : g'.Apart c i a j := by
  cases h with
  | @mk interface index o name hi ho hfree =>
    exact apart_renameAll (fun a b => (hl.bases a b).1) hfree ha
      (fun hc hn => ht ⟨interface, index, o, hi, ho, hc, hn⟩) fun _ _ => hap

/-- Where an interface may take over a name depends on everything but names. -/
theorem declarations_congr (h : ∀ id, (g'.properties id).map Property.unnamed =
      (g.properties id).map Property.unnamed) {p p' : Property} (hp : p'.unnamed = p.unnamed)
    (interface : NodeId) (index : Nat) (implementers : List NodeId) :
    g'.declarations interface index implementers p' =
      g.declarations interface index implementers p := by
  have hfind (id : NodeId) : (g'.properties id).findIdx? (·.sameMember p') =
      (g.properties id).findIdx? (·.sameMember p) := by
    have hmap (ps : List Property) (o : Property) : ps.findIdx? (·.sameMember o) =
        (ps.map Property.unnamed).findIdx? (·.sameMember o.unnamed) := by
      rw [List.findIdx?_map]
      rfl
    rw [hmap _ p', hmap _ p, h, hp]
  simp only [declarations, hfind]

theorem Together.of_renames (h : ReflTransGen Renames g g') (ht : g'.Together c i a j) :
    g.Together c i a j := by
  have hs := shares_of_renames h
  have hu := unnamed_of_renames h
  obtain ⟨interface, index, p, hi, hp, hc, ha⟩ := ht
  have hmap := congrArg (·[index]?) (hu interface)
  simp only [List.getElem?_map, hp, Option.map_some] at hmap
  obtain ⟨p', hp', hpp⟩ := Option.map_eq_some_iff.1 hmap.symm
  rw [declarations_congr hu hpp.symm, hs.implementersOf] at hc ha
  exact ⟨interface, index, p', hs.isSome_interface? interface ▸ hi, hp', hc, ha⟩

/-- The places of a class stand for different members of every interface. -/
theorem not_together_self (hc : (g.class? c).isSome) (hij : i ≠ j) : ¬ g.Together c i c j := by
  rintro ⟨interface, index, p, hi, -, hci, hcj⟩
  have hne : c ≠ interface := by
    rintro rfl
    obtain ⟨n, hn, hclass⟩ := class?_isSome.1 hc
    rw [interface?, hn] at hi
    rw [Node.isClass_false_of_isInterface hi] at hclass
    cases hclass
  have hplace {k : Nat}
      (h : (c, k) ∈ g.declarations interface index (g.implementersOf interface) p) :
      (g.properties c).findIdx? (·.sameMember p) = some k := by
    rcases List.mem_cons.1 h with h | h
    · exact absurd (congrArg Prod.fst h) hne
    · obtain ⟨id, -, hid⟩ := List.mem_filterMap.1 h
      obtain ⟨k', hk, he⟩ := Option.map_eq_some_iff.1 hid
      cases he
      exact hk
  exact hij (Option.some.inj ((hplace hci).symm.trans (hplace hcj)))

/-- Renames one after the other keep places apart that no interface has in common. -/
theorem apart_of_renames (h : ReflTransGen Renames g g') (hl : g.Linked)
    (ha : a = c ∧ i ≠ j ∨ a ∈ g.ancestors c) (ht : ¬ g.Together c i a j)
    (hap : g.Apart c i a j) : g'.Apart c i a j := by
  induction h with
  | refl => exact hap
  | tail h h' ih =>
    have hs := shares_of_renames h
    exact h'.apart (hs.linked hl) (ha.imp_right (hs.ancestors c ▸ ·))
      (fun ht' => ht (ht'.of_renames h)) ih

/-- The names of the properties that a node declares. -/
def names (g : Graph) (id : NodeId) : List String := (g.properties id).map (·.name)

theorem getElem?_names : (g.names c)[i]? = ((g.properties c)[i]?).map (·.name) := List.getElem?_map

theorem apart_iff_names : g.Apart c i a j ↔
    ∀ x y, (g.names c)[i]? = some x → (g.names a)[j]? = some y → x ≠ y := by
  constructor
  · intro h x y hx hy
    rw [getElem?_names, Option.map_eq_some_iff] at hx hy
    obtain ⟨p, hp, rfl⟩ := hx
    obtain ⟨q, hq, rfl⟩ := hy
    exact h p q hp hq
  · intro h p q hp hq
    exact h _ _ (by rw [getElem?_names, hp]; rfl) (by rw [getElem?_names, hq]; rfl)

theorem nodup_names_iff : (g.names c).Nodup ↔ ∀ i j, i ≠ j → g.Apart c i c j := by
  simp only [apart_iff_names]
  constructor
  · intro h i j hij x y hx hy hxy
    obtain ⟨hi, hx⟩ := List.getElem?_eq_some_iff.1 hx
    obtain ⟨hj, hy⟩ := List.getElem?_eq_some_iff.1 hy
    exact hij ((h.getElem_inj_iff).1 (hx.trans (hxy.trans hy.symm)))
  · intro h
    rw [List.nodup_iff_pairwise_ne, List.pairwise_iff_getElem]
    intro i j hi hj hij
    exact h i j (Nat.ne_of_lt hij) _ _ (List.getElem?_eq_getElem hi) (List.getElem?_eq_getElem hj)

theorem disjoint_names_iff : (g.names c).Disjoint (g.names a) ↔ ∀ i j, g.Apart c i a j := by
  simp only [apart_iff_names]
  constructor
  · rintro h i j x y hx hy rfl
    exact h (List.mem_of_getElem? hx) (List.mem_of_getElem? hy)
  · intro h x hx hy
    obtain ⟨i, hi⟩ := List.mem_iff_getElem?.1 hx
    obtain ⟨j, hj⟩ := List.mem_iff_getElem?.1 hy
    exact h i j x x hi hj rfl

/-- Names of a class and its base classes are distinct if they are in each of them and in any two. -/
theorem nodup_flattened_iff : ((g.flattenedProperties c).map (·.name)).Nodup ↔
    (∀ a ∈ c :: g.ancestors c, (g.names a).Nodup) ∧
      (c :: g.ancestors c).Pairwise fun a b => ∀ i j, g.Apart a i b j := by
  rw [flattenedProperties, List.map_flatMap]
  change ((c :: g.ancestors c).flatMap g.names).Nodup ↔ _
  rw [List.nodup_flatMap]
  refine and_congr_right fun _ => ⟨fun h => h.imp fun h => ?_, fun h => h.imp fun h => ?_⟩
  · exact disjoint_names_iff.1 h
  · exact disjoint_names_iff.2 h

end Graph

namespace Build

open Relation Schema

variable {env : Environment} {registry : Substitutions} {g g' : Graph}

/-! ## Substitutes get names of their own -/

/-- Attaching a substitute leaves the names of a node as they are, or adds one that neither the
node nor its base classes have. -/
theorem Attaches.names_cases (h : Attaches env registry g g') (id : NodeId) :
    g'.names id = g.names id ∨ ∃ name, (∀ q ∈ g.flattenedProperties id, q.name ≠ name) ∧
      g'.names id = g.names id ++ [name] := by
  have hattached := h.attached
  cases h with
  | merge hstrategy _ =>
    left
    have hname (ps : List Property) :
        ps.map (·.name) = (ps.map Property.plain).map (·.name) := by
      rw [List.map_map]; rfl
    rw [Graph.names, Graph.names, hname, hattached.merged hstrategy, ← hname]
  | @separate owner ownerName head m _ _ =>
    rcases addProperty_cases g (substituteProperty env.naming owner ownerName head m) id with
      h | ⟨rfl, hfree, h⟩
    · exact .inl (by rw [Graph.names, h]; rfl)
    · exact .inr ⟨_, hfree, by rw [Graph.names, h, List.map_append]; rfl⟩

/-- Names stay where they are. A new one is new to its node, and to what the base classes had from
the beginning. -/
theorem names_of_attaches (h : ReflTransGen (Attaches env registry) g g')
    (hn : ∀ id, (g.names id).Nodup) :
    (∀ id, g.names id <+: g'.names id) ∧ (∀ id, (g'.names id).Nodup) ∧
      ∀ c a i j, a ∈ g.ancestors c → (g.names c).length ≤ i → j < (g.names a).length →
        g'.Apart c i a j := by
  induction h with
  | refl =>
    refine ⟨fun _ => List.prefix_rfl, hn, fun c a i j _ hi _ => Graph.apart_iff_names.2 ?_⟩
    intro x y hx
    rw [List.getElem?_eq_none hi] at hx
    cases hx
  | @tail g₁ g₂ h h' ih =>
    obtain ⟨hkept, hnodup, hapart⟩ := ih
    have hs := (attached_of_attaches h).shares
    refine ⟨fun id => ?_, fun id => ?_, fun c a i j ha hi hj => ?_⟩
    · rcases h'.names_cases id with he | ⟨name, -, he⟩ <;> rw [he]
      · exact hkept id
      · exact (hkept id).trans (List.prefix_append _ _)
    · rcases h'.names_cases id with he | ⟨name, hfree, he⟩ <;> rw [he]
      · exact hnodup id
      · rw [List.nodup_append]
        refine ⟨hnodup id, List.nodup_singleton _, fun x hx y hy => ?_⟩
        obtain ⟨q, hq, rfl⟩ := List.mem_map.1 hx
        rw [List.mem_singleton.1 hy]
        exact hfree q (Graph.mem_flattenedProperties.2 (.inl hq))
    · rw [Graph.apart_iff_names]
      intro x y hx hy
      have hj₁ : j < (g₁.names a).length := Nat.lt_of_lt_of_le hj (hkept a).length_le
      have hy₁ : (g₁.names a)[j]? = some y := by
        rcases h'.names_cases a with he | ⟨name, -, he⟩ <;> rw [he] at hy
        · exact hy
        · rwa [List.getElem?_append_left hj₁] at hy
      rcases h'.names_cases c with he | ⟨name, hfree, he⟩ <;> rw [he] at hx
      · exact Graph.apart_iff_names.1 (hapart c a i j ha hi hj) x y hx hy₁
      · rcases Nat.lt_or_ge i (g₁.names c).length with hlt | hge
        · rw [List.getElem?_append_left hlt] at hx
          exact Graph.apart_iff_names.1 (hapart c a i j ha hi hj) x y hx hy₁
        · obtain rfl : x = name := by
            rw [List.getElem?_append_right hge] at hx
            exact List.mem_singleton.1 (List.mem_of_getElem? hx)
          obtain ⟨q, hq, rfl⟩ := List.mem_map.1 (List.mem_of_getElem? hy₁)
          refine (hfree q (Graph.mem_flattenedProperties.2 (.inr ?_))).symm
          exact List.mem_flatMap.2 ⟨a, hs.ancestors c ▸ ha, hq⟩

/-! ## Places that nobody compares -/

/-- A place of a class and a place of a base class whose names are not compared: the base class got
its property after the class was opened, or got it for a substitute, or both properties take over
one name from an interface. -/
inductive Exposed (env : Environment) (s : State) (c : NodeId) (i : Nat) (a : NodeId) (j : Nat) :
    Prop
  | late {r q} : r ∈ s.journal → r.scope.owner = c → i < (s.graph.properties c).length →
      (s.graph.properties a)[j]? = some q → q ∉ r.inherited → Exposed env s c i a j
  | substitute : (s.graph.properties a).length ≤ j → Exposed env s c i a j
  | together : (s.attached env).Together c i a j → Exposed env s c i a j

variable {s : State} {c a : NodeId} {i j : Nat}

/-- With substitutes attached, the names at two places are different where they are compared. -/
theorem attached_apart (hs : Recorded env s) (ha : a ∈ s.graph.ancestors c)
    (h : ¬ Exposed env s c i a j) : (s.attached env).Apart c i a j := by
  obtain ⟨hkept, -, hapart⟩ := names_of_attaches (s.attaches env) hs.names
  have hj : j < (s.graph.names a).length := by
    rw [Graph.names, List.length_map]
    exact Nat.lt_of_not_le fun hle => h (.substitute hle)
  rcases Nat.lt_or_ge i (s.graph.names c).length with hi | hi
  · rw [Graph.apart_iff_names]
    intro x y hx hy
    obtain ⟨_, hc⟩ := hkept c
    obtain ⟨_, ha'⟩ := hkept a
    rw [← hc, List.getElem?_append_left hi, Graph.getElem?_names, Option.map_eq_some_iff] at hx
    rw [← ha', List.getElem?_append_left hj, Graph.getElem?_names, Option.map_eq_some_iff] at hy
    obtain ⟨p, hp, rfl⟩ := hx
    obtain ⟨q, hq, rfl⟩ := hy
    have hmem := List.mem_of_getElem? hp
    -- What the class inherited when it was opened has other names.
    obtain ⟨r, hr, ho, -⟩ := hs.arises c p hmem
    refine (hs.openings r hr).apart p (ho ▸ hmem) q (by_contra fun hlate => h ?_)
    exact .late hr ho (by simpa [Graph.names] using hi) hq hlate
  · exact hapart c a i j ha hi hj

/-- In the finished graph, too. -/
theorem finished_apart (hs : Recorded env s) (hc : (s.graph.class? c).isSome)
    (ha : a ∈ s.graph.ancestors c) (h : ¬ Exposed env s c i a j) :
    (s.finished env).Apart c i a j := by
  have hshares := (s.attached_of env).shares
  have hrenames := Graph.propagateRenames_renames (s.attached env)
  have hap := Graph.apart_of_renames hrenames (hshares.linked hs.linked)
    (.inr (hshares.ancestors c ▸ ha)) (fun ht => h (.together ht)) (attached_apart hs ha h)
  intro p q hp hq
  rw [finished_properties hc] at hp
  rw [finished_properties (isSome_class?_of_mem_ancestors hs.linked ha)] at hq
  exact hap p q hp hq

/-- No class declares two properties of one name. -/
theorem finished_names_nodup (hs : Recorded env s) (hc : (s.graph.class? c).isSome) :
    ((s.finished env).names c).Nodup := by
  have hshares := (s.attached_of env).shares
  have hrenames := Graph.propagateRenames_renames (s.attached env)
  obtain ⟨-, hnodup, -⟩ := names_of_attaches (s.attaches env) hs.names
  have hc' : ((s.attached env).class? c).isSome := by rwa [hshares.isSome_class?]
  rw [Graph.names, finished_properties hc]
  exact Graph.nodup_names_iff.2 fun i j hij => Graph.apart_of_renames hrenames
    (hshares.linked hs.linked) (.inl ⟨rfl, hij⟩) (Graph.not_together_self hc' hij)
    (Graph.nodup_names_iff.1 (hnodup c) i j hij)

/-- The names of what a class declares and inherits are distinct in every class exactly if they are
distinct at the places where nobody compares them. -/
theorem names_distinct_iff {set : SchemaSet} {options : Options} {naming : Naming}
    {resolver : Resolver} (h : run (.ofSet set options naming) resolver = .ok s) :
    let env := Environment.ofSet set options naming
    let g := s.finished env
    (∀ c, (g.class? c).isSome → ((g.flattenedProperties c).map (·.name)).Nodup) ↔
      ∀ c i a j, (g.class? c).isSome → a ∈ g.ancestors c → Exposed env s c i a j →
        g.Apart c i a j := by
  intro env g
  have hs := run_recorded (Index.lawful_ofSet set) h
  have hshares : s.graph.Shares g := s.finished_shares env
  constructor
  · intro hall c i a j hc ha _
    exact (List.pairwise_cons.1 (Graph.nodup_flattened_iff.1 (hall c hc)).2).1 a ha i j
  · intro hexposed c hc
    have hclass : ∀ a ∈ c :: g.ancestors c, (s.graph.class? a).isSome := by
      intro a ha
      rcases List.mem_cons.1 ha with rfl | ha
      · rwa [← hshares.isSome_class?]
      · exact isSome_class?_of_mem_ancestors hs.linked (hshares.ancestors c ▸ ha)
    refine Graph.nodup_flattened_iff.2 ⟨fun a ha => finished_names_nodup hs (hclass a ha),
      Graph.ancestors_pairwise.imp_of_mem fun {a b} ha _ hb i j => ?_⟩
    by_cases he : Exposed env s a i b j
    · exact hexposed a i b j (by rw [hshares.isSome_class?]; exact hclass a ha) hb he
    · exact finished_apart hs (hclass a ha) (hshares.ancestors a ▸ hb) he

/-- The environment in which a base type and its extension are built. -/
def extensionEnv : Environment := .ofSet (recursiveBase .extension) {} .conventional

theorem names_distinct_recursive : ∃ s, run extensionEnv oneNamespace = .ok s ∧
    let g := s.finished extensionEnv
    ((∀ c, (g.class? c).isSome → ((g.flattenedProperties c).map (·.name)).Nodup) ↔
      ∀ c i a j, (g.class? c).isSome → a ∈ g.ancestors c → Exposed extensionEnv s c i a j →
        g.Apart c i a j) := by
  obtain ⟨s, h, -⟩ := exists_of_any (x := run extensionEnv oneNamespace) (p := fun _ => true)
    (by decide +kernel)
  exact ⟨s, h, names_distinct_iff h⟩

/-- The derived type is opened before the base type has its second element, and so both of them
get a property of the same name for it. -/
theorem recursive_names_clash : ∃ s, run extensionEnv oneNamespace = .ok s ∧
    let g := s.finished extensionEnv
    ¬ ∀ c, (g.class? c).isSome → ((g.flattenedProperties c).map (·.name)).Nodup := by
  obtain ⟨s, h, hp⟩ := exists_of_any (x := run extensionEnv oneNamespace)
    (p := fun s => ((s.finished extensionEnv).class? 1).isSome &&
      ((s.finished extensionEnv).flattenedProperties 1).map (·.name) = ["X", "D", "X"])
    (by decide +kernel)
  obtain ⟨hclass, hnames⟩ := Bool.and_eq_true_iff.1 hp
  refine ⟨s, h, fun hall => ?_⟩
  have hnodup := hall 1 hclass
  rw [of_decide_eq_true hnames] at hnodup
  revert hnodup
  decide

end Build

end XmlTypes
