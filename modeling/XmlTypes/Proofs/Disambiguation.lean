import XmlTypes.Proofs.RootNames
/-!
# Root elements of shared names

A type whose name occurs in several output namespaces, and which no element has claimed, gets its
own name in the schema as root, whoever has that root already. Only so two nodes come to have one
root (`roots_meet_in_shared_names`).
-/

namespace XmlTypes

open Relation

namespace Graph

variable {g g' g'' : Graph} {i j : NodeId} {q : QName}

/-- Nodes at the same places look the same. -/
def Alike {α : Type} (v : Node → α) (g g' : Graph) : Prop :=
  ∀ id, (g'.node? id).map v = (g.node? id).map v

section
variable {α : Type} {v : Node → α}

theorem Alike.refl (g : Graph) : Alike v g g := fun _ => rfl

theorem Alike.trans (h : Alike v g g') (h' : Alike v g' g'') : Alike v g g'' :=
  fun id => (h' id).trans (h id)

theorem Alike.symm (h : Alike v g g') : Alike v g' g := fun id => (h id).symm

/-- A node has a counterpart that looks the same. -/
theorem Alike.exists_node (h : Alike v g g') {n : Node} (hn : g'.node? i = some n) :
    ∃ m, g.node? i = some m ∧ v n = v m := by
  have hi := h i
  rw [hn, Option.map_some] at hi
  obtain ⟨m, hm, hv⟩ := Option.map_eq_some_iff.1 hi.symm
  exact ⟨m, hm, hv.symm⟩

theorem Alike.modify {f : Node → Node} {id : NodeId} (hf : ∀ n, v (f n) = v n) :
    Alike v g (g.modify id f) := by
  intro j
  rw [node?_modify]
  split
  · rw [Option.map_map]
    exact congrArg (fun f => Option.map f (g.node? j)) (funext hf)
  · rfl

end

/-- What a node says of its name and its root. -/
def face (n : Node) : String × String × QName × Option QName × Bool :=
  (n.name, n.space, n.identity, n.root, mayBeRoot n)

theorem face_mapProperties (n : Node) (f : List Property → List Property) :
    face (n.mapProperties f) = face n := by
  rcases n with ⟨_, _, _, _, _, _, _, k⟩
  cases k <;> rfl

theorem Alike.properties {f : List Property → List Property} {id : NodeId} :
    Alike face g (g.modify id (Node.mapProperties f)) :=
  .modify fun n => face_mapProperties n f

theorem alike_addProperty (g : Graph) (p : Property) : Alike face g (g.addProperty p).1 := by
  unfold addProperty
  split
  · exact .refl g
  · exact .properties

theorem alike_of_renames (h : ReflTransGen Renames g g') : Alike face g g' := by
  have hall (targets : List (NodeId × Nat)) (name : String) (g : Graph) :
      Alike face g (g.renameAll targets name) :=
    List.foldlRecOn (motive := Alike face g) _ _ (.refl g) fun _ h _ _ => h.trans .properties
  induction h with
  | refl => exact .refl g
  | tail _ h ih =>
    cases h with
    | mk => exact ih.trans (hall _ _ _)

theorem alike_pruneDuplicates (g : Graph) : Alike face g g.pruneDuplicates :=
  List.foldlRecOn (motive := Alike face g) _ _ (.refl g) fun _ h _ _ => h.trans .properties

/-- The root that a node has once types with shared names have got theirs. -/
theorem root_disambiguateRoots (g : Graph) (id : NodeId) :
    (g.disambiguateRoots.node? id).map Node.root = (g.node? id).map fun n =>
      if mayBeRoot n && g.isSharedName n then some n.identity else n.root := by
  have hnode : g.disambiguateRoots.node? id = (g.node? id).map fun n =>
      if mayBeRoot n && g.isSharedName n then { n with root := some n.identity } else n := by
    simp [disambiguateRoots, node?]
  rw [hnode, Option.map_map]
  congr 1
  funext n
  simp only [Function.comp]
  split <;> rfl

theorem root_rename (g : Graph) (id : NodeId) (name : String) :
    Alike Node.root g (g.rename id name) := by
  unfold rename
  split
  · exact .refl g
  · have hmodify : Alike Node.root g (g.modify id fun n => { n with name }) := .modify fun _ => rfl
    intro j
    rw [node?_congr (nodes_modifyTypes _ _)]
    exact hmodify j

theorem root_finish (options : Options) (g : Graph) :
    Alike Node.root g.propagateRenames.pruneDuplicates.disambiguateRoots
      (g.finish options).markAmbiguous := by
  have hsame (g : Graph) : Alike Node.root g g.markAmbiguous := fun id => by
    rw [node?_congr (show g.markAmbiguous.nodes = g.nodes from rfl)]
  have hunique (g : Graph) : Alike Node.root g g.enforceUniqueNames := by
    refine List.foldlRecOn (motive := fun u : NameUse => Alike Node.root g u.graph) _ _ (.refl g)
      fun u h id _ => ?_
    unfold NameUse.settle
    dsimp only
    split
    · exact h
    · exact h.trans (root_rename _ _ _)
  unfold finish
  dsimp only
  split
  · exact (hunique _).trans (hsame _)
  · exact hsame _

theorem isSharedName_iff {n : Node} : g.isSharedName n = true ↔
    ∃ j m, g.node? j = some m ∧ m.name = n.name ∧ m.space ≠ n.space := by
  simp only [isSharedName, Array.any_eq_true, node?, Array.getElem?_eq_some_iff]
  grind

theorem Alike.isSharedName (h : Alike face g g') {m n : Node} (hn : face n = face m) :
    g'.isSharedName n = g.isSharedName m := by
  have hone {g g' : Graph} {m n : Node} (h : Alike face g g') (hn : face n = face m)
      (hs : g'.isSharedName n = true) : g.isSharedName m = true := by
    obtain ⟨j, n', hn', hname, hspace⟩ := isSharedName_iff.1 hs
    obtain ⟨m', hm', hface⟩ := h.exists_node hn'
    have hsame := congrArg Prod.fst hface
    have hspace' := congrArg (·.2.1) hface
    rw [show n'.name = m'.name from hsame, show n.name = m.name from congrArg Prod.fst hn] at hname
    rw [show n'.space = m'.space from hspace', show n.space = m.space from congrArg (·.2.1) hn]
      at hspace
    exact isSharedName_iff.2 ⟨j, m', hm', hname, hspace⟩
  exact Bool.eq_iff_iff.2 ⟨hone h hn, hone h.symm hn.symm⟩

/-- A named type that no element has claimed, whose name occurs in another namespace, has the given
name in the schema. -/
def NamesItself (g : Graph) (i : NodeId) (q : QName) : Prop :=
  ∃ n, g.node? i = some n ∧ mayBeRoot n = true ∧ g.isSharedName n = true ∧ n.identity = q

end Graph

namespace Build

open XmlTypes.Graph Schema

variable {env : Environment} {registry : Substitutions} {g g' : Graph} {s : State} {i : NodeId}
  {q : QName}

theorem alike_of_attaches (h : ReflTransGen (Attaches env registry) g g') : Alike face g g' := by
  induction h with
  | refl => exact .refl g
  | tail _ h ih =>
    cases h with
    | merge => exact ih.trans .properties
    | separate => exact ih.trans (alike_addProperty _ _)

/-- The root that a node has in the end. What decides about it is the same in the graph that was
built. -/
theorem root_finished (env : Environment) (s : State) (i : NodeId) :
    ((s.finished env).node? i).map Node.root = (s.graph.node? i).map fun n =>
      if mayBeRoot n && s.graph.isSharedName n then some n.identity else n.root := by
  let tidy := (s.attached env).propagateRenames.pruneDuplicates
  have hface : Alike face s.graph tidy :=
    ((alike_of_attaches (s.attaches env)).trans
      (alike_of_renames (propagateRenames_renames _))).trans (alike_pruneDuplicates _)
  have hroot : ((s.finished env).node? i).map Node.root = (tidy.node? i).map fun n =>
      if mayBeRoot n && tidy.isSharedName n then some n.identity else n.root :=
    (root_finish env.options (s.attached env) i).trans (root_disambiguateRoots tidy i)
  rw [hroot]
  cases hn : tidy.node? i with
  | none =>
    have hi := hface i
    rw [hn] at hi
    rw [Option.map_eq_none_iff.1 hi.symm]
    rfl
  | some n =>
    obtain ⟨m, hm, hnm⟩ := hface.exists_node hn
    rw [hm, Option.map_some, Option.map_some, hface.isSharedName hnm]
    simp only [face, Prod.mk.injEq] at hnm
    obtain ⟨-, -, hidentity, hrootsame, hmay⟩ := hnm
    rw [hidentity, hrootsame, hmay]

/-- The roots of a finished graph are those that elements have claimed, and the names of types
that none has claimed and whose names are shared. -/
theorem finished_hasRoot_iff (env : Environment) (s : State) :
    (s.finished env).HasRoot i q ↔ s.graph.HasRoot i q ∨ s.graph.NamesItself i q := by
  have hfinished : (s.finished env).HasRoot i q ↔
      ((s.finished env).node? i).map Node.root = some (some q) := by
    rw [Option.map_eq_some_iff]
    rfl
  rw [hfinished, root_finished, Option.map_eq_some_iff]
  constructor
  · rintro ⟨n, hn, hq⟩
    split at hq
    · rename_i hboth
      obtain ⟨hmay, hshared⟩ := Bool.and_eq_true_iff.1 hboth
      exact .inr ⟨n, hn, hmay, hshared, Option.some.inj hq⟩
    · exact .inl ⟨n, hn, hq⟩
  · rintro (⟨n, hn, hq⟩ | ⟨n, hn, hmay, hshared, rfl⟩)
    · refine ⟨n, hn, ?_⟩
      have hno : mayBeRoot n = false := by simp [mayBeRoot, hq]
      rw [hno, Bool.false_and, if_neg Bool.false_ne_true, hq]
    · exact ⟨n, hn, by rw [hmay, hshared]; rfl⟩

/-- One type has one name in the schema. -/
theorem Identified.namesItself_unique {j : NodeId} (hs : Identified env s)
    (hi : s.graph.NamesItself i q) (hj : s.graph.NamesItself j q) : i = j := by
  have hkey {i : NodeId} (hi : s.graph.NamesItself i q) :
      ∃ g, env.index.type? q = some g ∧ s.context.cache.get? (typeKey q g) = some i := by
    obtain ⟨n, hn, hmay, -, rfl⟩ := hi
    simp only [mayBeRoot, Bool.and_eq_true, Bool.not_eq_true'] at hmay
    exact hs.known i n hn hmay.2 hmay.1.1.1.2
  obtain ⟨g, hg, hi⟩ := hkey hi
  obtain ⟨g', hg', hj⟩ := hkey hj
  obtain rfl := Option.some.inj (hg.symm.trans hg')
  exact Option.some.inj (hi.symm.trans hj)

/-- A root is that of an element that counts and has claimed the node, or it is the name of the
type itself, which no element has claimed and whose name is shared. Two nodes have one root only if
one of them has its own name, and not both have unless a definition in place bears a name. -/
theorem roots_meet_in_shared_names {set : SchemaSet} {options : Options} {naming : Naming}
    {resolver : Resolver} (h : run (.ofSet set options naming) resolver = .ok s) :
    let g := s.finished (.ofSet set options naming)
    (∀ i q, g.HasRoot i q ↔ s.graph.HasRoot i q ∨ s.graph.NamesItself i q) ∧
    (∀ i q, s.graph.HasRoot i q → ∃ e, set.Counts e ∧ e.definition.name = q) ∧
    ∀ i j q, g.HasRoot i q → g.HasRoot j q → i ≠ j →
      (s.graph.NamesItself i q ∨ s.graph.NamesItself j q) ∧
      (set.namesTypes = true → ¬ (s.graph.NamesItself i q ∧ s.graph.NamesItself j q)) := by
  intro g
  obtain ⟨done, hapart⟩ := run_apart h
  have hiff (i : NodeId) (q : QName) :
      g.HasRoot i q ↔ s.graph.HasRoot i q ∨ s.graph.NamesItself i q :=
    finished_hasRoot_iff _ s
  refine ⟨hiff, fun i q hq => ?_, fun i j q hi hj hne => ⟨?_, fun hset hboth => hne ?_⟩⟩
  · obtain ⟨e, he, -⟩ := hapart.known i q hq
    obtain rfl := (Index.lawful_ofSet set).elements q e he
    exact ⟨e, SchemaSet.counts_iff.2 he, rfl⟩
  · rcases (hiff i q).1 hi with hi | hi
    · rcases (hiff j q).1 hj with hj | hj
      · exact absurd (hapart.apart i j q hi hj) hne
      · exact .inr hj
    · exact .inl hi
  · exact (run_identified hset rfl h).namesItself_unique hboth.1 hboth.2

/-- Types of one name in two namespaces, and in one of them an element of that name with another
type. -/
def sharedName : SchemaSet where
  documents :=
    [{ location := "a.xsd"
       targetNamespace := some "urn:t"
       types := [.complex { name := some (sampleName "Item") },
         .complex { name := some (sampleName "T") }]
       elements := [sampleRoot "Item" (.named (sampleName "T"))] },
     { location := "b.xsd"
       targetNamespace := some "urn:b"
       types := [.complex { name := some ⟨some "urn:b", "Item"⟩ }] }]

/-- The environment in which the types are built. -/
def sharedEnv : Environment := .ofSet sharedName {} .conventional

/-- A resolver that has an output namespace for each of the two. -/
def twoNamespaces : Resolver := .ofRules [(.ofUri "urn:t", "A"), (.ofUri "urn:b", "B")]

theorem roots_meet_in_item : ∃ s, run sharedEnv twoNamespaces = .ok s ∧
    let g := s.finished sharedEnv
    (∀ i q, g.HasRoot i q ↔ s.graph.HasRoot i q ∨ s.graph.NamesItself i q) ∧
    (∀ i q, s.graph.HasRoot i q → ∃ e, sharedName.Counts e ∧ e.definition.name = q) ∧
    ∀ i j q, g.HasRoot i q → g.HasRoot j q → i ≠ j →
      (s.graph.NamesItself i q ∨ s.graph.NamesItself j q) ∧
      (sharedName.namesTypes = true →
        ¬ (s.graph.NamesItself i q ∧ s.graph.NamesItself j q)) := by
  obtain ⟨s, h, -⟩ := exists_of_any (x := run sharedEnv twoNamespaces) (p := fun _ => true)
    (by decide +kernel)
  exact ⟨s, h, roots_meet_in_shared_names h⟩

/-- The type of the element and the type of its name have one root. -/
theorem two_nodes_have_one_root : ∃ s, run sharedEnv twoNamespaces = .ok s ∧
    ∃ i j q, i ≠ j ∧ (s.finished sharedEnv).HasRoot i q ∧ (s.finished sharedEnv).HasRoot j q := by
  obtain ⟨s, h, hroots⟩ := exists_of_any (x := run sharedEnv twoNamespaces)
    (p := fun s => (((s.finished sharedEnv).node? 0).any fun n =>
        n.root = some (sampleName "Item")) &&
      ((s.finished sharedEnv).node? 1).any fun n => n.root = some (sampleName "Item"))
    (by decide +kernel)
  obtain ⟨hfirst, hsecond⟩ := Bool.and_eq_true_iff.1 hroots
  obtain ⟨m, hm, hroot⟩ := (Option.any_eq_true _ _).1 hfirst
  obtain ⟨n, hn, hroot'⟩ := (Option.any_eq_true _ _).1 hsecond
  exact ⟨s, h, 0, 1, sampleName "Item", by decide, ⟨m, hm, by simpa using hroot⟩,
    ⟨n, hn, by simpa using hroot'⟩⟩

end Build

end XmlTypes
