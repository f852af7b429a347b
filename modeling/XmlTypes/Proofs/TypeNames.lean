import XmlTypes.Proofs.Disambiguation
import XmlTypes.Proofs.Listings
import XmlTypes.Proofs.Termination
/-!
# Names of global types and of types given in place

The names that global types will take are reserved, each in the namespace of its type. What has no
name in the schema keeps away from those that are reserved where it is declared, but names clash in
output namespaces, and one of these may hold types of several namespaces. So a global type keeps
its name exactly if nothing without a name has it already, and what has it then is declared in
another namespace (`global_names_kept_iff`).
-/

namespace XmlTypes

open Schema

/-- The node has the given name in the output namespace. -/
structure Graph.Holds (g : Graph) (space name : String) (id : NodeId) (n : Node) : Prop where
  node : g.node? id = some n
  space : n.space = space
  name : n.name = name

/-- Whether all global declarations that give types or interfaces have names, and no type given in
place has one. -/
def Schema.SchemaSet.namesAll (set : SchemaSet) : Bool :=
  set.namesTypes && set.namesGlobals && set.namesElements

namespace Build

open XmlTypes.Graph

variable {env : Environment} {s : State}

/-- The node is that of the global type of the given name: it bears the name, and is of the kind
that the first declaration says. -/
def IsFor (env : Environment) (q : QName) (n : Node) : Prop :=
  ∃ type, env.index.type? q = some type ∧ n.identity = q ∧
    HasKind env q type.document n.kind.label type.definition

/-- The node is made for what a document declares: for a type that is given in place there, or for
one of several elements that share a type. -/
inductive DeclaredIn (env : Environment) (s : State) (id : NodeId) : Document → Prop
  | inPlace {r : Declared TypeRef} : Belongs env.index (.reference r) →
      s.context.inlineType? r.place = some id → DeclaredIn env s id r.document
  | root {e : Global ElementDecl} {doc : Document} :
      env.index.element? e.definition.name = some e →
      s.context.cache.get? (rootKey e) = some id → doc ∈ env.index.documents →
      doc.location = e.document.location → DeclaredIn env s id doc

/-! ## Names in the finished graph -/

theorem alike_disambiguateRoots (g : Graph) :
    Alike (fun n => (n.name, n.space)) g g.disambiguateRoots := by
  intro id
  have hnode : g.disambiguateRoots.node? id = (g.node? id).map fun n =>
      if mayBeRoot n && g.isSharedName n then { n with root := some n.identity } else n := by
    simp [disambiguateRoots, node?]
  rw [hnode, Option.map_map]
  congr 1
  funext n
  simp only [Function.comp]
  split <;> rfl

/-- Nodes keep their names until names are made unique across namespaces. -/
theorem alike_tidied (env : Environment) (s : State) :
    Alike (fun n => (n.name, n.space)) s.graph
      (s.attached env).propagateRenames.pruneDuplicates.disambiguateRoots := by
  have hface : Alike face s.graph (s.attached env).propagateRenames.pruneDuplicates :=
    ((alike_of_attaches (s.attaches env)).trans
      (alike_of_renames (propagateRenames_renames _))).trans (alike_pruneDuplicates _)
  refine Alike.trans (fun id => ?_) (alike_disambiguateRoots _)
  have hid := congrArg (Option.map fun f : String × String × QName × Option QName × Bool =>
    (f.1, f.2.1)) (hface id)
  rw [Option.map_map, Option.map_map] at hid
  exact hid

/-- Unless names are made unique across namespaces, nodes keep them. -/
theorem alike_finished (hunique : env.options.uniqueNames = false) (s : State) :
    Alike (fun n => (n.name, n.space)) s.graph (s.finished env) := by
  have hfinish : s.finished env =
      ((s.attached env).propagateRenames.pruneDuplicates.disambiguateRoots).markAmbiguous := by
    simp only [State.finished, finish, hunique, Bool.false_eq_true, if_false]
    rfl
  rw [hfinish]
  exact alike_tidied env s

section
variable (hunique : env.options.uniqueNames = false) {space name : String} {id j : NodeId}
  {m n : Node}
include hunique

/-- A node of a finished graph had its name before. -/
theorem holds_of_finished (h : (s.finished env).Holds space name id n) :
    ∃ m, s.graph.Holds space name id m ∧ m.Shares n := by
  obtain ⟨m, hm, hs⟩ := node?_of_finished h.node
  obtain ⟨m', hm', he⟩ := (alike_finished hunique s).exists_node h.node
  obtain rfl := Option.some.inj (hm.symm.trans hm')
  obtain ⟨hname, hspace⟩ := Prod.mk.inj he
  exact ⟨m, ⟨hm, hspace ▸ h.space, hname ▸ h.name⟩, hs⟩

/-- It keeps its name. -/
theorem holds_finished (h : s.graph.Holds space name id m) :
    ∃ n, (s.finished env).Holds space name id n ∧ m.Shares n := by
  obtain ⟨n, hn, hs⟩ := finished_node? env h.node
  obtain ⟨m', hm', he⟩ := (alike_finished hunique s).exists_node hn
  obtain rfl := Option.some.inj (h.node.symm.trans hm')
  obtain ⟨hname, hspace⟩ := Prod.mk.inj he
  exact ⟨n, ⟨hn, hspace.trans h.space, hname.trans h.name⟩, hs⟩

theorem Listed.holds_unique (hs : Listed env s) (hi : (s.finished env).Holds space name id m)
    (hj : (s.finished env).Holds space name j n) : id = j := by
  obtain ⟨m', hm', -⟩ := holds_of_finished hunique hi
  obtain ⟨n', hn', -⟩ := holds_of_finished hunique hj
  exact hs.tabled.eq_of_name hm'.node hn'.node (hm'.space.trans hn'.space.symm)
    (hm'.name.trans hn'.name.symm)

end

/-! ## What is reserved -/

/-- The candidate for a node goes by its kind. -/
theorem candidate?_of_label {naming : Naming} {n : Node} {c : String}
    (hc : n.candidate? naming = some c) :
    (n.kind.label = "class" → c = naming.complexType n.identity "") ∧
      (n.kind.label = "enum" → c = naming.enumeration n.identity "") ∧
      (n.kind.label = "simple" → c = naming.simpleType n.identity "") := by
  rcases n with ⟨_, _, _, _, _, _, _, k⟩
  cases k <;> simp_all [Node.candidate?, NodeKind.label]

/-- The candidate of the node for a global type is reserved in the namespace of the type. -/
theorem IsFor.contains {set : SchemaSet} {options : Options} {naming : Naming} {q : QName}
    {n : Node} {c : String} (h : IsFor (.ofSet set options naming) q n)
    (hc : n.candidate? naming = some c) :
    (q.uriText, Text.lower c) ∈ (Environment.ofSet set options naming).reserved.names := by
  obtain ⟨type, htype, hname, hkind⟩ := h
  obtain ⟨_, -, hat⟩ := Option.bind_eq_some_iff.1 htype
  obtain ⟨hdoc, hmem⟩ := Index.mem_of_at? hat
  have hq := (Index.lawful_ofSet set).types q type htype
  -- The entry is among those of the type, which are among those of the document.
  have hentry : (q.uriText, Text.lower c) ∈ Reserved.ofType naming type.definition := by
    cases hd : type.definition with
    | complex t =>
      rw [hd] at hq hkind
      have hcand := (candidate?_of_label hc).1 hkind
      rw [hname] at hcand
      simp only [TypeDefinition.name] at hq
      simp [Reserved.ofType, hq, Reserved.entry, hcand]
    | simple t =>
      rw [hd] at hq hkind
      obtain ⟨cl, -, hlabel⟩ := hkind
      simp only [TypeDefinition.name] at hq
      cases hcl : cl.isEnumeration with
      | true =>
        have hcand := (candidate?_of_label hc).2.1 (by rw [hlabel, hcl]; rfl)
        rw [hname] at hcand
        simp [Reserved.ofType, hq, Reserved.entry, hcand]
      | false =>
        have hcand := (candidate?_of_label hc).2.2 (by rw [hlabel, hcl]; rfl)
        rw [hname] at hcand
        simp [Reserved.ofType, hq, Reserved.entry, hcand]
  exact List.mem_flatMap.2 ⟨_, hdoc,
    List.mem_append_left _ (List.mem_flatMap.2 ⟨_, hmem, hentry⟩)⟩

/-- A name that is not reserved in a namespace is no candidate for a global type of it. -/
theorem IsFor.ne_of_unreserved {set : SchemaSet} {options : Options} {naming : Naming} {q : QName}
    {n : Node} {c : String} {doc : Document} (h : IsFor (.ofSet set options naming) q n)
    (hc : n.candidate? naming = some c)
    (hfree : Unreserved (.ofSet set options naming) doc c) :
    doc.targetNamespace.getD "" ≠ q.uriText := by
  intro he
  rw [Unreserved, Reserved.contains, he, List.contains_iff_mem.2 (h.contains hc)] at hfree
  cases hfree

theorem not_misnamed {set : SchemaSet} (hset : set.namesTypes = true)
    (hglobals : set.namesGlobals = true) : ¬ Misnamed (.ofSet set) := by
  simp only [SchemaSet.namesGlobals, List.all_eq_true, Bool.and_eq_true] at hglobals
  rintro (⟨hd, hsteps, hsome⟩ | ⟨hg, hempty⟩ | ⟨hg, hempty⟩ | ⟨hg, hempty⟩)
  · rcases hd.type_cases with ⟨_, _, -, -, -, hplace⟩ | ⟨r, hr, hdef, -, -⟩
    · exact hsteps (hplace ▸ rfl)
    · have hnone := hr.name_of_inline hset hdef
      simp only [TypeDefinition.name] at hnone
      rw [hnone] at hsome
      cases hsome
  · cases (isEmpty_of_type? hset hg).symm.trans hempty
  · obtain ⟨hdoc, hmem⟩ := Index.mem_of_found hg
    simpa [hempty] using (hglobals _ hdoc).1.2 _ hmem
  · obtain ⟨hdoc, hmem⟩ := Index.mem_of_found hg
    simpa [hempty] using (hglobals _ hdoc).2 _ hmem

/-! ## Who has the name of a global type -/

section
variable {set : SchemaSet} {options : Options} {naming : Naming} {resolver : Resolver}
  (h : run (.ofSet set options naming) resolver = .ok s)
include h

/-- A node without a name in the schema has a name that is not reserved where it is declared. -/
theorem exists_declaredIn (hnames : set.namesAll = true) {id : NodeId} {n : Node}
    (hn : s.graph.node? id = some n) (hempty : n.identity.isEmpty = true) :
    ∃ doc, DeclaredIn (.ofSet set options naming) s id doc ∧
      Unreserved (.ofSet set options naming) doc n.name := by
  simp only [SchemaSet.namesAll, Bool.and_eq_true] at hnames
  obtain ⟨⟨hset, hglobals⟩, helements⟩ := hnames
  have hix := Index.lawful_ofSet set
  have hlisted := run_listed hix h
  rcases hlisted.unnamed id n hn hempty with ⟨hroot, hclass⟩ | ⟨p, hp⟩ | hmisnamed
  · -- The class is made for one of several claims to its base, and is remembered for it.
    obtain ⟨claims, inPlace, hbetween, -⟩ := run_rooted hix h
    obtain ⟨-, c, ⟨hc, -⟩, hmade⟩ := hbetween.rooted.classes.roots id n hn hclass hroot
    have he := (hbetween.rooted.named c hc).1
    have hkey := hmade.key ((SchemaSet.counts_iff.2 he).isEmpty helements)
    obtain ⟨m, hm, doc, hdoc, hlocation, hfree⟩ := hlisted.roots _ _ id hkey
    obtain rfl := Option.some.inj (hn.symm.trans hm)
    exact ⟨doc, .root he hkey hdoc hlocation, hfree⟩
  · obtain ⟨m, hm, -, r, hr, rfl, hfree⟩ := hlisted.inPlace p id hp
    obtain rfl := Option.some.inj (hn.symm.trans hm)
    exact ⟨r.document, .inPlace hr hp, hfree⟩
  · exact absurd hmisnamed (not_misnamed hset hglobals)

/-- Every global type has a node. It has the candidate for its name, or another node with a name in
the schema has that, exactly if no node without one has it; and whatever node without a name in the
schema has it is declared in another namespace. -/
theorem global_names_kept_iff (hunique : options.uniqueNames = false) :
    (∀ q type, (Index.ofSet set).type? q = some type → q.isEmpty = false →
      ∃ id n, (s.finished (.ofSet set options naming)).node? id = some n ∧
        IsFor (.ofSet set options naming) q n) ∧
    ∀ q id n c, (s.finished (.ofSet set options naming)).node? id = some n →
      IsFor (.ofSet set options naming) q n → q.isEmpty = false → n.candidate? naming = some c →
      ((n.name = c ∨ ∃ j m, j ≠ id ∧
          (s.finished (.ofSet set options naming)).Holds n.space c j m ∧
          m.identity.isEmpty = false) ↔
        ∀ j m, (s.finished (.ofSet set options naming)).Holds n.space c j m →
          m.identity.isEmpty = false) ∧
      (set.namesAll = true →
        ∀ j m, (s.finished (.ofSet set options naming)).Holds n.space c j m →
          m.identity.isEmpty = true → ∃ doc, DeclaredIn (.ofSet set options naming) s j doc ∧
            doc.targetNamespace.getD "" ≠ q.uriText) := by
  have hix : (Environment.ofSet set options naming).index.Lawful := Index.lawful_ofSet set
  have hlisted : Listed (.ofSet set options naming) s := run_listed hix h
  refine ⟨fun q type htype hq => ?_, fun q id n c hn hfor hq hc => ⟨⟨?_, fun hall => ?_⟩, ?_⟩⟩
  · obtain ⟨id, hk⟩ := (run_ok hix h).2 q type htype hq
    obtain ⟨m, hm, hname, hkind⟩ := (run_ok hix h).1.remembered_of_start.remembered q type id htype hk
    obtain ⟨n, hn, hs⟩ := finished_node? (.ofSet set options naming) hm
    exact ⟨id, n, hn, type, htype, hs.identity.trans hname, hs.label ▸ hkind⟩
  · -- Whoever has the candidate is the only one.
    have hnamed : n.identity.isEmpty = false := by
      obtain ⟨_, -, rfl, -⟩ := hfor
      exact hq
    rintro (hname | ⟨i, k, -, hk, hkn⟩) j m hm
    · obtain rfl := hlisted.holds_unique hunique hm ⟨hn, rfl, hname⟩
      obtain rfl := Option.some.inj (hn.symm.trans hm.node)
      exact hnamed
    · obtain rfl := hlisted.holds_unique hunique hm hk
      obtain rfl := Option.some.inj (hk.node.symm.trans hm.node)
      exact hkn
  · obtain ⟨m, hm, hs⟩ := holds_of_finished hunique ⟨hn, rfl, rfl⟩
    have hnamed : m.identity.isEmpty = false := by
      obtain ⟨_, -, rfl, -⟩ := hfor
      exact hs.identity ▸ hq
    rw [Node.candidate?_congr naming hs.identity hs.label] at hc
    rcases hlisted.candidate id m hm.node hnamed c hc with hname | hsome
    · exact .inl (hm.name.symm.trans hname)
    · obtain ⟨j, hj⟩ := Option.isSome_iff_exists.1 hsome
      obtain ⟨k, hk, hspace, hname⟩ := (hlisted.tabled _ _ j).1 hj
      obtain ⟨k', hk', -⟩ : ∃ k', (s.finished (.ofSet set options naming)).Holds n.space c j k' ∧
          k.Shares k' := holds_finished hunique ⟨hk, hspace.trans hm.space, hname⟩
      by_cases hji : j = id
      · subst hji
        obtain rfl := Option.some.inj (hn.symm.trans hk'.node)
        exact .inl hk'.name
      · exact .inr ⟨j, k', hji, hk', hall j k' hk'⟩
  · intro hnames j m hm hempty
    obtain ⟨k, hk, hs⟩ := holds_of_finished hunique hm
    obtain ⟨doc, hdoc, hfree⟩ := exists_declaredIn h hnames hk.node (hs.identity ▸ hempty)
    exact ⟨doc, hdoc, hfor.ne_of_unreserved hc (hk.name ▸ hfree)⟩

end

/-- An element with a type given in place in one namespace, and in another a type of the name that
the first one takes. -/
def takenName : SchemaSet where
  documents :=
    [{ location := "a.xsd"
       targetNamespace := some "urn:t"
       types := [.complex
         { name := some (sampleName "T")
           particle := some (sampleSequence [.one (.element
             { name := sampleName "foo", typeRef := some (.inline (.complex {})) })]) }] },
     { location := "b.xsd"
       targetNamespace := some "urn:b"
       types := [.complex { name := some ⟨some "urn:b", "Foo"⟩ }] }]

/-- The environment in which the types are built. -/
def takenEnv : Environment := .ofSet takenName {} .conventional

theorem global_names_kept_taken : ∃ s, run takenEnv oneNamespace = .ok s ∧
    let g := s.finished takenEnv
    (∀ q type, takenEnv.index.type? q = some type → q.isEmpty = false →
      ∃ id n, g.node? id = some n ∧ IsFor takenEnv q n) ∧
    ∀ q id n c, g.node? id = some n → IsFor takenEnv q n → q.isEmpty = false →
      n.candidate? .conventional = some c →
      ((n.name = c ∨ ∃ j m, j ≠ id ∧ g.Holds n.space c j m ∧ m.identity.isEmpty = false) ↔
        ∀ j m, g.Holds n.space c j m → m.identity.isEmpty = false) ∧
      ∀ j m, g.Holds n.space c j m → m.identity.isEmpty = true →
        ∃ doc, DeclaredIn takenEnv s j doc ∧ doc.targetNamespace.getD "" ≠ q.uriText := by
  obtain ⟨s, h, -⟩ := exists_of_any (x := run takenEnv oneNamespace) (p := fun _ => true)
    (by decide +kernel)
  obtain ⟨hnodes, hnames⟩ := global_names_kept_iff h rfl
  refine ⟨s, h, hnodes, fun q id n c hn hfor hq hc => ?_⟩
  obtain ⟨hiff, hdeclared⟩ := hnames q id n c hn hfor hq hc
  exact ⟨hiff, hdeclared (by decide)⟩

/-- The type of the second namespace does not get its name: what has it is the type that the element
of the first one is given in place. -/
theorem type_in_place_takes_name : ∃ s, run takenEnv oneNamespace = .ok s ∧
    ∃ n, (s.finished takenEnv).node? 2 = some n ∧ IsFor takenEnv ⟨some "urn:b", "Foo"⟩ n ∧
      n.candidate? .conventional = some "Foo" ∧ n.name ≠ "Foo" ∧
      ∀ j m, (s.finished takenEnv).Holds n.space "Foo" j m → m.identity.isEmpty = true := by
  obtain ⟨s, h, hp⟩ := exists_of_any (x := run takenEnv oneNamespace)
    (p := fun s => ((s.finished takenEnv).node? 2).any (fun n =>
        n.identity == ⟨some "urn:b", "Foo"⟩ && n.kind.label == "class" &&
          n.candidate? .conventional == some "Foo" && n.name != "Foo") &&
      (s.finished takenEnv).nodes.all fun m => m.name != "Foo" || m.identity.isEmpty)
    (by decide +kernel)
  obtain ⟨hnode, hall⟩ := Bool.and_eq_true_iff.1 hp
  obtain ⟨n, hn, hfacts⟩ := (Option.any_eq_true _ _).1 hnode
  simp only [Bool.and_eq_true, beq_iff_eq, bne_iff_ne] at hfacts
  obtain ⟨⟨⟨hidentity, hlabel⟩, hcandidate⟩, hname⟩ := hfacts
  refine ⟨s, h, n, hn, ⟨_, rfl, hidentity, hlabel⟩, hcandidate, hname, fun j m hm => ?_⟩
  obtain ⟨hj, rfl⟩ := Array.getElem?_eq_some_iff.1 hm.node
  simpa [hm.name] using Array.all_eq_true.1 hall j hj

end Build

end XmlTypes
