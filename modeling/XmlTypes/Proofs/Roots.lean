import XmlTypes.Proofs.Derivations
import XmlTypes.Proofs.Identity
/-!
# Root elements

The global elements whose type is written as a reference to a complex type decide what its class is
in a finished graph: one element has the class for itself, several of them get a class each that
derives from it. The class of a complex type that is given in place is for its element alone.
-/

namespace XmlTypes

open Schema

/-- The class is made for a root element, and adds nothing to its base. -/
structure Graph.IsRootOf (g : Graph) (base : NodeId) (element : QName) (r : NodeId) : Prop where
  node : ∃ n, g.node? r = some n ∧ n.isClass = true ∧ n.IsRootClass ∧ n.root = some element
  base : g.base? r = some base
  properties : g.properties r = []

namespace Schema.SchemaSet

/-- Whether no global element has an empty name. -/
def namesElements (set : SchemaSet) : Bool :=
  set.documents.all fun d => d.elements.all fun e => !e.name.isEmpty

/-- Of the global elements of one name the first one counts. -/
def Counts (set : SchemaSet) (e : Global ElementDecl) : Prop :=
  (Index.globals set.documents Document.elements).find?
    (·.definition.name = e.definition.name) = some e

/-- The element counts, and its type is written as a reference to the name. -/
def WritesType (set : SchemaSet) (n : QName) (e : Global ElementDecl) : Prop :=
  set.Counts e ∧ e.definition.typeRef = some (.named n)

/-- The element is one of those that have the global type of the name. The name of a built-in type
always refers to the built-in type. -/
def ElementOf (set : SchemaSet) (n : QName) (e : Global ElementDecl) : Prop :=
  set.WritesType n e ∧ isBuiltin n = false

variable {set : SchemaSet} {e : Global ElementDecl}

theorem counts_iff : set.Counts e ↔ (Index.ofSet set).element? e.definition.name = some e := by
  rw [Index.element?_ofSet, Counts]

theorem Counts.isEmpty (hset : set.namesElements = true) (h : set.Counts e) :
    e.definition.name.isEmpty = false := by
  have hmem := List.mem_of_find?_eq_some h
  obtain ⟨hd, he⟩ := Index.mem_of_at? (Index.at?_of_mem_globals hmem)
  simpa using List.all_eq_true.1 (List.all_eq_true.1 hset _ hd) _ he

end Schema.SchemaSet

/-- The class of a type that at most one element has. -/
structure Graph.OwnRoot (g : Graph) (set : SchemaSet) (n : QName) (id : NodeId) (node : Node) :
    Prop where
  isAbstractRoot : node.isAbstractRoot = false
  /-- No class for a root element derives from it. -/
  alone : ∀ r m, g.node? r = some m → m.isClass = true → m.IsRootClass → g.base? r ≠ some id
  root : ∀ e, set.ElementOf n e → node.root = some e.definition.name

/-- The class of a type that several elements have. -/
structure Graph.SharedRoot (g : Graph) (set : SchemaSet) (n : QName) (id : NodeId) (node : Node) :
    Prop where
  isAbstractRoot : node.isAbstractRoot = true
  isAbstract : node.class?.map (·.isAbstract) = some true
  root : node.root = none
  /-- Each of the elements has one class. -/
  classes : ∀ e, set.ElementOf n e → ∃ r, g.IsRootOf id e.definition.name r ∧
    ∀ r' m, g.node? r' = some m → m.isClass = true → m.IsRootClass →
      m.root = some e.definition.name → r' = r

namespace Build

variable {set : SchemaSet} {env : Environment} {resolver : Resolver} {s t : State} {id j : NodeId}
  {claims inPlace : List Claim} {c : Claim} {e e' : Global ElementDecl} {n : QName}

/-! ## What comes of the roots of a finished graph -/

/-- A class that is not opened never gets a property. -/
theorem Unopened.properties (h : Unopened s id) (hr : Recorded env s) :
    s.graph.properties id = [] := by
  refine List.eq_nil_iff_forall_not_mem.2 fun p hp => ?_
  obtain ⟨r, hmem, howner, -⟩ := hr.arises id p hp
  exact h r hmem howner

/-- The class that is made for a claim is there in the finished graph. -/
theorem Rooted.isRootOf (h : Rooted env s claims inPlace) (hr : Recorded env s) {r : NodeId}
    (hmade : MadeFor s c r) : (s.finished env).IsRootOf c.node c.name r := by
  obtain ⟨n, hn, hfor⟩ := hmade.node
  have hunopened := (h.classes.roots r n hn hfor.isClass hfor.isRootClass).1
  obtain ⟨n', hn', hs⟩ := finished_node? env hn
  have hclass : (s.graph.class? r).isSome := Graph.class?_isSome.2 ⟨n, hn, hfor.isClass⟩
  refine ⟨⟨n', hn', ?_, hs.isRootClass.2 hfor.isRootClass, ?_⟩, ?_, ?_⟩
  · rw [Node.isClass_congr hs.label, hfor.isClass]
  · rw [hs.root_of_isRootClass hfor.isRootClass, hfor.root]
  · rw [(s.finished_shares env).base?, hmade.base]
  · exact finished_nil hclass (hunopened.properties hr)

/-- A class that is claimed more than once has one class for each of its elements. -/
theorem Rooted.exists_root (h : Rooted env s claims inPlace) (hr : Recorded env s)
    (hne : c.name.isEmpty = false) (hc : Shared claims c) :
    ∃ r, (s.finished env).IsRootOf c.node c.name r ∧
      ∀ r' m, (s.finished env).node? r' = some m → m.isClass = true → m.IsRootClass →
        m.root = some c.name → r' = r := by
  obtain ⟨r, hmade⟩ := h.classes.made c hc
  refine ⟨r, h.isRootOf hr hmade, fun r' m hm hmclass hmroot hname => ?_⟩
  -- A class with the same root is made for the same claim, and is remembered for it.
  obtain ⟨m₀, hm₀, hs'⟩ := node?_of_finished hm
  rw [Node.isClass_congr hs'.label] at hmclass
  rw [hs'.isRootClass] at hmroot
  obtain ⟨-, c', hc', hmade'⟩ := h.classes.roots r' m₀ hm₀ hmclass hmroot
  obtain ⟨k, hk, hfor'⟩ := hmade'.node
  obtain rfl := Option.some.inj (hm₀.symm.trans hk)
  rw [hs'.root_of_isRootClass hmroot, hfor'.root, Option.some.injEq] at hname
  obtain rfl := List.inj_on_of_nodup_map h.distinct hc'.1 hc.1 hname
  exact Option.some.inj ((hmade'.key hne).symm.trans (hmade.key hne))

/-! ## Elements and claims -/

theorem Rooted.nodup_claimants (h : Rooted env s claims inPlace) (id : NodeId) :
    ((claimants claims id).map (·.definition.name)).Nodup := by
  rw [claimants, List.map_map]
  exact h.distinct.sublist (List.filter_sublist.map _)

theorem length_le_one_of_nodup {α β : Type} {f : α → β} {xs : List α} (hn : (xs.map f).Nodup)
    (h : ∀ x ∈ xs, ∀ y ∈ xs, x = y) : xs.length ≤ 1 := by
  match xs with
  | [] => exact Nat.zero_le 1
  | [_] => exact Nat.le_refl 1
  | x :: y :: xs =>
    obtain rfl := h x (by simp) y (by simp)
    simp at hn

theorem two_le_length_of_ne {α : Type} {xs : List α} {x y : α} (hx : x ∈ xs) (hy : y ∈ xs)
    (h : x ≠ y) : 2 ≤ xs.length := by
  match xs with
  | [z] => exact absurd ((List.mem_singleton.1 hx).trans (List.mem_singleton.1 hy).symm) h
  | _ :: _ :: xs => simp

/-- A class that is claimed by the name of its type is not one for a type given in place. -/
theorem NamedFor.not_inPlaceFor (he : Evolves env none { resolver } s)
    (hclass : (s.graph.class? id).isSome) (h : NamedFor env s e id) : ¬ InPlaceFor s e' id := by
  intro hin
  have hno : ¬ Names e := fun hnames => h.not_nameless he hnames hin.nameless
  have hr := he.recorded_of_start
  obtain ⟨d, hd, hsteps⟩ := (h.unnamedFor hclass hno).opened.builtFor hr
  obtain ⟨d', hd', hplace⟩ := hin.opened.builtFor hr
  obtain rfl := hd.unique hr hd'
  cases (congrArg Place.steps hplace).symm.trans hsteps

/-- The elements that have claimed a class alone decide what its root is. -/
theorem Rooted.root_of_claimants (h : Rooted env s claims inPlace)
    (he : Evolves env none { resolver } s) (hne : claimants claims id ≠ []) {m : Node}
    (hm : s.graph.node? id = some m) : m.root = rootOf (claimants claims id) := by
  refine h.root id m hm hne fun c hc hid => ?_
  obtain ⟨e, hmem⟩ := List.exists_mem_of_ne_nil _ hne
  obtain ⟨-, hnamed, hclass⟩ := h.named _ (mem_claimants.1 hmem)
  exact hnamed.not_inPlaceFor he hclass (hid ▸ (h.given c hc).2.1)

/-- An element that has claimed a class alone is its root. -/
theorem Rooted.root_of_mem (h : Rooted env s claims inPlace)
    (hstart : Evolves env none { resolver } s) (hmem : e ∈ claimants claims id)
    (hlen : (claimants claims id).length ≤ 1) {node : Node}
    (hnode : (s.finished env).node? id = some node) : node.root = some e.definition.name := by
  obtain ⟨m, hm, hs⟩ := node?_of_finished hnode
  have hroot := h.root_of_claimants hstart (List.ne_nil_of_mem hmem) hm
  obtain ⟨f, hf⟩ := List.length_eq_one_iff.1 (Nat.le_antisymm hlen (List.length_pos_of_mem hmem))
  rw [hf] at hmem hroot
  obtain rfl := List.mem_singleton.1 hmem
  rw [hs.root_eq (.inl (hroot ▸ nofun)), hroot]
  rfl

theorem Rooted.ownRoot (h : Rooted env s claims inPlace)
    (hstart : Evolves env none { resolver } s)
    (hof : ∀ e, set.ElementOf n e → e ∈ claimants claims id)
    (hlen : (claimants claims id).length ≤ 1) {node : Node}
    (hnode : (s.finished env).node? id = some node) :
    (s.finished env).OwnRoot set n id node := by
  obtain ⟨m, hm, hs⟩ := node?_of_finished hnode
  refine ⟨?_, fun r k hk hclass hroot hbase => ?_, fun e he =>
    h.root_of_mem hstart (hof e he) hlen hnode⟩
  · rw [hs.isAbstractRoot, Bool.eq_false_iff, ne_eq, (h.claimed id m hm).isAbstractRoot]
    exact Nat.not_le.2 (Nat.lt_succ_of_le hlen)
  · -- The class would be made for one of several claims.
    obtain ⟨k', hk', hs'⟩ := node?_of_finished hk
    rw [Node.isClass_congr hs'.label] at hclass
    obtain ⟨-, c, hc, hmade⟩ := h.classes.roots r k' hk' hclass (hs'.isRootClass.1 hroot)
    rw [(s.finished_shares env).base?, hmade.base, Option.some.injEq] at hbase
    exact absurd (hbase ▸ hc.2) (Nat.not_le.2 (Nat.lt_succ_of_le hlen))

theorem Rooted.sharedRoot (h : Rooted env s claims inPlace)
    (hstart : Evolves env none { resolver } s)
    (hof : ∀ e, set.ElementOf n e → e ∈ claimants claims id)
    (hnames : ∀ e, set.ElementOf n e → e.definition.name.isEmpty = false)
    (hlen : 2 ≤ (claimants claims id).length) {node : Node}
    (hnode : (s.finished env).node? id = some node) :
    (s.finished env).SharedRoot set n id node := by
  obtain ⟨m, hm, hs⟩ := node?_of_finished hnode
  have hclaimed := h.claimed id m hm
  have hshared := hclaimed.isAbstractRoot.2 hlen
  refine ⟨hs.isAbstractRoot.trans hshared, hs.isAbstract.trans (hclaimed.isAbstract hlen), ?_,
    fun e he => h.exists_root (c := ⟨e, id⟩) hstart.recorded_of_start (hnames e he)
      ⟨mem_claimants.1 (hof e he), hlen⟩⟩
  rw [hs.root_eq (.inr hshared), h.root_of_claimants hstart (fun hnil => ?_) hm,
    rootOf_eq_none hlen]
  rw [hnil] at hlen
  cases hlen

/-- The class of a type that is given in place for an element has the element as its root. -/
theorem Rooted.inPlaceRoot (h : Rooted env s claims inPlace)
    (hstart : Evolves env none { resolver } s) (hc : ⟨e, id⟩ ∈ inPlace) {node : Node}
    (hnode : (s.finished env).node? id = some node) :
    node.root = some e.definition.name := by
  have hr := hstart.recorded_of_start
  obtain ⟨m, hm, hs⟩ := node?_of_finished hnode
  obtain ⟨he, hin, hclass⟩ := h.given _ hc
  have hroot : m.root = some e.definition.name := by
    refine h.rootInPlace _ hc (List.eq_nil_iff_forall_not_mem.2 fun f hf => ?_)
      (fun c' hc' hsame => ?_) m hm
    · obtain ⟨-, hnamed, -⟩ := h.named _ (mem_claimants.1 hf)
      exact hnamed.not_inPlaceFor hstart hclass hin
    · -- One class is at one place, and a place is that of one element.
      obtain ⟨he', hin', -⟩ := h.given _ hc'
      obtain ⟨d, hd, hplace⟩ := hin.opened.builtFor hr
      obtain ⟨d', hd', hplace'⟩ := hin'.opened.builtFor hr
      rw [hsame] at hd'
      obtain rfl := hd.unique hr hd'
      have hslot : e.slot = c'.element.slot := congrArg Place.slot (hplace.symm.trans hplace')
      rw [Claim.name, Claim.name, Index.element?_eq_of_slot he he' hslot]
  rw [hs.root_eq (.inl (hroot ▸ nofun)), hroot]

section
variable (hset : set.namesTypes = true) (hix : env.index = .ofSet set)
include hset hix

/-- The class of a complex type is opened for a definition with its name. -/
theorem opened_of_typeKey (h : run env resolver = .ok s) {type : Global TypeDefinition}
    (hg : env.index.type? n = some type) (hk : type.definition.isComplex = true)
    (hid : s.context.cache.get? (typeKey n type) = some id) :
    Denotes env s n (.node id) ∧ (s.graph.class? id).isSome ∧
      OpenedFor s id (DeclaredAs env.index n) := by
  have hlawful : env.index.Lawful := hix ▸ Index.lawful_ofSet set
  have hne := isEmpty_of_type? hset (hix ▸ hg)
  have he := (run_ok hlawful h).1
  have hd : Denotes env s n (.node id) :=
    ⟨type, id, hg, rfl, fun _ => hid, fun hempty => absurd (hne.symm.trans hempty) nofun⟩
  have hclass := hd.isSome_class? he.sound_of_start hne hg hk
  exact ⟨hd, hclass, hd.opened he hclass⟩

/-- The elements that have claimed the class of a type are those that have the type. -/
theorem mem_claimants_iff (h : run env resolver = .ok s)
    (hb : Between env resolver s claims inPlace)
    (hall : ∀ g, env.index.element? g.definition.name = some g → Settled env s claims inPlace g)
    {type : Global TypeDefinition} (hg : env.index.type? n = some type)
    (hk : type.definition.isComplex = true)
    (hid : s.context.cache.get? (typeKey n type) = some id) :
    e ∈ claimants claims id ↔ set.ElementOf n e := by
  have hs := run_identified hset hix h
  obtain ⟨node, hnode, hname, -⟩ := hs.exists_node hset hix hg hid
  rw [mem_claimants, SchemaSet.ElementOf, SchemaSet.WritesType, SchemaSet.counts_iff, ← hix]
  constructor
  · intro hc
    obtain ⟨he, ⟨m, htype, hbuiltin, hd, -⟩, -⟩ := hb.rooted.named _ hc
    obtain ⟨_, ⟨⟩, node', hnode', hname', -⟩ := hd.isTypeNode hset hix hs
    -- The class has one name.
    obtain rfl := Option.some.inj (hnode.symm.trans hnode')
    obtain rfl := hname.symm.trans hname'
    exact ⟨⟨he, htype⟩, hbuiltin⟩
  · rintro ⟨⟨he, htype⟩, hbuiltin⟩
    obtain ⟨id', ⟨type', _, hg', ⟨⟩, hid', -⟩, hc⟩ :=
      (hall e he).named n type htype hbuiltin hg hk
    obtain rfl := Option.some.inj (hg.symm.trans hg')
    have hid' := hid' (isEmpty_of_type? hset (hix ▸ hg))
    obtain rfl := Option.some.inj (hid.symm.trans hid')
    exact hc

/-- What is opened for the type given in place for an element is opened for its definition. -/
theorem OpenedFor.definition (hr : Recorded env s)
    (he : env.index.element? e.definition.name = some e) {type : ComplexType}
    (htype : e.definition.typeRef = some (.inline (.complex type)))
    (h : OpenedFor s id (·.place = elementTypePlace e)) :
    ∃ d, BuiltFor env s id d ∧ d.place = elementTypePlace e ∧ d.definition = type ∧
      d.definition.name = none := by
  obtain ⟨d, hd, hplace⟩ := h.builtFor hr
  rcases hd.1.type_cases with ⟨_, _, -, -, -, hglobal⟩ | ⟨r, hrbelongs, hdef, -, hrplace⟩
  · cases congrArg Place.list (hglobal.symm.trans hplace)
  · have href := hrbelongs.typeRef_of_place he (hrplace.trans hplace)
    rw [htype, hdef, Option.some.injEq, TypeRef.inline.injEq, TypeDefinition.complex.injEq] at href
    exact ⟨d, hd, hplace, href.symm,
      (hix ▸ hrbelongs : Belongs (.ofSet set) _).name_of_inline hset hdef⟩

end

/-! ## The whole -/

section
variable (hset : set.namesTypes = true) (hix : env.index = .ofSet set)
  (h : run env resolver = .ok s) (hb : Between env resolver s claims inPlace)
  (hall : ∀ g, env.index.element? g.definition.name = some g → Settled env s claims inPlace g)
include hset hix h hb hall

/-- The elements that have a type decide what its class is. -/
theorem exists_class_of_type (helements : set.namesElements = true) {type : Global TypeDefinition}
    (hg : env.index.type? n = some type) (hk : type.definition.isComplex = true) :
    ∃ id node, (s.finished env).node? id = some node ∧ node.isClass = true ∧
      (∀ j, (s.finished env).IsTypeNode n j ↔ j = id) ∧
      ((∀ e e', set.ElementOf n e → set.ElementOf n e' → e = e') →
        (s.finished env).OwnRoot set n id node) ∧
      ∀ e e', set.ElementOf n e → set.ElementOf n e' → e ≠ e' →
        (s.finished env).SharedRoot set n id node := by
  have hlawful : env.index.Lawful := hix ▸ Index.lawful_ofSet set
  have hr := run_recorded hlawful h
  obtain ⟨id, hid⟩ := (run_ok hlawful h).2 n type hg (isEmpty_of_type? hset (hix ▸ hg))
  obtain ⟨node, hnode, -, -, hall'⟩ := (run_identified hset hix h).exists_node hset hix hg hid
  obtain ⟨-, hclass, hopened⟩ := opened_of_typeKey hset hix h hg hk hid
  have hof (e : Global ElementDecl) : e ∈ claimants claims id ↔ set.ElementOf n e :=
    mem_claimants_iff hset hix h hb hall hg hk hid
  refine ⟨id, node, hnode, ?_, hall', fun hone => ?_, fun e e' he he' hne => ?_⟩
  · obtain ⟨m, hm, hs⟩ := node?_of_finished hnode
    obtain ⟨m', hm', hmclass⟩ := Graph.class?_isSome.1 hclass
    obtain rfl := Option.some.inj (hm.symm.trans hm')
    rw [Node.isClass_congr hs.label, hmclass]
  · refine hb.rooted.ownRoot hb.built (fun e => (hof e).2) ?_ hnode
    exact length_le_one_of_nodup (hb.rooted.nodup_claimants id) fun e he e' he' =>
      hone e e' ((hof e).1 he) ((hof e').1 he')
  · refine hb.rooted.sharedRoot hb.built (fun e => (hof e).2) (fun e he => he.1.1.isEmpty helements)
      ?_ hnode
    exact two_le_length_of_ne ((hof e).2 he) ((hof e').2 he') hne

omit h in
/-- A complex type that is given in place for an element has one class, with the element as its
root. -/
theorem exists_class_in_place (he : env.index.element? e.definition.name = some e)
    {type : ComplexType} (htype : e.definition.typeRef = some (.inline (.complex type))) :
    ∃ id node, (s.finished env).node? id = some node ∧ node.isClass = true ∧
      node.root = some e.definition.name ∧
      ∀ j, OpenedFor s j (fun d => d.place = elementTypePlace e ∧ d.definition = type) ↔
        j = id := by
  have hstart := hb.built
  have hr := hstart.recorded_of_start
  obtain ⟨id, hc⟩ := (hall e he).inPlace type htype
  obtain ⟨-, hin, hclass⟩ := hb.rooted.given _ hc
  obtain ⟨m, hm, hmclass⟩ := Graph.class?_isSome.1 hclass
  obtain ⟨node, hnode, hs⟩ := finished_node? env hm
  -- The class that is opened is the one that is remembered for the place.
  have hplaced {j : NodeId} (hj : OpenedFor s j (·.place = elementTypePlace e)) :
      s.context.inlineType? (elementTypePlace e) = some j := by
    obtain ⟨d, ⟨-, r, hmem, rfl, _, hd, rfl⟩, hplace, -, hnone⟩ :=
      hj.definition hset hix hr he htype
    exact hplace ▸ hstart.sound_of_start.opened r hmem _ hd hnone
  refine ⟨id, node, hnode, by rw [Node.isClass_congr hs.label, hmclass],
    hb.rooted.inPlaceRoot hstart hc hnode, fun j => ⟨fun hj => ?_, ?_⟩⟩
  · exact Option.some.inj ((hplaced (hj.imp fun _ => And.left)).symm.trans (hplaced hin.opened))
  · rintro rfl
    obtain ⟨d, ⟨-, ho⟩, hplace, hdef, -⟩ := hin.opened.definition hset hix hr he htype
    exact ho.imp fun _ hd => hd ▸ ⟨hplace, hdef⟩

end

/-- The class of a global complex type has the one element that has the type as its root, or it is
the abstract base of one class for each of several such elements; and the class of a complex type
that is given in place for an element has the element as its root. -/
theorem elements_decide_roots {options : Options} {naming : Naming}
    (hset : set.namesTypes = true) (helements : set.namesElements = true)
    (h : run (.ofSet set options naming) resolver = .ok s) :
    let g := s.finished (.ofSet set options naming)
    (∀ n doc t, (Index.declaredTypes set).find? (fun x => x.2.name = some n) =
        some (doc, .complex t) →
      ∃ id node, g.node? id = some node ∧ node.isClass = true ∧
        (∀ j, g.IsTypeNode n j ↔ j = id) ∧
        ((∀ e e', set.ElementOf n e → set.ElementOf n e' → e = e') → g.OwnRoot set n id node) ∧
        ∀ e e', set.ElementOf n e → set.ElementOf n e' → e ≠ e' → g.SharedRoot set n id node) ∧
    ∀ e t, set.Counts e → e.definition.typeRef = some (.inline (.complex t)) →
      ∃ id node, g.node? id = some node ∧ node.isClass = true ∧
        node.root = some e.definition.name ∧
        ∀ j, OpenedFor s j (fun d => d.place = elementTypePlace e ∧ d.definition = t) ↔ j = id := by
  intro g
  obtain ⟨claims, inPlace, hb, hall⟩ := run_rooted (Index.lawful_ofSet set) h
  refine ⟨fun n doc t hfirst => ?_, fun e t he htype => ?_⟩
  · rw [← Index.type?_ofSet, Option.map_eq_some_iff] at hfirst
    obtain ⟨type, hg, hdecl⟩ := hfirst
    refine exists_class_of_type hset rfl h hb hall helements hg ?_
    rw [(Prod.mk.inj hdecl).2]
    rfl
  · exact exists_class_in_place hset rfl hb hall (SchemaSet.counts_iff.1 he) htype

/-- A global element in the namespace of the schemas that are evaluated. -/
def sampleRoot (name : String) (type : TypeRef) : ElementDecl :=
  { name := sampleName name, typeRef := some type }

/-- Two elements with one type, another one with a type for itself, and one with a type that is
given in place. -/
def sharedRoots : SchemaSet where
  documents :=
    [{ location := "a.xsd"
       targetNamespace := some "urn:t"
       types :=
         [.complex { name := some (sampleName "T") }, .complex { name := some (sampleName "U") }]
       elements :=
         [sampleRoot "a" (.named (sampleName "T")), sampleRoot "b" (.named (sampleName "T")),
          sampleRoot "c" (.named (sampleName "U")), sampleRoot "d" (.inline (.complex {}))] }]

theorem elements_decide_roots_shared :
    sharedRoots.namesTypes = true ∧ sharedRoots.namesElements = true ∧
    ∃ s, run (.ofSet sharedRoots {} .conventional) oneNamespace = .ok s ∧
      let g := s.finished (.ofSet sharedRoots {} .conventional)
      (∀ n doc t, (Index.declaredTypes sharedRoots).find? (fun x => x.2.name = some n) =
          some (doc, .complex t) →
        ∃ id node, g.node? id = some node ∧ node.isClass = true ∧
          (∀ j, g.IsTypeNode n j ↔ j = id) ∧
          ((∀ e e', sharedRoots.ElementOf n e → sharedRoots.ElementOf n e' → e = e') →
            g.OwnRoot sharedRoots n id node) ∧
          ∀ e e', sharedRoots.ElementOf n e → sharedRoots.ElementOf n e' → e ≠ e' →
            g.SharedRoot sharedRoots n id node) ∧
      ∀ e t, sharedRoots.Counts e → e.definition.typeRef = some (.inline (.complex t)) →
        ∃ id node, g.node? id = some node ∧ node.isClass = true ∧
          node.root = some e.definition.name ∧
          ∀ j, OpenedFor s j (fun d => d.place = elementTypePlace e ∧ d.definition = t) ↔
            j = id := by
  have hset : sharedRoots.namesTypes = true := by decide
  have helements : sharedRoots.namesElements = true := by decide
  obtain ⟨s, h, -⟩ := exists_of_any
    (x := run (.ofSet sharedRoots {} .conventional) oneNamespace) (p := fun _ => true)
    (by decide +kernel)
  exact ⟨hset, helements, s, h, elements_decide_roots hset helements h⟩

/-- The type of anything, declared like any other type, and an element of it. -/
def declaredAnyType : SchemaSet where
  documents :=
    [{ location := "a.xsd"
       targetNamespace := some "http://www.w3.org/2001/XMLSchema"
       types := [.complex { name := some (.xsd "anyType"), mixed := true }]
       elements := [{ name := .xsd "appinfo", typeRef := some (.named (.xsd "anyType")) }] }]

/-- The only element whose type is written as a reference to a type need not be the root of the
class of the type: the name of a built-in type refers to the built-in type, even where a schema
declares a type under that name. -/
theorem builtin_name_without_root :
    declaredAnyType.namesTypes = true ∧ declaredAnyType.namesElements = true ∧
    ∃ s, run (.ofSet declaredAnyType {} .conventional) oneNamespace = .ok s ∧
      let g := s.finished (.ofSet declaredAnyType {} .conventional)
      ¬ ∀ n doc t, (Index.declaredTypes declaredAnyType).find? (fun x => x.2.name = some n) =
          some (doc, .complex t) →
        ∀ e, (∀ e', declaredAnyType.WritesType n e' ↔ e' = e) →
          ∃ id node, g.node? id = some node ∧ g.IsTypeNode n id ∧
            node.root = some e.definition.name := by
  obtain ⟨s, h, hp⟩ := exists_of_any
    (x := run (.ofSet declaredAnyType {} .conventional) oneNamespace)
    (p := fun s => (s.finished (.ofSet declaredAnyType {} .conventional)).nodes.all
      (·.root.isNone)) (by decide +kernel)
  obtain ⟨e, hglobals, htype⟩ : ∃ e,
      Index.globals declaredAnyType.documents Document.elements = [e] ∧
        e.definition.typeRef = some (.named (.xsd "anyType")) := ⟨_, rfl, rfl⟩
  have honly (e' : Global ElementDecl) :
      declaredAnyType.WritesType (.xsd "anyType") e' ↔ e' = e := by
    rw [SchemaSet.WritesType, SchemaSet.Counts, hglobals]
    constructor
    · exact fun he => List.mem_singleton.1 (List.mem_of_find?_eq_some he.1)
    · rintro rfl
      exact ⟨by simp, htype⟩
  refine ⟨by decide, by decide, s, h, fun hall => ?_⟩
  obtain ⟨id, node, hnode, -, hroot⟩ := hall (.xsd "anyType") _ _ rfl e honly
  have hnone := Array.all_eq_true'.1 hp node (Array.mem_of_getElem? hnode)
  rw [hroot] at hnone
  cases hnone

end Build

end XmlTypes
