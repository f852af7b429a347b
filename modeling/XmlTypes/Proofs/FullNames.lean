import XmlTypes.Dump.OfGraph
import XmlTypes.Proofs.Closure
import XmlTypes.Proofs.NodeNames
import XmlTypes.Proofs.PlainNames
/-!
# What a full name refers to

A dump refers to nodes by their full names, and to primitives by names of their own. A namespace
may be called anything, but the names of nodes are plain under the conventional naming. So a full
name is read from its end: what stands behind its last point is the name of a node, and what
stands before it is the namespace; and no full name is that of a primitive, which begins with a
small letter.
-/

namespace XmlTypes

open Schema

/-! ## Full names -/

/-- A text is divided in one way at its last point. -/
theorem eq_of_append_cons {α : Type} {x : α} {before before' after after' : List α}
    (hx : x ∉ after) (hx' : x ∉ after') (h : before ++ x :: after = before' ++ x :: after') :
    before = before' ∧ after = after' := by
  rcases List.append_eq_append_iff.1 h with ⟨rest, rfl, hrest⟩ | ⟨rest, rfl, hrest⟩
  · cases rest with
    | nil => exact ⟨(List.append_nil _).symm, List.cons.inj hrest |>.2⟩
    | cons y rest => exact absurd ((List.cons.inj hrest).2 ▸ by simp) hx
  · cases rest with
    | nil => exact ⟨List.append_nil _, (List.cons.inj hrest |>.2).symm⟩
    | cons y rest => exact absurd ((List.cons.inj hrest).2 ▸ by simp) hx'

namespace Node

/-- The full name of a node in a namespace with a name. -/
theorem toList_fullName (n : Node) : n.fullName.toList =
    if n.space.isEmpty then n.name.toList else n.space.toList ++ '.' :: n.name.toList := by
  unfold fullName
  split
  · rfl
  · simp

/-- Nodes of one full name are in one namespace, and have one name there. -/
theorem place_of_fullName {m n : Node} (hm : Plain m.name) (hn : Plain n.name)
    (h : m.fullName = n.fullName) : m.space = n.space ∧ m.name = n.name := by
  have hlist := congrArg String.toList h
  rw [toList_fullName, toList_fullName] at hlist
  split at hlist <;> split at hlist
  case isTrue.isTrue hspace hspace' =>
    rw [String.isEmpty_iff] at hspace hspace'
    exact ⟨hspace.trans hspace'.symm, String.toList_inj.1 hlist⟩
  case isTrue.isFalse => exact absurd (hlist ▸ by simp) hm.1
  case isFalse.isTrue => exact absurd (hlist ▸ by simp) hn.1
  case isFalse.isFalse =>
    obtain ⟨hspace, hname⟩ := eq_of_append_cons hm.1 hn.1 hlist
    exact ⟨String.toList_inj.1 hspace, String.toList_inj.1 hname⟩

end Node

/-! ## Names of primitives -/

theorem Schema.Primitive.find_displayName (p : Primitive) :
    Primitive.all.find? (fun q => q.displayName = p.displayName) = some p := by
  cases p <;> rfl

/-- The name of a primitive has no point, and begins with a small letter. -/
theorem Schema.Primitive.displayName_small (p : Primitive) : '.' ∉ p.displayName.toList ∧
    p.displayName.toList.head?.all Text.isPlain = false := by
  cases p <;> decide

/-- No full name is the name of a primitive. -/
theorem Node.fullName_ne_displayName {n : Node} (hn : Plain n.name) (p : Primitive) :
    n.fullName ≠ p.displayName := by
  intro h
  obtain ⟨hpoint, hsmall⟩ := p.displayName_small
  rw [← h, n.toList_fullName] at hpoint hsmall
  split at hpoint
  · rename_i hspace
    rw [if_pos hspace] at hsmall
    cases hhead : n.name.toList.head? with
    | none => rw [hhead] at hsmall; cases hsmall
    | some c =>
      rw [hhead] at hsmall
      exact absurd (hn.2 c hhead) (by simpa using hsmall)
  · exact hpoint (by simp)

/-! ## References -/

/-- The texts of a dump that refer to a node or a primitive. -/
def TypeDump.references (d : TypeDump) : List String :=
  d.baseClass.toList ++ d.interfaces ++ d.derivedTypes ++ d.textType.toList ++
    d.properties.map (·.type)

/-- What a node refers to. -/
def Node.references (n : Node) : List ValueType :=
  (n.base?.toList ++ n.interfaces ++ n.derived ++ n.implementers).map .node ++ n.text?.toList ++
    n.properties.map (·.type)

theorem Node.references_dump (g : Graph) (n : Node) :
    (n.dump g).references = n.references.map g.typeName := by
  rcases n with ⟨name, space, identity, documentation, isAnonymous, root, isAbstractRoot, kind⟩
  cases kind with
  | classLike c =>
    have hbase : (c.base.map g.fullName).toList = c.base.toList.map fun id => g.fullName id := by
      cases c.base <;> rfl
    have htext : (c.text.map g.typeName).toList = c.text.toList.map g.typeName := by
      cases c.text <;> rfl
    simp [TypeDump.references, references, dump, header, base?, interfaces, derived, implementers,
      text?, properties, class?, interface?, Property.dump, Graph.typeName, Function.comp_def,
      hbase, htext]
  | interface i =>
    simp [TypeDump.references, references, dump, header, base?, interfaces, derived, implementers,
      text?, properties, class?, interface?, Property.dump, Graph.typeName, Function.comp_def]
  | _ => rfl

namespace Graph

/-- The primitive is one of all graphs, a node one of a graph that has it. -/
def Has (g : Graph) : ValueType → Prop
  | .node id => ∃ n, g.node? id = some n
  | .primitive _ => True

variable {g : Graph} {id : NodeId} {n : Node}

theorem IsValue.has {v : ValueType} (h : g.IsValue v) : g.Has v := by
  cases v with
  | node id =>
    obtain ⟨n, hn, -⟩ := h id rfl
    exact ⟨n, hn⟩
  | primitive _ => trivial

theorem has_of_class {id : NodeId} (h : (g.class? id).isSome) : g.Has (.node id) :=
  (IsValue.of_class h).has

/-- What nodes refer to is there, where links have both ends and values and texts their types. -/
theorem Linked.has (hl : g.Linked) (hfits : ∀ id, ∀ p ∈ g.properties id, p.Fits g id)
    (htexts : ∀ id v, g.text? id = some v → g.IsValue v) (hn : g.node? id = some n) {v : ValueType}
    (hv : v ∈ n.references) : g.Has v := by
  simp only [Node.references, List.mem_append, List.mem_map, Option.mem_toList] at hv
  rcases hv with (⟨id', (((hb | hi) | hd) | hm), rfl⟩ | ht) | ⟨p, hp, rfl⟩
  · refine has_of_class (hl.isSome_class? (a := id) ?_)
    rw [base?_eq, hn]
    exact hb
  · have hmem : id' ∈ g.interfaces id := by
      unfold Graph.interfaces
      rw [hn]
      exact hi
    have hinterface := hl.isSome_interface? hmem
    unfold interface? at hinterface
    cases hj : g.node? id' with
    | none => rw [hj] at hinterface; cases hinterface
    | some m => exact ⟨m, hj⟩
  · have hmem : id' ∈ g.derivedClasses id := by
      rw [derivedClasses_eq, hn]
      exact hd
    exact has_of_class (hl.isSome_class?_derived hmem)
  · have hmem : id' ∈ g.implementersOf id := by
      rw [implementersOf_eq, hn]
      exact hm
    obtain ⟨m, hm, -⟩ := hl.hasMembers hmem
    exact ⟨m, hm⟩
  · refine (htexts id v ?_).has
    rw [text?_eq, hn]
    exact ht
  · refine (hfits id p ?_).type.has
    rw [properties_of_node? hn]
    exact hp

/-- Where a name occurs once in a namespace, a node is known by its full name. -/
theorem Catalogued.eq_of_fullName (h : g.Catalogued) (hplain : g.Spelled Plain) {a b : NodeId}
    {m n : Node} (hm : g.node? a = some m) (hn : g.node? b = some n)
    (hname : m.fullName = n.fullName) : a = b := by
  obtain ⟨hspace, hname⟩ := Node.place_of_fullName (hplain a m hm) (hplain b n hn) hname
  have ha := (h.tabled n.space n.name a).2 ⟨m, hm, hspace, hname⟩
  have hb := (h.tabled n.space n.name b).2 ⟨n, hn, rfl, rfl⟩
  exact Option.some.inj (ha.symm.trans hb)

theorem fullName_of_node? (hn : g.node? id = some n) : g.fullName id = n.fullName := by
  rw [fullName, hn]
  rfl

/-- What stands in a dump for a node or a primitive stands for no other. -/
theorem Catalogued.eq_of_typeName (h : g.Catalogued) (hplain : g.Spelled Plain) {v w : ValueType}
    (hv : g.Has v) (hw : g.Has w) (hname : g.typeName v = g.typeName w) : v = w := by
  have hapart {id : NodeId} {p : Primitive} (hid : g.Has (.node id)) :
      g.fullName id ≠ p.displayName := by
    obtain ⟨n, hn⟩ := hid
    rw [fullName_of_node? hn]
    exact Node.fullName_ne_displayName (hplain id n hn) p
  cases v with
  | primitive p =>
    cases w with
    | primitive q =>
      have hp := p.find_displayName
      rw [show p.displayName = q.displayName from hname, q.find_displayName] at hp
      exact congrArg _ (Option.some.inj hp).symm
    | node b => exact absurd hname.symm (hapart hw)
  | node a =>
    cases w with
    | primitive q => exact absurd hname (hapart hv)
    | node b =>
      obtain ⟨m, hm⟩ := hv
      obtain ⟨n, hn⟩ := hw
      refine congrArg _ (h.eq_of_fullName hplain hm hn ?_)
      rw [← fullName_of_node? hm, ← fullName_of_node? hn]
      exact hname

end Graph

/-! ## Graphs that are built -/

/-- The names that the conventional naming gives to types are plain. -/
theorem Naming.conventional_gives : Naming.conventional.Gives Plain where
  empty := plain_empty
  numbered _ k h := h.suffixed k
  complexType _ := plain_pascalCase _
  attributeGroup _ := (plain_of_head (by decide) rfl).append (plain_pascalCase _)
  group _ := (plain_of_head (by decide) rfl).append (plain_pascalCase _)
  simpleType _ := plain_pascalCase _
  enumeration _ := plain_pascalCase _
  rootElement _ _ _ := plain_pascalCase _
  attributeType _ _ h := h.append (plain_pascalCase _)
  elementType _ _ _ := plain_pascalCase _
  text _ h := h.append (plain_of_head (by decide) rfl)

namespace Build

variable {env : Environment} {s : State} {resolver : Resolver}

/-- What a text of the dump refers to is there. -/
theorem finished_has (hix : env.index.Lawful) (hs : run env resolver = .ok s) {ns : NamespaceDump}
    (hns : ns ∈ (s.finished env).dump.namespaces) {d : TypeDump} (hd : d ∈ ns.types) {r : String}
    (hr : r ∈ d.references) : ∃ v, (s.finished env).Has v ∧ (s.finished env).typeName v = r := by
  have hcat : (s.finished env).Catalogued := State.finished_catalogued (run_catalogued hix hs)
  have hshares := s.finished_shares env
  obtain ⟨n, hn, rfl⟩ : ∃ n ∈ (s.finished env).nodes.toList, n.dump (s.finished env) = d :=
    List.mem_map.1 (hcat.dump_perm.mem_iff.1 (List.mem_flatMap.2 ⟨ns, hns, hd⟩))
  obtain ⟨id, hn⟩ := List.mem_iff_getElem?.1 hn
  rw [Array.getElem?_toList] at hn
  rw [Node.references_dump, List.mem_map] at hr
  obtain ⟨v, hv, rfl⟩ := hr
  refine ⟨v, (hshares.linked (run_recorded hix hs).linked).has (fun id p hp => ?_)
    (fun id v hv => ?_) hn hv, rfl⟩
  · exact finished_fits (run_typed hix hs).members (run_fits hix hs) hp
  · rw [hshares.text?] at hv
    exact hshares.isValue (((run_ok hix hs).1.sound (sound_start _ _)).texts id v hv)

end Build

/-- Under the conventional naming no two nodes of a graph that is built have one full name, and none
has the name of a primitive. So every text of its dump that refers to something refers to one node
or to one primitive. -/
theorem references_identify {set : SchemaSet} {options : Options} {resolver : Resolver} {g : Graph}
    (h : buildGraph set options .conventional resolver = .ok g) :
    (∀ a b m n, g.node? a = some m → g.node? b = some n → a ≠ b → m.fullName ≠ n.fullName) ∧
    (∀ a m (p : Primitive), g.node? a = some m → m.fullName ≠ p.displayName) ∧
    ∀ ns ∈ g.dump.namespaces, ∀ d ∈ ns.types, ∀ r ∈ d.references,
      ∃! v, g.Has v ∧ g.typeName v = r := by
  obtain ⟨s, hs, rfl⟩ := Build.exists_run h
  have hix := Index.lawful_ofSet set
  have hP : (Build.Environment.ofSet set options .conventional).naming.Gives Plain :=
    Naming.conventional_gives
  have hplain := Build.finished_spelled hP (Build.run_spelled hP hs)
  have hcat : (Build.State.finished (.ofSet set options .conventional) s).Catalogued :=
    Build.State.finished_catalogued (Build.run_catalogued hix hs)
  refine ⟨fun a b m n hm hn hne heq => hne (hcat.eq_of_fullName hplain hm hn heq),
    fun a m p hm => Node.fullName_ne_displayName (hplain a m hm) p, fun ns hns d hd r hr => ?_⟩
  obtain ⟨v, hhas, hv⟩ := Build.finished_has hix hs hns hd hr
  exact ⟨v, ⟨hhas, hv⟩, fun w hw => hcat.eq_of_typeName hplain hw.1 hhas (hw.2.trans hv.symm)⟩

open Build in
theorem references_identify_recursive :
    ∃ g, buildGraph (recursiveBase .extension) {} .conventional (.ofRules [(⟨none, none⟩, "A.B")]) =
        .ok g ∧
      (g.dump.namespaces.flatMap (·.types)).flatMap TypeDump.references =
        ["A.B.Derived", "A.B.Derived", "string", "A.B.Base", "string"] ∧
      (∀ a b m n, g.node? a = some m → g.node? b = some n → a ≠ b → m.fullName ≠ n.fullName) ∧
      (∀ a m (p : Primitive), g.node? a = some m → m.fullName ≠ p.displayName) ∧
      ∀ ns ∈ g.dump.namespaces, ∀ d ∈ ns.types, ∀ r ∈ d.references,
        ∃! v, g.Has v ∧ g.typeName v = r := by
  obtain ⟨g, h, hreferences⟩ := exists_of_any
    (x := buildGraph (recursiveBase .extension) {} .conventional
      (.ofRules [(⟨none, none⟩, "A.B")]))
    (p := fun g => (g.dump.namespaces.flatMap (·.types)).flatMap TypeDump.references =
      ["A.B.Derived", "A.B.Derived", "string", "A.B.Base", "string"]) (by decide +kernel)
  exact ⟨g, h, of_decide_eq_true hreferences, references_identify h⟩

end XmlTypes
