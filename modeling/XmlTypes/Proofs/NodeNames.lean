import XmlTypes.Proofs.FreshNames
import XmlTypes.Proofs.Globals
import XmlTypes.Proofs.NamespaceTables
/-!
# What all names of nodes have in common

A node gets its name from the naming, with a number behind it where that is taken. Candidates are
made from names in the schema and from the name of the class that contains what is named. So what
the naming passes on from the name of a container to the candidates made with it (`Naming.Gives`)
holds of all names of nodes. As only a new node gets a name, a construction is followed for what it
gives to `newNode` (`Spells`), one lemma for each function.
-/

namespace XmlTypes

/-- Candidates have a property if the names that they are made with have it, and a number does not
take it away. -/
structure Naming.Gives (naming : Naming) (P : String → Prop) : Prop where
  empty : P ""
  numbered : ∀ name k, P name → P (suffixed name k)
  complexType : ∀ q, P (naming.complexType q "")
  attributeGroup : ∀ q, P (naming.attributeGroup q "")
  group : ∀ q, P (naming.group q "")
  simpleType : ∀ q, P (naming.simpleType q "")
  enumeration : ∀ q, P (naming.enumeration q "")
  rootElement : ∀ q container, P container → P (naming.rootElement q container)
  attributeType : ∀ q container, P container → P (naming.attributeType q container)
  elementType : ∀ q container, P container → P (naming.elementType q container)
  text : ∀ container, P container → P (container ++ "Value")

theorem Naming.Gives.firstFree {naming : Naming} {P : String → Prop} (h : naming.Gives P)
    {name : String} (hname : P name) (taken : String → Bool) (fuel k : Nat) :
    P (firstFree taken name fuel k) := by
  induction fuel generalizing k with
  | zero => exact h.numbered name k hname
  | succ fuel ih =>
    unfold XmlTypes.firstFree
    split
    · exact ih (k + 1)
    · exact h.numbered name k hname

theorem Naming.Gives.fresh {naming : Naming} {P : String → Prop} (h : naming.Gives P)
    {candidate : String} (hc : P candidate) (taken : String → Bool) (limit : Nat) :
    P (fresh taken limit candidate) := by
  unfold XmlTypes.fresh
  split
  · exact h.firstFree hc _ _ _
  · exact hc

namespace Node

theorem name_mapClass (f : ClassShape → ClassShape) (n : Node) : (n.mapClass f).name = n.name := by
  unfold mapClass
  split <;> rfl

theorem name_mapInterface (f : InterfaceShape → InterfaceShape) (n : Node) :
    (n.mapInterface f).name = n.name := by
  unfold mapInterface
  split <;> rfl

end Node

namespace Graph

variable {P : String → Prop} {g : Graph}

/-- All nodes have names of that kind. -/
def Spelled (P : String → Prop) (g : Graph) : Prop := ∀ id n, g.node? id = some n → P n.name

theorem Spelled.of_alike {g' : Graph} (h : g.Spelled P) (halike : Alike Node.name g g') :
    g'.Spelled P := by
  intro id n hn
  obtain ⟨m, hm, hname⟩ := halike.exists_node hn
  exact hname ▸ h id m hm

theorem Alike.comp {α β : Type} {v : Node → α} {g' : Graph} (h : Alike v g g') (f : α → β) :
    Alike (fun n => f (v n)) g g' := fun id => by
  have hi := congrArg (Option.map f) (h id)
  rwa [Option.map_map, Option.map_map] at hi

theorem alike_setBase (derived base : NodeId) : Alike Node.name g (g.setBase derived base) :=
  (Alike.modify (Node.name_mapClass _)).trans (.modify (Node.name_mapClass _))

theorem alike_addImplementer (interface implementer : NodeId) :
    Alike Node.name g (g.addImplementer interface implementer) := by
  unfold addImplementer
  split
  · exact .refl g
  · exact (Alike.modify fun n => (Node.name_mapInterface _ _).trans (Node.name_mapClass _ n)).trans
      (.modify (Node.name_mapInterface _))

theorem Spelled.nameOf (h : g.Spelled P) (hempty : P "") (id : NodeId) : P (g.nameOf id) := by
  unfold Graph.nameOf
  cases hn : g.node? id with
  | none => exact hempty
  | some n => exact h id n hn

end Graph

namespace Build

open Schema XmlTypes.Graph

variable {α β : Type} {env : Environment} {P : String → Prop} {Q : α → Prop} {s : State}

/-! ## Steps -/

/-- From names of the kind `P` the step leads to such names and to a result of the kind `Q`. -/
def Spells (P : String → Prop) (m : Build α) (Q : α → Prop) : Prop :=
  ∀ s a t, s.graph.Spelled P → m s = .ok (a, t) → t.graph.Spelled P ∧ Q a

namespace Spells

theorem pure {a : α} (h : Q a) : Spells P (pure a : Build α) Q := by
  intro s b t hs hm
  obtain ⟨rfl, rfl⟩ := pure_ok.1 hm
  exact ⟨hs, h⟩

theorem bind {m : Build α} {k : α → Build β} {R : β → Prop} (h : Spells P m Q)
    (hk : ∀ a, Q a → Spells P (k a) R) : Spells P (m >>= k) R := by
  intro s b t hs hm
  obtain ⟨a, u, hu, hm⟩ := bind_ok.1 hm
  obtain ⟨hspelled, ha⟩ := h s a u hs hu
  exact hk a ha u b t hspelled hm

/-- Whatever the step gives. -/
theorem then_ {m : Build α} {k : α → Build β} {R : β → Prop} (h : Spells P m fun _ => True)
    (hk : ∀ a, Spells P (k a) R) : Spells P (m >>= k) R :=
  h.bind fun a _ => hk a

theorem getGraph {k : Graph → Build β} {R : β → Prop}
    (hk : ∀ g : Graph, g.Spelled P → Spells P (k g) R) : Spells P (getGraph >>= k) R :=
  fun s b t hs hm => hk s.graph hs s b t hs hm

theorem getContext {k : Context → Build β} {R : β → Prop} (hk : ∀ c, Spells P (k c) R) :
    Spells P (getContext >>= k) R :=
  fun s b t hs hm => hk s.context s b t hs hm

theorem modifyGraph {f : Graph → Graph} (hf : ∀ g : Graph, g.Spelled P → (f g).Spelled P) :
    Spells P (modifyGraph f) fun _ => True := by
  intro s _ t hs hm
  rw [modifyGraph_ok.1 hm]
  exact ⟨hf _ hs, trivial⟩

theorem modifyContext (f : Context → Context) : Spells P (modifyContext f) fun _ => True := by
  intro s _ t hs hm
  rw [modifyContext_ok.1 hm]
  exact ⟨hs, trivial⟩

theorem lift (x : Except Failure α) : Spells P (liftM x : Build α) fun _ => True := by
  intro s a t hs hm
  exact ⟨(lift_ok.1 hm).2 ▸ hs, trivial⟩

theorem failUnsupported (construct : Unsupported) :
    Spells P (failUnsupported construct : Build α) Q :=
  fun _ _ _ _ hm => absurd hm failUnsupported_ok

theorem failUnresolved (reference : Reference) (name : QName) (document : Document) :
    Spells P (failUnresolved reference name document : Build α) Q :=
  failUnsupported _

theorem failBottomless (document : Document) : Spells P (failBottomless document : Build α) Q :=
  fun _ _ _ _ hm => absurd hm failBottomless_ok

theorem foldlM {σ ι : Type} {step : σ → ι → Build σ} {I : σ → Prop}
    (hstep : ∀ x a, I a → Spells P (step a x) I) (xs : List ι) {a : σ} (ha : I a) :
    Spells P (xs.foldlM step a) I := by
  induction xs generalizing a with
  | nil => exact pure ha
  | cons x xs ih =>
    rw [List.foldlM_cons]
    exact (hstep x a ha).bind fun b hb => ih hb

theorem forM {ι : Type} {step : ι → Build Unit} (hstep : ∀ x, Spells P (step x) fun _ => True)
    (xs : List ι) : Spells P (xs.forM step) fun _ => True := by
  rw [forM_eq]
  exact foldlM (fun x _ _ => hstep x) xs trivial

end Spells

/-! ## New nodes -/

theorem newNode_spells (hP : env.naming.Gives P) {candidate : String} (hc : P candidate)
    (document : Document) (identity : QName) (kind : NodeKind) (documentation : List String) :
    Spells P (newNode env document identity candidate kind documentation) fun _ => True := by
  intro s id t hs hm
  obtain ⟨-, n, hmade, hadds⟩ := newNode_ok hm
  refine ⟨fun j m hj => ?_, trivial⟩
  rw [Graph.node?_of_push hadds.nodes] at hj
  split at hj
  · obtain rfl := Option.some.inj hj
    rw [hmade.name, Graph.uniqueTypeName]
    exact hP.fresh hc _ _
  · exact hs j m hj

/-- What is done to a graph that leaves the names of its nodes alone. -/
theorem alike_spells {f : Graph → Graph} (hf : ∀ g, Alike Node.name g (f g)) :
    Spells P (modifyGraph f) fun _ => True :=
  .modifyGraph fun g hg => hg.of_alike (hf g)

theorem modify_spells {f : Node → Node} (hf : ∀ n, (f n).name = n.name) (id : NodeId) :
    Spells P (modifyGraph (·.modify id f)) fun _ => True :=
  alike_spells fun _ => .modify hf

theorem setText_spells (id : NodeId) (v : ValueType) :
    Spells P (setText id v) fun _ => True :=
  modify_spells (Node.name_mapClass _) id

theorem addProperty_spells (p : Property) : Spells P (addProperty p) fun _ => True := by
  intro s b t hs hm
  rw [(addProperty_ok.1 hm).2]
  exact ⟨hs.of_alike ((alike_addProperty _ p).comp Prod.fst), trivial⟩

theorem note_spells (scope : Scope) (source : Source) :
    Spells P (note scope source) fun _ => True := by
  intro s _ t hs hm
  rw [note_ok.1 hm]
  exact ⟨hs, trivial⟩

/-! ## Simple types -/

section
variable (hP : env.naming.Gives P)
include hP

theorem enumNode_spells {candidate : String} (hc : P candidate) (d : Declared SimpleType)
    (identity : QName) (facets : List Facet) :
    Spells P (enumNode env d identity candidate facets) fun _ => True := by
  unfold enumNode
  refine (newNode_spells hP hc _ _ _ _).then_ fun id => .getGraph fun g hg => ?_
  refine (modify_spells ?_ id).then_ fun _ => .pure trivial
  exact fun _ => rfl

theorem simpleTypeNode_spells (name : QName) (d : Declared SimpleType) :
    Spells P (simpleTypeNode env name d) fun _ => True := by
  unfold simpleTypeNode
  refine .getContext fun ctx => ?_
  split
  · exact .pure trivial
  · refine (Spells.lift _).then_ fun c => ?_
    cases c with
    | enumeration facets =>
      refine (enumNode_spells hP (hP.enumeration name) _ _ _).then_ fun id => ?_
      exact (Spells.modifyContext _).then_ fun _ => .pure trivial
    | value type restrictions isList =>
      refine (newNode_spells hP (hP.simpleType name) _ _ _ _).then_ fun id => ?_
      exact (Spells.modifyContext _).then_ fun _ => .pure trivial

theorem namedSimpleType_spells (d : Declared SimpleType) :
    Spells P (namedSimpleType env d) fun _ => True := by
  unfold namedSimpleType
  split
  · exact simpleTypeNode_spells hP _ d
  · exact .failUnsupported _

theorem inlineSimpleType_spells {candidate : String} (hc : P candidate) (d : Declared SimpleType) :
    Spells P (inlineSimpleType env d candidate) fun _ => True := by
  unfold inlineSimpleType
  refine .getContext fun ctx => ?_
  split
  · exact .pure trivial
  · refine (Spells.lift _).then_ fun c => ?_
    cases c with
    | enumeration facets =>
      refine (enumNode_spells hP hc _ _ _).then_ fun id => ?_
      exact (Spells.modifyContext _).then_ fun _ => .pure trivial
    | value type restrictions isList => exact .pure trivial

end

/-! ## References -/

/-- The ways down. A scope keeps the name of its owner. -/
structure Calls.Spell (P : String → Prop) (c : Calls) : Prop where
  classNode : ∀ d identity candidate key, P candidate →
    Spells P (c.classNode d identity candidate key) fun _ => True
  particle : ∀ scope d outer compositor, P scope.ownerName →
    Spells P (c.particle scope d outer compositor) fun scope => P scope.ownerName
  attributes : ∀ scope d, P scope.ownerName →
    Spells P (c.attributes scope d) fun scope => P scope.ownerName

section
variable {c : Calls} (hP : env.naming.Gives P) (hcalls : c.Spell P)
include hP hcalls

theorem complexType_spells {candidate : Option String} (hc : ∀ c ∈ candidate, P c)
    (d : Declared ComplexType) : Spells P (complexType c env d candidate) fun _ => True := by
  unfold complexType
  split
  · exact hcalls.classNode _ _ _ _ (hP.complexType _)
  · exact hcalls.classNode _ _ _ _ (hc _ rfl)
  · exact .failUnsupported _

theorem globalType_spells (g : Global TypeDefinition) :
    Spells P (globalType c env g) fun _ => True := by
  unfold globalType
  dsimp only
  split
  · exact complexType_spells hP hcalls (fun _ h => absurd h (Option.not_mem_none _)) _
  · exact namedSimpleType_spells hP _

theorem namedType_spells (name : QName) (document : Document) :
    Spells P (namedType c env name document) fun _ => True := by
  unfold namedType
  split
  · exact .pure trivial
  · split
    · exact .failUnresolved _ _ _
    · exact (globalType_spells hP hcalls _).then_ fun _ => .pure trivial

theorem inlineType_spells {candidate : String} (hc : P candidate) (d : Declared TypeDefinition) :
    Spells P (inlineType c env d candidate) fun _ => True := by
  unfold inlineType
  split
  · exact (complexType_spells hP hcalls (fun _ h => Option.some.inj h ▸ hc) _).then_ fun _ => .pure trivial
  · exact inlineSimpleType_spells hP hc _

theorem typeRef_spells {candidate : String} (hc : P candidate) (d : Declared TypeRef) :
    Spells P (typeRef c env d candidate) fun _ => True := by
  unfold typeRef
  split
  · exact namedType_spells hP hcalls _ _
  · exact inlineType_spells hP hcalls hc _

theorem globalElementType_spells (d : Declared ElementDecl) :
    Spells P (globalElementType c env d) fun _ => True := by
  have hc := hP.rootElement d.definition.name "" hP.empty
  unfold globalElementType
  dsimp only
  split
  · exact .pure trivial
  · exact namedType_spells hP hcalls _ _
  · refine .getContext fun ctx => ?_
    split
    · exact .pure trivial
    · split
      · exact (hcalls.classNode _ _ _ _ hc).then_ fun _ => .pure trivial
      · refine (inlineSimpleType_spells hP hc _).then_ fun resolved => ?_
        cases resolved.type with
        | primitive p => exact .pure trivial
        | node id => exact (Spells.modifyContext _).then_ fun _ => .pure trivial

theorem globalAttributeType_spells (d : Declared AttributeDecl) (type : TypeRef) :
    Spells P (globalAttributeType c env d type) fun _ => True := by
  unfold globalAttributeType
  dsimp only
  refine .getContext fun ctx => ?_
  split
  · exact .pure trivial
  · refine (typeRef_spells hP hcalls (hP.attributeType _ _ hP.empty) _).then_ fun resolved => ?_
    split
    · exact (Spells.modifyContext _).then_ fun _ => .pure trivial
    · exact .pure trivial

/-! ## Members -/

theorem elementType_spells {scope : Scope} (hs : P scope.ownerName) (d : Declared ElementDecl)
    (isReference : Bool) : Spells P (elementType c env scope d isReference) fun _ => True := by
  unfold elementType
  split
  · exact globalElementType_spells hP hcalls d
  · split
    · exact .pure trivial
    · exact typeRef_spells hP hcalls (hP.elementType _ _ hs) _

theorem element_spells {scope : Scope} (hs : P scope.ownerName) (d : Declared ElementDecl)
    (occurs : Occurs) (compositor : Compositor) (isReference : Bool) :
    Spells P (element c env scope d occurs compositor isReference) fun scope =>
      P scope.ownerName := by
  unfold element
  dsimp only
  split
  · exact .pure hs
  · refine (elementType_spells hP hcalls hs d isReference).then_ fun type => ?_
    refine (addProperty_spells _).then_ fun added => ?_
    have hscope (isOrdered : Bool) : P
        (if isOrdered then { scope with nextOrder := scope.nextOrder + 1 } else scope).ownerName := by
      split <;> exact hs
    split
    · exact (Spells.modifyContext _).then_ fun _ => .pure (hscope _)
    · exact .pure (hscope _)

omit hP hcalls in
theorem anyElement_spells (scope : Scope) (w : Wildcard) (occurs : Occurs) :
    Spells P (anyElement scope w occurs) fun _ => True := by
  unfold anyElement
  exact (addProperty_spells _).then_ fun _ => .pure trivial

omit hP hcalls in
theorem anyAttribute_spells (scope : Scope) (w : Wildcard) :
    Spells P (anyAttribute scope w) fun _ => True := by
  unfold anyAttribute
  refine .getGraph fun g _ => ?_
  dsimp only
  split
  · exact .pure trivial
  · exact (addProperty_spells _).then_ fun _ => .pure trivial

omit hP hcalls in
theorem anyAttributeOf_spells (scope : Scope) (declared : Option Wildcard) :
    Spells P (anyAttributeOf scope declared) fun _ => True := by
  unfold anyAttributeOf
  split
  · exact anyAttribute_spells _ _
  · split
    · exact anyAttribute_spells _ _
    · exact .pure trivial

theorem attributeMember_spells {scope : Scope} (hs : P scope.ownerName)
    (d : Declared AttributeDecl) (isReference : Bool) :
    Spells P (attributeMember c env scope d isReference) fun _ => True := by
  have htype : Spells P (attributeType c env scope d isReference) fun _ => True := by
    unfold attributeType
    split
    · exact .pure trivial
    · split
      · exact globalAttributeType_spells hP hcalls _ _
      · exact typeRef_spells hP hcalls (hP.attributeType _ _ hs) _
  unfold attributeMember
  dsimp only
  split
  · exact .pure trivial
  · exact htype.then_ fun type => (addProperty_spells _).then_ fun _ => .pure trivial

/-! ## Groups -/

omit hP in
theorem modelGroup_spells {scope : Scope} (hs : P scope.ownerName) (d : Declared ModelGroup)
    (occurs : Occurs) : Spells P (modelGroup c scope d occurs) fun scope => P scope.ownerName :=
  .foldlM (fun _ _ hs => hcalls.particle _ _ _ _ hs) _ hs

omit hP hcalls in
theorem expanding_spells {collect : Build α} (h : Spells P collect Q) (group : QName) :
    Spells P (expanding group collect) Q := by
  unfold expanding
  refine (Spells.modifyContext _).then_ fun _ => h.bind fun a ha => ?_
  exact (Spells.modifyContext _).then_ fun _ => .pure ha

omit hcalls in
theorem interfaceScope_spells (id : NodeId) (document : Document) :
    Spells P (interfaceScope id document) fun scope => P scope.ownerName := by
  unfold interfaceScope
  exact .getGraph fun g hg => .pure (hg.nameOf hP.empty id)

theorem groupInterface_spells (d : Declared GroupDef) :
    Spells P (groupInterface c env d) fun _ => True := by
  unfold groupInterface
  dsimp only
  refine .getContext fun ctx => ?_
  split
  · exact .pure trivial
  · refine (newNode_spells hP (hP.group _) _ _ _ _).then_ fun id => ?_
    refine (Spells.modifyContext _).then_ fun _ => ?_
    refine (interfaceScope_spells hP id _).bind fun scope hs => ?_
    refine (note_spells _ _).then_ fun _ => ?_
    exact (expanding_spells (modelGroup_spells hcalls hs _ _) _).bind fun _ _ => .pure trivial

theorem attributeGroupInterface_spells (d : Declared AttributeGroupDef) :
    Spells P (attributeGroupInterface c env d) fun _ => True := by
  unfold attributeGroupInterface
  dsimp only
  refine .getContext fun ctx => ?_
  split
  · exact .pure trivial
  · refine (newNode_spells hP (hP.attributeGroup _) _ _ _ _).then_ fun id => ?_
    refine (Spells.modifyContext _).then_ fun _ => ?_
    refine (interfaceScope_spells hP id _).bind fun scope hs => ?_
    refine (note_spells _ _).then_ fun _ => ?_
    refine (expanding_spells (hcalls.attributes _ _ hs) _).bind fun scope _ => ?_
    exact (anyAttributeOf_spells _ _).then_ fun _ => .pure trivial

omit hP hcalls in
theorem implement_spells {build : Build NodeId} (h : Spells P build fun _ => True)
    (owner : NodeId) : Spells P (implement env owner build) fun _ => True := by
  unfold implement
  split
  · exact h.then_ fun interface => alike_spells fun _ => alike_addImplementer _ _
  · exact .pure trivial

theorem groupReference_spells {scope : Scope} (hs : P scope.ownerName) (name : QName)
    (document : Document) (occurs : Occurs) :
    Spells P (groupReference c env scope name document occurs) fun scope => P scope.ownerName := by
  unfold groupReference
  split
  · exact .failUnresolved _ _ _
  · refine (implement_spells (groupInterface_spells hP hcalls _) _).then_ fun _ => ?_
    refine .getContext fun ctx => ?_
    split
    · exact .pure hs
    · exact expanding_spells (modelGroup_spells hcalls hs _ _) _

theorem attributeGroupReference_spells {scope : Scope} (hs : P scope.ownerName) (name : QName)
    (document : Document) :
    Spells P (attributeGroupReference c env scope name document) fun scope =>
      P scope.ownerName := by
  unfold attributeGroupReference
  split
  · exact .failUnresolved _ _ _
  · refine (implement_spells (attributeGroupInterface_spells hP hcalls _) _).then_ fun _ => ?_
    refine .getContext fun ctx => ?_
    split
    · exact .pure hs
    · refine (expanding_spells (hcalls.attributes _ _ hs) _).bind fun scope hs => .pure ?_
      split <;> exact hs

theorem particle_spells {scope : Scope} (hs : P scope.ownerName) (d : Declared Particle)
    (outer : Occurs) (compositor : Compositor) :
    Spells P (particle c env scope d outer compositor) fun scope => P scope.ownerName := by
  unfold particle
  dsimp only
  split
  · exact .pure hs
  · split
    · exact element_spells hP hcalls hs _ _ _ _
    · split
      · exact .failUnresolved _ _ _
      · exact element_spells hP hcalls hs _ _ _ _
    · exact (anyElement_spells _ _ _).then_ fun _ => .pure hs
    · exact groupReference_spells hP hcalls hs _ _ _
    · exact modelGroup_spells hcalls hs _ _

theorem attributeItem_spells {scope : Scope} (hs : P scope.ownerName) (d : Declared AttributeItem) :
    Spells P (attributeItem c env scope d) fun scope => P scope.ownerName := by
  unfold attributeItem
  split
  · exact (attributeMember_spells hP hcalls hs _ _).then_ fun _ => .pure hs
  · split
    · exact .failUnresolved _ _ _
    · exact (attributeMember_spells hP hcalls hs _ _).then_ fun _ => .pure hs
  · exact attributeGroupReference_spells hP hcalls hs _ _

theorem attributes_spells {scope : Scope} (hs : P scope.ownerName)
    (d : Declared (List AttributeItem)) :
    Spells P (attributes c env scope d) fun scope => P scope.ownerName :=
  .foldlM (fun _ _ hs => attributeItem_spells hP hcalls hs _) _ hs

/-! ## Classes -/

theorem derive_spells (id : NodeId) (derivation : Derivation) (document : Document) :
    Spells P (derive c env id derivation document) fun _ => True := by
  unfold derive
  dsimp only
  split
  · split
    · exact .pure trivial
    · exact setText_spells _ _
    · exact .failUnresolved _ _ _
  · split
    · exact .failUnresolved _ _ _
    · refine (globalType_spells hP hcalls _).then_ fun baseId => ?_
      split
      · refine (alike_spells fun _ => alike_setBase _ _).then_ fun _ => .getGraph fun g _ => ?_
        split
        · exact setText_spells _ _
        · exact .pure trivial
      · exact setText_spells _ _

theorem classScope_spells (id : NodeId) (d : Declared ComplexType) :
    Spells P (classScope c env id d) fun scope => P scope.ownerName := by
  unfold classScope
  refine .getGraph fun g hg => ?_
  have hname := hg.nameOf hP.empty id
  dsimp only
  split
  · exact .pure hname
  · refine (derive_spells hP hcalls _ _ _).then_ fun _ => ?_
    split
    · exact .pure hname
    · exact .getGraph fun _ _ => .pure hname

theorem classText_spells {scope : Scope} (hs : P scope.ownerName) (d : Declared ComplexType) :
    Spells P (classText c env scope d) fun _ => True := by
  have hmixed : Spells P (do
      if d.definition.mixed && ((← getGraph).class? scope.owner).any (·.text.isNone) then
        setText scope.owner (.primitive .string)) fun _ => True := by
    refine .getGraph fun g _ => ?_
    split
    · exact setText_spells _ _
    · exact .pure trivial
  unfold classText
  split
  · exact hmixed
  · refine (typeRef_spells hP hcalls (hP.text _ hs) _).then_ fun resolved => ?_
    exact (setText_spells _ _).then_ fun _ => hmixed

theorem classContent_spells (id : NodeId) (d : Declared ComplexType) :
    Spells P (classContent c env id d) fun _ => True := by
  unfold classContent
  refine (classScope_spells hP hcalls id d).bind fun scope hs => ?_
  refine (note_spells _ _).then_ fun _ => (classText_spells hP hcalls hs d).then_ fun _ => ?_
  refine (attributes_spells hP hcalls hs _).bind fun scope hs => ?_
  have hparticle : Spells P (classParticle c env scope d) fun scope => P scope.ownerName := by
    unfold classParticle
    split
    · exact .pure hs
    · exact particle_spells hP hcalls hs _ _ _
  exact hparticle.bind fun scope _ => anyAttributeOf_spells _ _

theorem classNode_spells (d : Declared ComplexType) (identity : QName) {candidate : String}
    (hc : P candidate) (key : Option CacheKey) :
    Spells P (classNode c env d identity candidate key) fun _ => True := by
  unfold classNode
  refine .getContext fun ctx => ?_
  split
  · exact .pure trivial
  · dsimp only
    refine (newNode_spells hP hc _ _ _ _).then_ fun id => ?_
    have hcontent : Spells P (do
        classContent c env id d
        return id) fun _ => True :=
      (classContent_spells hP hcalls id d).then_ fun _ => .pure trivial
    have hplace : Spells P (do
        if d.definition.name.isNone then modifyContext (·.recordInline d.place id)
        classContent c env id d
        return id) fun _ => True := by
      split
      · exact (Spells.modifyContext _).then_ fun _ => hcontent
      · exact hcontent
    split
    · exact (Spells.modifyContext _).then_ fun _ => hplace
    · exact hplace

end

theorem callsUpTo_spell (hP : env.naming.Gives P) (fuel : Nat) : (callsUpTo env fuel).Spell P := by
  induction fuel with
  | zero =>
    exact ⟨fun _ _ _ _ _ => .failBottomless _, fun _ _ _ _ _ => .failBottomless _,
      fun _ _ _ => .failBottomless _⟩
  | succ fuel ih =>
    exact ⟨fun d identity _ key hc => classNode_spells hP ih d identity hc key,
      fun _ _ _ _ hs => particle_spells hP ih hs _ _ _,
      fun _ _ hs => attributes_spells hP ih hs _⟩

/-! ## Root elements -/

section
variable (hP : env.naming.Gives P)
include hP

theorem rootClass_spells (base : NodeId) (q : QName) (document : Document) :
    Spells P (rootClass env base q document) fun _ => True := by
  unfold rootClass
  dsimp only
  refine .getContext fun ctx => ?_
  split
  · exact .pure trivial
  · refine .getGraph fun g hg => ?_
    have hc := hP.rootElement q _ (hg.nameOf hP.empty base)
    refine (newNode_spells hP hc _ _ _ _).then_ fun id => ?_
    refine (modify_spells ?_ id).then_ fun _ => (Spells.modifyContext _).then_ fun _ => ?_
    · exact fun _ => rfl
    · exact alike_spells fun _ => alike_setBase _ _

omit hP in
theorem demote_spells (id : NodeId) : Spells P (demote id) fun _ => True := by
  refine modify_spells (fun n => ?_) id
  exact Node.name_mapClass _ _

theorem claimRoot_spells (id : NodeId) (q : QName) (document : Document) :
    Spells P (claimRoot env id q document) fun _ => True := by
  intro s _ t hs hm
  refine ⟨?_, trivial⟩
  cases claimRoot_cases hm with
  | further _ hroot => exact (rootClass_spells hP id q document s _ t hs hroot).1
  | first _ _ ht => exact ht ▸ hs.of_alike (.modify fun _ => rfl)
  | second _ _ _ hdemote hfirst hroot =>
    have hs₁ := (demote_spells id s _ _ hs hdemote).1
    have hs₂ := (rootClass_spells hP id _ _ _ _ _ hs₁ hfirst).1
    exact (rootClass_spells hP id q document _ _ t hs₂ hroot).1

theorem topLevelElement_spells (d : Declared ElementDecl) :
    Spells P (topLevelElement env d) fun _ => True := by
  intro s _ t hs hm
  obtain ⟨resolved, s₁, s₂, htype, hjoin, hclaim⟩ := topLevelElement_cases hm
  have hs₁ := (globalElementType_spells hP (callsUpTo_spell hP _) d s _ _ hs htype).1
  have hs₂ : s₂.graph.Spelled P := by
    rcases hjoin with ⟨-, rfl⟩ | ⟨_, -, rfl⟩
    · exact hs₁
    · exact hs₁
  have hspells : Spells P (claimClass env d.definition d.document resolved.type) fun _ => True := by
    unfold claimClass
    split
    · exact .pure trivial
    · refine .getGraph fun g _ => ?_
      split
      · exact .pure trivial
      · split
        · refine modify_spells ?_ _
          exact fun _ => rfl
        · exact claimRoot_spells hP _ _ _
  exact hspells s₂ _ t hs₂ hclaim

theorem task_spells (x : Task) : Spells P (x.run env) fun _ => True := by
  cases x with
  | type name g =>
    exact (globalType_spells hP (callsUpTo_spell hP _) g).then_ fun _ => .pure trivial
  | element g => exact topLevelElement_spells hP _

end

/-- What the naming gives to candidates holds of the names of all nodes that are built. -/
theorem run_spelled (hP : env.naming.Gives P) {resolver : Resolver}
    (h : run env resolver = .ok s) : s.graph.Spelled P := by
  refine (Spells.forM (task_spells hP) _ { resolver } _ _ (fun id n hn => ?_) (run_eq h)).1
  simp [Graph.node?] at hn

/-- It holds of them when the graph is finished, too: a node that gets another name gets a number
behind the one that it has. -/
theorem finished_spelled (hP : env.naming.Gives P) (hs : s.graph.Spelled P) :
    (s.finished env).Spelled P := by
  have htidied := hs.of_alike ((alike_tidied env s).comp Prod.fst)
  have hmarked {g : Graph} (hg : g.Spelled P) : g.markAmbiguous.Spelled P := hg
  unfold State.finished finish
  dsimp only
  split
  · refine hmarked (List.foldlRecOn (motive := fun u : NameUse => u.graph.Spelled P) _ _ htidied
      fun u hu id _ => ?_)
    unfold NameUse.settle
    dsimp only
    split
    · exact hu
    · intro j m hm
      cases hn : u.graph.node? id with
      | none =>
        rw [rename, hn] at hm
        exact hu j m hm
      | some n =>
        rw [node?_rename hn] at hm
        split at hm
        · obtain rfl := Option.some.inj hm
          exact hP.firstFree (hu.nameOf hP.empty id) _ _ _
        · exact hu j m hm
  · exact hmarked htidied

end Build

end XmlTypes
