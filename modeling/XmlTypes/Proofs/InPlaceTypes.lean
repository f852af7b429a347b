import XmlTypes.Proofs.Provenance
import XmlTypes.Proofs.TypeNames
/-!
# Types given in place

A complex type or an enumeration that the schema gives in place has one node, however often the
members around it are met: a group is expanded into every type that refers to it, and a global
element or attribute is referred to from many places, but the place where the type is given is
always the same. So the nodes without a name in the schema, but for the classes of root elements,
correspond to the types given in place (`types_in_place_correspond`).
-/

namespace XmlTypes.Build

open Schema XmlTypes.Graph

variable {env : Environment} {s : State} {d d' : Declared TypeRef} {id : NodeId}

/-- A complex type or an enumeration is given in place there. -/
structure IsInPlace (env : Environment) (d : Declared TypeRef) : Prop where
  belongs : Belongs env.index (.reference d)
  inPlace : ∃ type, d.definition = .inline type
  node : NodeIn env d.document d.definition

/-- The node of the graph is the class that was opened for the complex type that is given there, or
the enumeration that is remembered for the place. -/
def MadeInPlace (env : Environment) (s : State) (g : Graph) (d : Declared TypeRef) (id : NodeId) :
    Prop :=
  IsInPlace env d ∧ ∃ n, g.node? id = some n ∧
    match d.definition with
    | .inline (.complex type) => n.isClass = true ∧ OpenedFor s id (· = d.inPlace type)
    | .inline (.simple _) => n.kind.label = "enum" ∧ s.context.inlineType? d.place = some id
    | .named _ => False

/-- Where types are met: at the members of opened classes and interfaces, unless a restriction
restates them, at global elements, and at simple contents. -/
inductive Reached (env : Environment) (s : State) : Declared TypeRef → Prop
  | member {r stops m d} : r ∈ s.journal → r.Along env.index stops → m ∈ stops →
      m.key ∉ r.scope.restated → m.typeRef? = some d → Reached env s d
  | element {n g type} : env.index.element? n = some g → g.definition.typeRef = some type →
      Reached env s ((Declared.ofGlobal .elements g).part .type type)
  | content {r d type} : r ∈ s.journal → r.source = .type d →
      d.definition.simpleContent = some type → Reached env s (d.part .simpleContent type)

/-- What holds values of a type in the graph `g` that is made of a state: the property for a member
of that type, in whatever class or interface; an element that stands in for another, listed with a
property or with one of its own; and the text of a class. -/
inductive HoldsType (env : Environment) (s : State) (g : Graph) :
    Declared TypeRef → ValueType → Prop
  | property {id p q m d} : p ∈ g.properties id → q ∈ s.graph.properties id → p.bare = q.bare →
      ComesFrom env s id m q → m.typeRef? = some d → HoldsType env s g d p.type
  | beside {id p m x e type} : p ∈ g.properties id → AddedBeside env s id m x p →
      env.index.element? x.member = some e → e.definition.typeRef = some type →
      HoldsType env s g ((Declared.ofGlobal .elements e).part .type type) p.type
  | substitute {id p x e type} : p ∈ g.properties id → x ∈ p.substitutes →
      env.index.element? x.member = some e → e.definition.typeRef = some type →
      HoldsType env s g ((Declared.ofGlobal .elements e).part .type type) x.type
  | text {r d type v} : r ∈ s.journal → r.source = .type d →
      d.definition.simpleContent = some type → g.text? r.scope.owner = some v →
      HoldsType env s g (d.part .simpleContent type) v

/-! ## Nodes for places -/

/-- A type given in place has a node exactly if one is remembered for the place. -/
theorem madeInPlace_iff {set : SchemaSet} {options : Options} {naming : Naming}
    {resolver : Resolver} (hset : set.namesTypes = true)
    (h : run (.ofSet set options naming) resolver = .ok s)
    (hd : IsInPlace (.ofSet set options naming) d) :
    MadeInPlace (.ofSet set options naming) s (s.finished (.ofSet set options naming)) d id ↔
      s.context.inlineType? d.place = some id := by
  have hix := Index.lawful_ofSet set
  have hsound := (run_ok hix h).1.sound_of_start
  obtain ⟨type, hdef⟩ := hd.inPlace
  have hname : type.name = none := hd.belongs.name_of_inline hset hdef
  constructor
  · rintro ⟨-, n, -, hmade⟩
    rw [hdef] at hmade
    cases type with
    | simple type => exact hmade.2
    | complex type =>
      obtain ⟨-, r, hr, rfl, _, hsource, rfl⟩ := hmade
      exact hsound.opened r hr _ hsource hname
  · intro hplace
    obtain ⟨m, hm, r, type', hr, hrp, hrdef, hlabel⟩ := hsound.inPlace _ _ hplace
    cases hr.unique hd.belongs hrp
    obtain rfl := TypeRef.inline.inj (hrdef.symm.trans hdef)
    obtain ⟨n, hn, hs⟩ := finished_node? (.ofSet set options naming) hm
    refine ⟨hd, n, hn, ?_⟩
    rw [hdef, hs.label, hlabel, Node.isClass_congr hs.label]
    cases type' with
    | simple type => exact ⟨rfl, hplace⟩
    | complex type =>
      have hclass := isClass_of_label hlabel
      obtain ⟨r, hr', ho, t, hsource, ht⟩ :=
        (run_opened hix h (class?_isSome.2 ⟨m, hm, hclass⟩)).2 _ hplace
      -- Only one type is given there.
      have hbelongs := (((run_recorded hix h).openings r hr').type t hsource).2
      cases hbelongs.unique (.typeInPlace hd.belongs hdef) ht
      exact ⟨hclass, r, hr', ho, _, hsource, rfl⟩

/-! ## Values of a type -/

namespace Completed

variable {resolver : Resolver} (hs : Completed env resolver s)
include hs

/-- What is registered for an element is placed where the type of the element stands. -/
theorem placed_member {x : Substitute} {e : Global ElementDecl} {type : TypeRef} {head : QName}
    (hx : x ∈ s.context.substitutions.membersOf head) (he : env.index.element? x.member = some e)
    (htype : e.definition.typeRef = some type) :
    Placed env s ((Declared.ofGlobal .elements e).part .type type) x.type := by
  obtain ⟨-, e', hname, hjoins, hknown⟩ := hs.registered.members head x hx
  have hsame := hjoins.1
  rw [hname, he] at hsame
  obtain rfl := Option.some.inj hsame
  exact hknown.placed type htype

/-- What holds values of a type is of the node for the place where the type stands. -/
theorem placed {v : ValueType} (h : HoldsType env s (s.finished env) d v) : Placed env s d v := by
  cases h with
  | @property id p q m d hp hq hbare hfrom hd =>
    obtain ⟨r, hr, rfl, stops, halong, hgives⟩ := hfrom
    obtain ⟨stops', halong', hfilled⟩ := (hs.complete r hr).filled
    obtain rfl := halong.unique halong'
    have htype : p.bare.type = q.bare.type := congrArg _ hbare
    exact htype ▸ hfilled.placed q hq m hgives d hd
  | @beside id p m x e type hp hbeside he htype =>
    obtain ⟨head, -, -, hx, ownerName, hbare⟩ := hbeside
    obtain ⟨head', hx'⟩ := Substitutions.mem_substitutesOf hx
    have htype' : p.bare.type = x.type := congrArg Property.type hbare
    exact htype' ▸ hs.placed_member hx' he htype
  | @substitute id p x e type hp hx he htype =>
    obtain ⟨q, hq, -, hsubstitutes⟩ := finished_arises hp
    rcases (s.attached_of env).substitutes id q hq x (hsubstitutes ▸ hx) with
      ⟨q', hq', hx'⟩ | ⟨head, hx'⟩
    · rw [hs.substitutes_nil hq'] at hx'
      cases hx'
    · exact hs.placed_member hx' he htype
  | @text r d type v hr hsource hcontent hv =>
    obtain ⟨v', hv', -, hplaced⟩ := (hs.faithful hr).text d type hsource hcontent
    rw [(s.finished_shares env).text?, hv', Option.some.injEq] at hv
    exact hv ▸ hplaced

/-- What is remembered for a place is remembered for the type that is given there. -/
theorem isInPlace {p : Place} (hp : s.context.inlineType? p = some id) :
    ∃ d, IsInPlace env d ∧ d.place = p := by
  obtain ⟨-, -, d, type, hd, hplace, hdef, -⟩ := hs.built.sound_of_start.inPlace p id hp
  exact ⟨d, ⟨hd, ⟨type, hdef⟩, hs.ready.places p id hp d hd hplace⟩, hplace⟩

/-- Every type that is reached comes to something. -/
theorem exists_placed (h : Reached env s d) : ∃ v, Placed env s d v := by
  cases h with
  | member hr halong hm hfree hd =>
    obtain ⟨stops', halong', hfilled⟩ := (hs.complete _ hr).filled
    obtain rfl := halong.unique halong'
    exact (hfilled.typed _ hm hfree).imp fun v hv => hv d hd
  | element hg htype => exact (hs.known _ _ hg).imp fun v hv => hv.placed _ htype
  | content hr hsource hcontent =>
    obtain ⟨v, -, -, hplaced⟩ := (hs.faithful hr).text _ _ hsource hcontent
    exact ⟨v, hplaced⟩

end Completed

/-! ## The correspondence -/

section
variable {set : SchemaSet} {options : Options} {naming : Naming} {resolver : Resolver}

/-- A value that is placed where a type is given in place is the node of the type. -/
theorem Placed.madeInPlace (hset : set.namesTypes = true)
    (h : run (.ofSet set options naming) resolver = .ok s)
    (hd : IsInPlace (.ofSet set options naming) d) {v : ValueType}
    (hv : Placed (.ofSet set options naming) s d v) : ∃ id, v = .node id ∧
      MadeInPlace (.ofSet set options naming) s (s.finished (.ofSet set options naming)) d id := by
  obtain ⟨type, hdef⟩ := hd.inPlace
  obtain ⟨id, rfl⟩ := hv.node hd.node
  have hname : type.name = none := hd.belongs.name_of_inline hset hdef
  exact ⟨id, rfl, (madeInPlace_iff hset h hd).2 (hv.place type id hdef (fun _ => hname) rfl)⟩

/-- Every type that is given in place and reached has one node, which is that of all that holds
values of the type; two types never have the same; and the anonymous nodes are those of types
given in place. -/
theorem types_in_place_correspond (hset : set.namesTypes = true)
    (hglobals : set.namesGlobals = true) (h : run (.ofSet set options naming) resolver = .ok s) :
    let env := Environment.ofSet set options naming
    let g := s.finished env
    (∀ d, Reached env s d → IsInPlace env d → ∃! id, MadeInPlace env s g d id) ∧
    (∀ d v, HoldsType env s g d v → IsInPlace env d →
      ∃ id, v = .node id ∧ MadeInPlace env s g d id) ∧
    (∀ d d' id, MadeInPlace env s g d id → MadeInPlace env s g d' id → d = d') ∧
    ∀ id n, g.node? id = some n → (n.isAnonymous = true ↔ ∃ d, MadeInPlace env s g d id) := by
  intro env g
  have hix : env.index.Lawful := Index.lawful_ofSet set
  have hs : Completed env resolver s := run_completed h
  have hlisted : Listed env s := run_listed hix h
  have hplace {d : Declared TypeRef} {id : NodeId} (hm : MadeInPlace env s g d id) :
      s.context.inlineType? d.place = some id := (madeInPlace_iff hset h hm.1).1 hm
  refine ⟨fun d hreached hd => ?_, fun d v hholds hd => ?_, fun d d' id hm hm' => ?_,
    fun id n hn => ⟨fun ha => ?_, ?_⟩⟩
  · obtain ⟨v, hv⟩ := hs.exists_placed hreached
    obtain ⟨id, -, hm⟩ := hv.madeInPlace hset h hd
    exact ⟨id, hm, fun j hj => Option.some.inj ((hplace hj).symm.trans (hplace hm))⟩
  · exact (hs.placed hholds).madeInPlace hset h hd
  · have hsame := hlisted.distinct _ _ id (hplace hm) (hplace hm')
    exact Item.reference.inj (hm.1.belongs.unique hm'.1.belongs hsame)
  · obtain ⟨m, hm, hshares⟩ := node?_of_finished hn
    have hanonymous : m.isAnonymous = true := hshares.isAnonymous.symm.trans ha
    rcases hlisted.unnamed id m hm (hlisted.anonymous id m hm hanonymous) with
      ⟨⟨-, hno⟩, -⟩ | ⟨p, hp⟩ | hmisnamed
    · exact absurd (hno.symm.trans hanonymous) Bool.false_ne_true
    · obtain ⟨d, hd, rfl⟩ := hs.isInPlace hp
      exact ⟨d, (madeInPlace_iff hset h hd).2 hp⟩
    · exact absurd hmisnamed (not_misnamed hset hglobals)
  · rintro ⟨d, hm⟩
    obtain ⟨m, hm', hanonymous, -⟩ := hlisted.inPlace _ id (hplace hm)
    obtain ⟨n', hn', hshares⟩ := finished_node? env hm'
    obtain rfl := Option.some.inj (hn.symm.trans hn')
    exact hshares.isAnonymous.trans hanonymous

end

/-- A type with the content of a group. -/
def givenThere (name : String) : TypeDefinition :=
  .complex
    { name := some (sampleName name)
      particle := some (sampleSequence [.one (.groupRef (sampleName "G"))]) }

/-- A group that two types refer to, with a complex type and an enumeration given in place. -/
def givenInGroup : SchemaSet :=
  sampleSet [givenThere "A", givenThere "B"]
    [{ name := sampleName "G"
       group := { particles :=
        [.one (.element { name := sampleName "item", typeRef := some (.inline (.complex {})) }),
         .one (.element
          { name := sampleName "kind"
            typeRef := some (.inline (.simple
              { content := .restriction (.named (.xsd "string")) [.literal "first"] })) })] } }]

/-- The environment in which they are built. -/
def givenInGroupEnv : Environment := .ofSet givenInGroup {} .conventional

/-- Each of the two has one node, though the group is met three times. -/
theorem types_in_place_correspond_in_group : ∃ s, run givenInGroupEnv oneNamespace = .ok s ∧
    let g := s.finished givenInGroupEnv
    g.nodes.countP (·.isAnonymous) = 2 ∧
    (∀ d, Reached givenInGroupEnv s d → IsInPlace givenInGroupEnv d →
      ∃! id, MadeInPlace givenInGroupEnv s g d id) ∧
    (∀ d v, HoldsType givenInGroupEnv s g d v → IsInPlace givenInGroupEnv d →
      ∃ id, v = .node id ∧ MadeInPlace givenInGroupEnv s g d id) ∧
    (∀ d d' id, MadeInPlace givenInGroupEnv s g d id → MadeInPlace givenInGroupEnv s g d' id →
      d = d') ∧
    ∀ id n, g.node? id = some n →
      (n.isAnonymous = true ↔ ∃ d, MadeInPlace givenInGroupEnv s g d id) := by
  obtain ⟨s, h, htwo⟩ := exists_of_any (x := run givenInGroupEnv oneNamespace)
    (p := fun s => (s.finished givenInGroupEnv).nodes.countP (·.isAnonymous) = 2)
    (by decide +kernel)
  exact ⟨s, h, of_decide_eq_true htwo, types_in_place_correspond (by decide) (by decide) h⟩

end XmlTypes.Build
