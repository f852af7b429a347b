import XmlTypes.Proofs.InPlaceTypes
import XmlTypes.Proofs.Roots
/-!
# Which classes are built

A finished graph has a class for every global complex type (`exists_class_declaredAs`), for every
complex type given in place that something asks for (`Completed.hasClass_of_reached`), and for every
global element that has a complex type (`hasRootClass`). What is built for a type given in place is
asked for (`HasClass.asked`).
-/

namespace XmlTypes.Build

open Schema XmlTypes.Graph

/-- The finished graph has a class for the complex type. -/
def HasClass (env : Environment) (s : State) (d : Declared ComplexType) : Prop :=
  ∃ id, BuiltFor env s id d ∧ ((s.finished env).class? id).isSome

variable {env : Environment} {resolver : Resolver} {s : State} {id : NodeId}
  {d d' : Declared ComplexType} {x : Declared TypeRef} {n : QName}

theorem BuiltFor.hasClass (hr : Recorded env s) (h : BuiltFor env s id d) : HasClass env s d :=
  ⟨id, h, (s.finished_shares env).isSome_class? id ▸ h.2.isSome_class? hr⟩

/-! ## Global types -/

/-- A global complex type has a class, which is opened for what is declared under its name. -/
theorem exists_class_declaredAs (hix : env.index.Lawful) (h : run env resolver = .ok s)
    {g : Global TypeDefinition} (hg : env.index.type? n = some g)
    (hk : g.definition.isComplex = true) : ∃ d, DeclaredAs env.index n d ∧ HasClass env s d := by
  obtain ⟨he, hbuilt⟩ := run_built hix h
  obtain ⟨id, hd, hclass⟩ := hbuilt n g hg
  have hr := run_recorded hix h
  obtain ⟨d, hd, hdeclared⟩ := (hd.opened he (hclass hk)).builtFor hr
  exact ⟨d, hdeclared, hd.hasClass hr⟩

/-- Where types given in place have no names, one type is declared under a name. -/
theorem DeclaredAs.unique {set : SchemaSet} (hset : set.namesTypes = true)
    (hd : Belongs (.ofSet set) (.type d)) (hd' : Belongs (.ofSet set) (.type d'))
    (h : DeclaredAs (.ofSet set) n d) (h' : DeclaredAs (.ofSet set) n d') : d = d' := by
  have hplace {d : Declared ComplexType} (hd : Belongs (.ofSet set) (.type d))
      (h : DeclaredAs (.ofSet set) n d) :
      ∃ g, (Index.ofSet set).type? n = some g ∧ d.place = ⟨.types, g.slot, []⟩ := by
    obtain ⟨-, -, -, hname⟩ := h
    rcases hd.type_cases with ⟨m, g, hg, hdef, -, hplace⟩ | ⟨r, hr, hdef, -, -⟩
    · have hm := (Index.lawful_ofSet set).types m g hg
      rw [hdef] at hm
      obtain rfl : n = m := Option.some.inj (hname.symm.trans hm)
      exact ⟨g, hg, hplace⟩
    · exact absurd (hname.symm.trans (hr.name_of_inline hset hdef)) nofun
  obtain ⟨g, hg, hplaced⟩ := hplace hd h
  obtain ⟨g', hg', hplaced'⟩ := hplace hd' h'
  obtain rfl := Option.some.inj (hg.symm.trans hg')
  exact Item.type.inj (hd.unique hd' (hplaced.trans hplaced'.symm))

/-! ## Types given in place -/

theorem Stop.typeRef?_member (m : Stop) : m.member.typeRef? = m.typeRef? := by
  cases m <;> rfl

namespace Completed

variable (hs : Completed env resolver s)
include hs

/-- What is asked for is reached by a walk. -/
theorem reached_of_asked (h : Asked env.index s.journal x) : Reached env s x := by
  cases h with
  | element hg htype => exact .element hg htype
  | opening hr h =>
    cases h with
    | content hsource htype => exact .content hr hsource htype
    | member hm hfree htype =>
      obtain ⟨stops, halong, -⟩ := (hs.complete _ hr).filled
      obtain ⟨m, hmem, rfl⟩ := halong.exists_stop hm
      exact .member hr halong hmem hfree (m.typeRef?_member ▸ htype)

/-- A complex type that is reached where it is given has a class, unless it has a name. -/
theorem hasClass_of_reached (hx : Reached env s x)
    (hbelongs : Belongs env.index (.reference x)) {type : ComplexType}
    (hdef : x.definition = .inline (.complex type)) (hname : type.name = none) :
    HasClass env s (x.inPlace type) := by
  obtain ⟨v, hv⟩ := hs.exists_placed hx
  obtain ⟨id, rfl⟩ := hv.node (by rw [hdef]; trivial)
  have hplace := hv.place _ id hdef (fun _ => hname) rfl
  -- What is remembered for the place is a class, since the type is complex.
  obtain ⟨n, hn, y, type', hy, hyplace, hydef, hlabel⟩ :=
    hs.built.sound_of_start.inPlace _ _ hplace
  cases hy.unique hbelongs hyplace
  obtain rfl := TypeRef.inline.inj (hydef.symm.trans hdef)
  rcases hs.built.opened_of_place hplace with hstart | ⟨m, hm, hno⟩ | ho
  · cases hstart
  · obtain rfl := Option.some.inj (hn.symm.trans hm)
    exact absurd (isClass_of_label hlabel) (by rw [hno]; exact Bool.false_ne_true)
  · obtain ⟨d, hd, hdplace⟩ := ho.builtFor hs.recorded
    cases (Belongs.typeInPlace hbelongs hdef).unique hd.1 hdplace.symm
    exact hd.hasClass hs.recorded

end Completed

/-- A type that is given in place has a class because it is asked for there. -/
theorem HasClass.asked (hr : Recorded env s) (h : HasClass env s d) (hplace : d.place.steps ≠ []) :
    ∃ x, Belongs env.index (.reference x) ∧ x.definition = .inline (.complex d.definition) ∧
      d = x.inPlace d.definition ∧ Asked env.index s.journal x := by
  obtain ⟨id, ⟨hd, r, hmem, -, _, hsource, rfl⟩, -⟩ := h
  cases hr.sought r hmem _ hsource with
  | isGlobal hglobal => exact absurd hglobal hplace
  | @inPlace x type hasked hdef =>
    rcases hd.type_cases with ⟨_, _, -, -, -, hglobal⟩ | ⟨y, hy, hydef, hydoc, hyplace⟩
    · exact absurd (congrArg Place.steps hglobal) hplace
    · obtain rfl : y = x := by
        obtain ⟨_, _, _⟩ := x
        obtain ⟨_, _, _⟩ := y
        cases hydoc
        cases hyplace
        cases hdef
        cases hydef
        rfl
      exact ⟨y, hy, hdef, rfl, hasked⟩

end XmlTypes.Build

/-! ## Root elements -/

namespace XmlTypes.Schema.SchemaSet

/-- The element counts and has a complex type: a global one, or one that is given in place. -/
inductive HasComplexType (set : SchemaSet) (e : Global ElementDecl) : Prop
  | named {n g} : set.ElementOf n e → (Index.ofSet set).type? n = some g →
      g.definition.isComplex = true → HasComplexType set e
  | inPlace {type} : set.Counts e → e.definition.typeRef = some (.inline (.complex type)) →
      HasComplexType set e

/-- Another element has the same global type. The type is written as a name that is not empty, as
nothing is remembered under an empty one. -/
def SharesType (set : SchemaSet) (e : Global ElementDecl) : Prop :=
  ∃ n e', n.isEmpty = false ∧ set.ElementOf n e ∧ set.ElementOf n e' ∧ e ≠ e'

end XmlTypes.Schema.SchemaSet

namespace XmlTypes.Build

open Schema

/-- The class is for the type of the element: a global complex type, or one given in place. -/
inductive IsClassOf (env : Environment) (s : State) (e : Global ElementDecl) (id : NodeId) : Prop
  | named {n} : e.definition.typeRef = some (.named n) → isBuiltin n = false →
      OpenedFor s id (DeclaredAs env.index n) → IsClassOf env s e id
  | inPlace {type} : e.definition.typeRef = some (.inline (.complex type)) → InPlaceFor s e id →
      IsClassOf env s e id

/-- The element has the class of its type for itself, or one that derives from that class if other
elements have the type too. -/
def HasRootClass (set : SchemaSet) (env : Environment) (s : State) (e : Global ElementDecl) :
    Prop :=
  ∃ id, IsClassOf env s e id ∧
    (set.SharesType e → ∃ r, (s.finished env).IsRootOf id e.definition.name r) ∧
    (¬ set.SharesType e → ∃ n, (s.finished env).node? id = some n ∧ n.isClass = true ∧
      n.root = some e.definition.name)

variable {set : SchemaSet} {options : Options} {naming : Naming} {resolver : Resolver} {s : State}
  {e : Global ElementDecl}

section
variable {env : Environment} {claims inPlace : List Claim} {id : NodeId}
  (hix : env.index = .ofSet set) (hb : Between env resolver s claims inPlace)
include hix hb

/-- An element that shares its class with none shares its type with none. -/
theorem Between.length_claimants (hmem : ⟨e, id⟩ ∈ claims) (halone : ¬ set.SharesType e) :
    (claimants claims id).length ≤ 1 := by
  refine Nat.le_of_not_lt fun hlen => halone ?_
  have hnames := hb.rooted.names _ ⟨hmem, hlen⟩
  obtain ⟨he, hnamed, hclass⟩ := hb.rooted.named _ hmem
  obtain ⟨m, hm, hne, htype, hbuiltin⟩ := hnamed.identity hb.built hnames
  obtain ⟨e', hmem', hother⟩ : ∃ e' ∈ claimants claims id, e ≠ e' := by
    refine Classical.byContradiction fun hno => ?_
    simp only [not_exists, not_and, ne_eq, Classical.not_not] at hno
    refine absurd (length_le_one_of_nodup (hb.rooted.nodup_claimants id) fun e₁ h₁ e₂ h₂ => ?_)
      (Nat.not_le.2 hlen)
    exact (hno e₁ h₁).symm.trans (hno e₂ h₂)
  -- The other element writes the name of the class too.
  obtain ⟨he', hnamed', -⟩ := hb.rooted.named _ (mem_claimants.1 hmem')
  obtain ⟨m', hm', -, htype', -⟩ :=
    hnamed'.identity hb.built (hnamed.names hb.built hclass hnamed' hnames)
  obtain rfl := Option.some.inj (hm.symm.trans hm')
  rw [hix] at he he'
  exact ⟨_, e', hne, ⟨⟨SchemaSet.counts_iff.2 he, htype⟩, hbuiltin⟩,
    ⟨⟨SchemaSet.counts_iff.2 he', htype'⟩, hbuiltin⟩, hother⟩

variable (hall : ∀ g, env.index.element? g.definition.name = some g → Settled env s claims inPlace g)
include hall

/-- An element that shares its type shares its class. -/
theorem Between.shared (hmem : ⟨e, id⟩ ∈ claims) {n : QName} {g : Global TypeDefinition}
    (he : set.ElementOf n e) (hg : env.index.type? n = some g)
    (hk : g.definition.isComplex = true) (hshares : set.SharesType e) :
    Shared claims ⟨e, id⟩ := by
  obtain ⟨n', e', hne, hn', he', hother⟩ := hshares
  obtain rfl : n = n' := by simpa [he.1.2] using hn'.1.2
  obtain ⟨-, ⟨m, htype, -, ⟨g₁, _, hg₁, ⟨⟩, hid, -⟩, -⟩, -⟩ := hb.rooted.named _ hmem
  obtain rfl : n = m := by simpa [he.1.2] using htype
  obtain ⟨id', ⟨g₂, _, hg₂, ⟨⟩, hid', -⟩, hmem'⟩ :=
    (hall e' (hix ▸ SchemaSet.counts_iff.1 he'.1.1)).named n g he'.1.2 he'.2 hg hk
  -- One node is remembered under the name.
  obtain rfl := Option.some.inj (hg₁.symm.trans hg₂)
  obtain rfl := Option.some.inj ((hid hne).symm.trans (hid' hne))
  exact ⟨hmem, two_le_length_of_ne (mem_claimants.2 hmem) (mem_claimants.2 hmem') hother⟩

end

/-- The class of the type of an element is for the element alone, or one that derives from it is,
exactly if others have the type too. -/
theorem hasRootClass (h : run (.ofSet set options naming) resolver = .ok s)
    (he : set.HasComplexType e) : HasRootClass set (.ofSet set options naming) s e := by
  obtain ⟨claims, inPlace, hb, hall⟩ := run_rooted (Index.lawful_ofSet set) h
  -- A class of the run is one of the finished graph.
  have hfinished {id : NodeId} (hclass : (s.graph.class? id).isSome) :
      ∃ node, (s.finished (.ofSet set options naming)).node? id = some node ∧
        node.isClass = true := by
    obtain ⟨m, hm, hmclass⟩ := Graph.class?_isSome.1 hclass
    obtain ⟨node, hnode, hshares⟩ := finished_node? (.ofSet set options naming) hm
    exact ⟨node, hnode, by rw [Node.isClass_congr hshares.label, hmclass]⟩
  cases he with
  | @inPlace type he htype =>
    obtain ⟨id, hmem⟩ := (hall e (SchemaSet.counts_iff.1 he)).inPlace type htype
    obtain ⟨-, hin, hclass⟩ := hb.rooted.given _ hmem
    obtain ⟨node, hnode, hnodeclass⟩ := hfinished hclass
    refine ⟨id, .inPlace htype hin, fun ⟨n, _, _, hn, _⟩ => ?_, fun _ =>
      ⟨node, hnode, hnodeclass, hb.rooted.inPlaceRoot hb.built hmem hnode⟩⟩
    exact absurd (htype.symm.trans hn.1.2) nofun
  | @named n g he hg hk =>
    obtain ⟨id, hd, hmem⟩ :=
      (hall e (SchemaSet.counts_iff.1 he.1.1)).named n g he.1.2 he.2 hg hk
    obtain ⟨-, -, hclass⟩ := hb.rooted.named _ hmem
    obtain ⟨node, hnode, hnodeclass⟩ := hfinished hclass
    refine ⟨id, .named he.1.2 he.2 (hd.opened hb.built hclass), fun hshares => ?_, fun halone =>
      ⟨node, hnode, hnodeclass, hb.rooted.root_of_mem hb.built (mem_claimants.2 hmem)
        (hb.length_claimants rfl hmem halone) hnode⟩⟩
    obtain ⟨r, hmade⟩ := hb.rooted.classes.made ⟨e, id⟩ (hb.shared rfl hall hmem he hg hk hshares)
    exact ⟨r, hb.rooted.isRootOf hb.built.recorded_of_start hmade⟩

end XmlTypes.Build
