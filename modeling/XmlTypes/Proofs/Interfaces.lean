import XmlTypes.Proofs.BuiltClasses
import XmlTypes.Proofs.OwnMembers
/-!
# Builds with and without interfaces

Whether groups give interfaces or not, the classes of a build correspond to those of the other
(`interfaces_leave_classes`): there are classes for the same global complex types and root elements,
with corresponding bases, and what one of two corresponding classes declares the other declares too,
if nothing disturbs their openings. Two things may differ. An interface declares the members of its
group, and so asks for types that are given in place there, even if no class does. And an interface
takes names, and a class that is named differently names its members differently, so that the name
of a member may be taken. Both happen (`interfaces_change_classes`).
-/

namespace XmlTypes.Build

open Schema

variable {set : SchemaSet} {options options' : Options} {naming : Naming}
  {resolver resolver' : Resolver} {s s' : State}

/-! ## Base classes -/

section
variable (hset : set.namesTypes = true)
  (h : run (.ofSet set options naming) resolver = .ok s)
  (h' : run (.ofSet set options' naming) resolver' = .ok s')
include hset h h'

/-- The bases of two classes for one type are classes for one type. -/
theorem bases_alike_step {x x₁ y : NodeId} {d : Declared ComplexType}
    (hd : BuiltFor (.ofSet set options naming) s y d)
    (hd' : BuiltFor (.ofSet set options' naming) s' x d) (hbase : s'.graph.base? x = some x₁) :
    ∃ y₁ d₁, s.graph.base? y = some y₁ ∧ BuiltFor (.ofSet set options naming) s y₁ d₁ ∧
      BuiltFor (.ofSet set options' naming) s' x₁ d₁ := by
  have hix := Index.lawful_ofSet set
  have hderives := finished_derives hix h
  have hderives' := finished_derives hix h'
  rw [← (s'.finished_shares (.ofSet set options' naming)).base?] at hbase
  by_cases hcomplex : ∃ n, HasComplexBase (.ofSet set) d n
  · obtain ⟨n, hn⟩ := hcomplex
    obtain ⟨y₁, hy₁, -, ho⟩ := hderives.base y d n hd hn
    obtain ⟨x₂, hx₂, -, ho'⟩ := hderives'.base x d n hd' hn
    obtain rfl := Option.some.inj (hbase.symm.trans hx₂)
    obtain ⟨d₁, hd₁, hname⟩ := ho.builtFor (run_recorded hix h)
    obtain ⟨d₂, hd₂, hname'⟩ := ho'.builtFor (run_recorded hix h')
    -- One type is declared under the name.
    obtain rfl := DeclaredAs.unique hset hd₁.1 hd₂.1 hname hname'
    exact ⟨y₁, d₁, (s.finished_shares _).base? y ▸ hy₁, hd₁, hd₂⟩
  · rw [not_exists] at hcomplex
    exact absurd (hbase.symm.trans (hderives'.baseless x d hd' hcomplex)) nofun

/-- So are the base classes of two classes for one type, however far up. -/
theorem basesAlike {r r' : Opening} {d : Declared ComplexType} (hr : r ∈ s.journal)
    (hr' : r' ∈ s'.journal) (hd : r.source = .type d) (hd' : r'.source = .type d)
    (hacyclic : ¬ s.graph.DerivesFrom r.scope.owner r.scope.owner) : BasesAlike s s' r r' := by
  have hs := run_recorded (Index.lawful_ofSet set) h
  have hs' := run_recorded (Index.lawful_ofSet set) h'
  intro a' ha' hancestor
  obtain ⟨y, d₁, hy, ⟨-, a, ha, rfl, _, hda, rfl⟩, -, b, hb, howner, _, hdb, rfl⟩ :
      ∃ y d₁, s.graph.DerivesFrom r.scope.owner y ∧
        BuiltFor (.ofSet set options naming) s y d₁ ∧
        BuiltFor (.ofSet set options' naming) s' a'.scope.owner d₁ := by
    have hbuilt : BuiltFor (.ofSet set options naming) s r.scope.owner d :=
      ⟨((hs.openings r hr).type d hd).2, r, hr, rfl, d, hd, rfl⟩
    have hbuilt' : BuiltFor (.ofSet set options' naming) s' r'.scope.owner d :=
      ⟨((hs'.openings r' hr').type d hd').2, r', hr', rfl, d, hd', rfl⟩
    have hderives := (Graph.mem_ancestors.1 hancestor).2
    generalize a'.scope.owner = x at hderives ⊢
    induction hderives with
    | single hbase =>
      obtain ⟨y, d₁, hy, hd₁, hd₁'⟩ := bases_alike_step hset h h' hbuilt hbuilt' hbase
      exact ⟨y, d₁, .single hy, hd₁, hd₁'⟩
    | tail _ hbase ih =>
      obtain ⟨y, d₁, hy, hd₁, hd₁'⟩ := ih
      obtain ⟨z, d₂, hz, hd₂, hd₂'⟩ := bases_alike_step hset h h' hd₁ hd₁' hbase
      exact ⟨z, d₂, hy.tail hz, hd₂, hd₂'⟩
  obtain rfl := hs'.opening_eq ha' hb howner
  refine ⟨a, ha, Graph.mem_ancestors.2 ⟨fun he => ?_, hy⟩, hda.trans hdb.symm⟩
  exact hacyclic (he ▸ hy)

end

/-! ## How builds correspond -/

/-- If a class asks for a type that is not reached on the other side, a restriction restates there
what has the type. -/
theorem restated_of_unreached (hs : Completed (.ofSet set options naming) resolver s)
    (hs' : Completed (.ofSet set options' naming) resolver' s') {r r' : Opening}
    {c : Declared ComplexType} {x : Declared TypeRef} (hr : r ∈ s.journal) (hr' : r' ∈ s'.journal)
    (hc : r.source = .type c) (hc' : r'.source = .type c) (hu : r.Undisturbed (.ofSet set) s)
    (hu' : r'.Undisturbed (.ofSet set) s') (hbases : BasesAlike s s' r r')
    (hasks : r.AsksFor (.ofSet set) x)
    (hno : ¬ Reached (.ofSet set options' naming) s' x) :
    ∃ m : Member, m.typeRef? = some x ∧
      RestatedThere (.ofSet set options naming) s r r' m.mark := by
  cases hasks with
  | content hsource htype =>
    obtain rfl := Source.type.inj (hc.symm.trans hsource)
    exact absurd (.content hr' hc' htype) hno
  | @member m _ hm hfree htype =>
    refine ⟨m, htype, restatedThere hs hs' hr hr' hc hc' hu hu' hbases ?_ hfree⟩
    -- Otherwise the other class would ask for the type too.
    refine Classical.byContradiction fun hfree' => hno ?_
    obtain ⟨stops, halong, -⟩ := (hs.complete r hr).filled
    obtain ⟨stops', halong', -⟩ := (hs'.complete r' hr').filled
    obtain rfl := hu.unhindered.along_eq hu'.unhindered (hc.trans hc'.symm) halong halong'
    obtain ⟨y, hy, rfl⟩ := halong.exists_stop hm
    exact .member hr' halong' hy hfree' (y.typeRef?_member ▸ htype)

/-- How the classes of one build correspond to those of another one. -/
structure Corresponds (set : SchemaSet) (env env' : Environment) (s s' : State) : Prop where
  /-- Both have a class for each global complex type. -/
  types : ∀ n g, (Index.ofSet set).type? n = some g → g.definition.isComplex = true →
    ∃ d d', DeclaredAs (.ofSet set) n d ∧ DeclaredAs (.ofSet set) n d' ∧ HasClass env s d ∧
      HasClass env' s' d' ∧ (set.namesTypes = true → d = d')
  /-- Both have a class for a type given in place, unless only one of them asks for the type. Then
  no class asks for it that has a counterpart in the other build, if nothing disturbs the openings
  of the two and no restriction restates what has the type. -/
  inPlace : ∀ d, HasClass env s d → d.place.steps ≠ [] → d.definition.name = none →
    HasClass env' s' d ∨ ∃ x, d = x.inPlace d.definition ∧
      Asked (.ofSet set) s.journal x ∧ ¬ Asked (.ofSet set) s'.journal x ∧
      ∀ r ∈ s.journal, r.AsksFor (.ofSet set) x → ∀ r' ∈ s'.journal, ∀ c, r.source = .type c →
        r'.source = .type c → r.Undisturbed (.ofSet set) s → r'.Undisturbed (.ofSet set) s' →
        set.namesTypes = true ∨ BasesAlike s s' r r' →
        ∃ m : Member, m.typeRef? = some x ∧ RestatedThere env s r r' m.mark
  /-- Both have a class for each root element with a complex type. -/
  roots : ∀ e, set.HasComplexType e → HasRootClass set env s e ∧ HasRootClass set env' s' e
  /-- The bases of two classes for one type are classes for one type, or there are none. -/
  bases : ∀ d id id', BuiltFor env s id d → BuiltFor env' s' id' d →
    (∃ n b b', (s.finished env).base? id = some b ∧ (s'.finished env').base? id' = some b' ∧
      OpenedFor s b (DeclaredAs (.ofSet set) n) ∧ OpenedFor s' b' (DeclaredAs (.ofSet set) n)) ∨
    (s.finished env).base? id = none ∧ (s'.finished env').base? id' = none
  /-- Two classes for one type that are opened undisturbed declare the same, except for what has a
  name that is taken. Their base classes have to be for the same types, which they are where types
  given in place have no names. -/
  members : ∀ r ∈ s.journal, ∀ r' ∈ s'.journal, ∀ d, r.source = .type d → r'.source = .type d →
    r.Undisturbed (.ofSet set) s → r'.Undisturbed (.ofSet set) s' →
    set.namesTypes = true ∨ BasesAlike s s' r r' →
    ∀ p ∈ (s.finished env).properties r.scope.owner,
      (∃ p' ∈ (s'.finished env').properties r'.scope.owner, p'.mark = p.mark) ∨
      Obstructed set env env' s s' r r' p.mark

/-- The classes of a build with interfaces and of one without them correspond, in both directions.
-/
theorem interfaces_leave_classes {b b' : Bool}
    (h : run (.ofSet set { options with generateInterfaces := b } naming) resolver = .ok s)
    (h' : run (.ofSet set { options with generateInterfaces := b' } naming) resolver = .ok s') :
    Corresponds set (.ofSet set { options with generateInterfaces := b } naming)
      (.ofSet set { options with generateInterfaces := b' } naming) s s' := by
  have hix := Index.lawful_ofSet set
  have hs := run_completed h
  have hs' := run_completed h'
  have hderives := finished_derives hix h
  have hderives' := finished_derives hix h'
  have halike {r r' : Opening} {d : Declared ComplexType} (hr : r ∈ s.journal)
      (hr' : r' ∈ s'.journal) (hd : r.source = .type d) (hd' : r'.source = .type d)
      (hu : r.Undisturbed (.ofSet set) s) (hbases : set.namesTypes = true ∨ BasesAlike s s' r r') :
      BasesAlike s s' r r' :=
    hbases.elim (fun hset => basesAlike hset h h' hr hr' hd hd' hu.acyclic) id
  refine ⟨fun n g hg hk => ?_, fun d hd hplace hname => ?_,
    fun e he => ⟨hasRootClass h he, hasRootClass h' he⟩, fun d id id' hd hd' => ?_,
    fun r hr r' hr' d hd hd' hu hu' hbases p hp => ?_⟩
  · obtain ⟨d, hdeclared, hd⟩ := exists_class_declaredAs hix h hg hk
    obtain ⟨d', hdeclared', hd'⟩ := exists_class_declaredAs hix h' hg hk
    refine ⟨d, d', hdeclared, hdeclared', hd, hd', fun hset => ?_⟩
    obtain ⟨_, ⟨hbelongs, -⟩, -⟩ := hd
    obtain ⟨_, ⟨hbelongs', -⟩, -⟩ := hd'
    exact DeclaredAs.unique hset hbelongs hbelongs' hdeclared hdeclared'
  · obtain ⟨x, hbelongs, hdef, hx, hasked⟩ := hd.asked hs.recorded hplace
    by_cases hclass : HasClass (.ofSet set { options with generateInterfaces := b' } naming) s' d
    · exact .inl hclass
    have hno : ¬ Reached (.ofSet set { options with generateInterfaces := b' } naming) s' x :=
      fun hreached => hclass (hx ▸ hs'.hasClass_of_reached hreached hbelongs hdef hname)
    refine .inr ⟨x, hx, hasked, fun h => hno (hs'.reached_of_asked h), ?_⟩
    intro r hr hasks r' hr' c hc hc' hu hu' hbases
    exact restated_of_unreached hs hs' hr hr' hc hc' hu hu' (halike hr hr' hc hc' hu hbases)
      hasks hno
  · by_cases hbase : ∃ n, HasComplexBase (.ofSet set) d n
    · obtain ⟨n, hn⟩ := hbase
      obtain ⟨b, hb, -, ho⟩ := hderives.base id d n hd hn
      obtain ⟨b', hb', -, ho'⟩ := hderives'.base id' d n hd' hn
      exact .inl ⟨n, b, b', hb, hb', ho, ho'⟩
    · rw [not_exists] at hbase
      exact .inr ⟨hderives.baseless id d hd hbase, hderives'.baseless id' d hd' hbase⟩
  · exact declared_on_both_sides hs hs' hr hr' hd hd' hu hu' rfl
      (halike hr hr' hd hd' hu hbases) hp

/-! ## Schemas where builds differ -/

/-- A type that restricts another one and refers to a group that gives a type in place for a member
that is restated, and a type with the name of the interface for the group. -/
def changingGroups : SchemaSet :=
  sampleSet
    [.complex
      { name := some (sampleName "Base")
        particle := some (sampleSequence [sampleElement "x" (.xsd "string")]) },
     .complex
      { name := some (sampleName "Derived")
        particle := some (sampleSequence [.one (.groupRef (sampleName "G"))])
        derivation := some ⟨sampleName "Base", .restriction⟩ },
     .complex
      { name := some (sampleName "IG")
        particle := some (sampleSequence [sampleElement "iG" (.xsd "string"),
          sampleElement "iGProperty" (.xsd "string")]) }]
    [{ name := sampleName "G"
       group := { particles :=
        [.one (.element { name := sampleName "x", typeRef := some (.inline (.complex {})) })] } }]

/-- The environment in which a set is built with or without interfaces. -/
def groupsEnv (set : SchemaSet) (generateInterfaces : Bool) : Environment :=
  .ofSet set { generateInterfaces } .conventional

theorem interfaces_leave_classes_changing :
    ∃ s s', run (groupsEnv changingGroups false) oneNamespace = .ok s ∧
      run (groupsEnv changingGroups true) oneNamespace = .ok s' ∧
      Corresponds changingGroups (groupsEnv changingGroups false) (groupsEnv changingGroups true)
        s s' ∧
      Corresponds changingGroups (groupsEnv changingGroups true) (groupsEnv changingGroups false)
        s' s := by
  have hbuilds (b : Bool) : ∃ s, run (groupsEnv changingGroups b) oneNamespace = .ok s := by
    cases b
    · exact (exists_of_any (p := fun _ => true) (by decide +kernel)).imp fun _ => And.left
    · exact (exists_of_any (p := fun _ => true) (by decide +kernel)).imp fun _ => And.left
  obtain ⟨s, h⟩ := hbuilds false
  obtain ⟨s', h'⟩ := hbuilds true
  exact ⟨s, s', h, h',
    @interfaces_leave_classes changingGroups {} .conventional oneNamespace s s' false true h h',
    @interfaces_leave_classes changingGroups {} .conventional oneNamespace s' s true false h' h⟩

/-- A schema like that whose group gives an empty type in place under the name of a global one, and
a type that restricts what has this name. -/
def rebasingGroups : SchemaSet :=
  sampleSet
    [.complex
      { name := some (sampleName "Base")
        particle := some (sampleSequence [sampleElement "x" (.xsd "string")]) },
     .complex
      { name := some (sampleName "Derived")
        particle := some (sampleSequence [.one (.groupRef (sampleName "G"))])
        derivation := some ⟨sampleName "Base", .restriction⟩ },
     .complex
      { name := some (sampleName "N")
        particle := some (sampleSequence [sampleElement "a" (.xsd "string")]) },
     .complex
      { name := some (sampleName "D")
        particle := some (sampleSequence [sampleElement "a" (.xsd "string")])
        derivation := some ⟨sampleName "N", .restriction⟩ }]
    [{ name := sampleName "G"
       group := { particles :=
        [.one (.element
          { name := sampleName "x"
            typeRef := some (.inline (.complex { name := some (sampleName "N") })) })] } }]

/-- The place of a type of the first document. -/
def typePlace (item : Nat) : Place := ⟨.types, ⟨0, item⟩, []⟩

/-- Whether it is opened while no group is being expanded, or for a type without content. -/
def opensFreely (r : Opening) : Bool :=
  decide (r.active = []) ||
    r.source.type?.any fun d => d.definition.particle.isNone && d.definition.attributes.isEmpty

theorem unhindered_of_opensFreely {ix : Index} {r : Opening} (h : opensFreely r = true) :
    r.Unhindered ix := by
  rw [opensFreely, Bool.or_eq_true, decide_eq_true_eq] at h
  rcases h with h | h
  · exact Opening.unhindered_of_active h
  · obtain ⟨d, hd, hempty⟩ := Source.exists_of_any h
    rw [Bool.and_eq_true, Option.isNone_iff_eq_none, List.isEmpty_iff] at hempty
    exact Opening.unhindered_of_empty hd hempty.1 hempty.2

/-- Whether a class is opened for the type at a place, and nothing disturbs it: it and its base
classes are opened freely, and they are complete and do not derive from it. -/
def opensUndisturbed (s : State) (place : Place) (r : Opening) : Bool :=
  r.source.type?.any (·.place = place) &&
    s.journal.all (fun a => decide (a.scope.owner ∈ r.scope.owner ::
      s.graph.ancestors r.scope.owner → opensFreely a = true)) &&
    (s.graph.inheritedProperties r.scope.owner).all (· ∈ r.inherited) &&
    (s.graph.base? r.scope.owner).all fun b => decide (r.scope.owner ∉ b :: s.graph.ancestors b)

/-- What such a class declares. -/
def declaredAt (env : Environment) (s : State) (place : Place) : Option (List QName) :=
  (s.journal.find? (opensUndisturbed s place)).map fun r =>
    ((s.finished env).properties r.scope.owner).map (·.schemaName)

theorem opening_of_declaredAt {env : Environment} {place : Place} {names : List QName}
    (hr : Recorded env s) (h : declaredAt env s place = some names) :
    ∃ r ∈ s.journal, ∃ d, r.source = .type d ∧ Belongs env.index (.type d) ∧ d.place = place ∧
      r.Undisturbed env.index s ∧
      ((s.finished env).properties r.scope.owner).map (·.schemaName) = names := by
  obtain ⟨r, hfound, hnames⟩ := Option.map_eq_some_iff.1 h
  have hmem := List.mem_of_find?_eq_some hfound
  have hopens := List.find?_some hfound
  simp only [opensUndisturbed, Bool.and_eq_true, List.all_eq_true, decide_eq_true_eq] at hopens
  obtain ⟨⟨⟨hany, hfree⟩, hinherited⟩, hacyclic⟩ := hopens
  obtain ⟨d, hd, hplace⟩ := Source.exists_of_any hany
  refine ⟨r, hmem, d, hd, ((hr.openings r hmem).type d hd).2, of_decide_eq_true hplace,
    ⟨?_, fun a ha hbase => ?_, hinherited, fun hderives => ?_⟩, hnames⟩
  · exact unhindered_of_opensFreely (hfree r hmem List.mem_cons_self)
  · exact unhindered_of_opensFreely (hfree a ha (List.mem_cons_of_mem _ hbase))
  · obtain ⟨b, hb, hin⟩ := Graph.derivesFrom_self_iff.1 hderives
    rw [hb] at hacyclic
    exact of_decide_eq_true hacyclic hin

/-- A class of one build declares what the class of the other one for the same type does not, though
nothing disturbs the openings of the two. -/
def DeclaresMore (env env' : Environment) (s s' : State) : Prop :=
  ∃ r ∈ s.journal, ∃ r' ∈ s'.journal, ∃ d, r.source = .type d ∧ r'.source = .type d ∧
    r.Undisturbed env.index s ∧ r'.Undisturbed env'.index s' ∧
    ∃ p ∈ (s.finished env).properties r.scope.owner,
      ∀ p' ∈ (s'.finished env').properties r'.scope.owner, p'.mark ≠ p.mark

section
variable {b b' : Bool} (h : run (groupsEnv set b) oneNamespace = .ok s)
include h

theorem declaresMore_of_declaredAt (h' : run (groupsEnv set b') oneNamespace = .ok s')
    {place : Place} {names names' : List QName}
    (hat : declaredAt (groupsEnv set b) s place = some names)
    (hat' : declaredAt (groupsEnv set b') s' place = some names') {n : QName} (hn : n ∈ names)
    (hn' : n ∉ names') : DeclaresMore (groupsEnv set b) (groupsEnv set b') s s' := by
  have hix := Index.lawful_ofSet set
  obtain ⟨r, hmem, d, hd, hbelongs, hplace, hu, rfl⟩ :=
    opening_of_declaredAt (run_recorded hix h) hat
  obtain ⟨r', hmem', d', hd', hbelongs', hplace', hu', rfl⟩ :=
    opening_of_declaredAt (run_recorded hix h') hat'
  obtain rfl := Item.type.inj (hbelongs.unique hbelongs' (hplace.trans hplace'.symm))
  obtain ⟨p, hp, rfl⟩ := List.mem_map.1 hn
  refine ⟨r, hmem, r', hmem', d, hd, hd', hu, hu', p, hp, fun p' hp' hmark => hn' ?_⟩
  exact List.mem_map.2 ⟨p', hp', congrArg Mark.name hmark⟩

/-- A type given in place has a class in the one build only. -/
theorem exists_class_of_steps
    (hgiven : s.journal.any (·.source.type?.any (·.place.steps ≠ [])) = true)
    (hglobal : s'.journal.all (·.source.type?.all (·.place.steps = [])) = true) :
    ∃ d, HasClass (groupsEnv set b) s d ∧ ¬ HasClass (groupsEnv set b') s' d := by
  have hr : Recorded (groupsEnv set b) s := run_recorded (Index.lawful_ofSet set) h
  obtain ⟨r, hmem, hgiven⟩ := List.any_eq_true.1 hgiven
  obtain ⟨d, hd, hsteps⟩ := Source.exists_of_any hgiven
  refine ⟨d, BuiltFor.hasClass hr ⟨((hr.openings r hmem).type d hd).2, r, hmem, rfl, d, hd, rfl⟩,
    ?_⟩
  rintro ⟨_, ⟨-, r, hmem, -, _, hsource, rfl⟩, -⟩
  have hall := List.all_eq_true.1 hglobal r hmem
  rw [hsource] at hall
  exact of_decide_eq_true hsteps (of_decide_eq_true hall)

end

/-- With interfaces there is one more class, for the type that is given in place, and a class
declares more, since it is named differently. If a type given in place has the name of a global one,
the class of this name may be for the one or for the other type, and a class that restricts it
declares what the base class does not. -/
theorem interfaces_change_classes :
    (∃ s s', run (groupsEnv changingGroups false) oneNamespace = .ok s ∧
      run (groupsEnv changingGroups true) oneNamespace = .ok s' ∧
      (∃ d, HasClass (groupsEnv changingGroups true) s' d ∧
        ¬ HasClass (groupsEnv changingGroups false) s d) ∧
      DeclaresMore (groupsEnv changingGroups true) (groupsEnv changingGroups false) s' s) ∧
    ∃ s s', run (groupsEnv rebasingGroups false) oneNamespace = .ok s ∧
      run (groupsEnv rebasingGroups true) oneNamespace = .ok s' ∧
      DeclaresMore (groupsEnv rebasingGroups true) (groupsEnv rebasingGroups false) s' s := by
  refine ⟨?_, ?_⟩
  · obtain ⟨s, h, hp⟩ := exists_of_any (x := run (groupsEnv changingGroups false) oneNamespace)
      (p := fun s => s.journal.all (·.source.type?.all (·.place.steps = [])) &&
        declaredAt (groupsEnv changingGroups false) s (typePlace 2) = some [sampleName "iG"])
      (by decide +kernel)
    obtain ⟨s', h', hp'⟩ := exists_of_any (x := run (groupsEnv changingGroups true) oneNamespace)
      (p := fun s => s.journal.any (·.source.type?.any (·.place.steps ≠ [])) &&
        declaredAt (groupsEnv changingGroups true) s (typePlace 2) =
          some [sampleName "iG", sampleName "iGProperty"]) (by decide +kernel)
    simp only [Bool.and_eq_true, decide_eq_true_eq] at hp hp'
    obtain ⟨hglobal, hi⟩ := hp
    obtain ⟨hgiven, hi'⟩ := hp'
    have hmore : sampleName "iGProperty" ∈ [sampleName "iG", sampleName "iGProperty"] ∧
        sampleName "iGProperty" ∉ [sampleName "iG"] := by decide
    exact ⟨s, s', h, h', exists_class_of_steps h' hgiven hglobal,
      declaresMore_of_declaredAt h' h hi' hi hmore.1 hmore.2⟩
  · obtain ⟨s, h, hp⟩ := exists_of_any (x := run (groupsEnv rebasingGroups false) oneNamespace)
      (p := fun s => declaredAt (groupsEnv rebasingGroups false) s (typePlace 3) = some [])
      (by decide +kernel)
    obtain ⟨s', h', hp'⟩ := exists_of_any (x := run (groupsEnv rebasingGroups true) oneNamespace)
      (p := fun s => declaredAt (groupsEnv rebasingGroups true) s (typePlace 3) =
        some [sampleName "a"]) (by decide +kernel)
    rw [decide_eq_true_eq] at hp hp'
    have hmore : sampleName "a" ∈ [sampleName "a"] := List.mem_cons_self
    exact ⟨s, s', h, h', declaresMore_of_declaredAt h' h hp' hp hmore List.not_mem_nil⟩

end XmlTypes.Build
