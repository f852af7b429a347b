import XmlTypes.Proofs.ClassRuns
import XmlTypes.Proofs.Finishing
import XmlTypes.Proofs.Unnamed
/-!
# Members and the properties that represent them

A class has a property for every member of its definition that a walk meets, where the walk begins
with the groups open that are being expanded when the class is opened. So what a class has depends
on these groups: a member that can be reached through one of them only is missed, unless the class
has it from elsewhere.
-/

namespace XmlTypes.Build

open Schema

/-- The owner of a scope has a property for the member: under the name first chosen for it, or,
where a restriction restates the member, under the name that the schema gives it. -/
def Represents (env : Environment) (g : Graph) (scope : Scope) (m : Member) : Prop :=
  ∃ p ∈ g.flattenedProperties scope.owner,
    p.originalName = m.propertyName env.naming scope.ownerName ∨
      m.key ∈ scope.restated ∧ p.schemaName = m.name ∧ p.isAttribute = m.isAttribute

variable {env : Environment} {s : State}

theorem Arises.originalName {right : Option TypeRef → ValueType → Prop} {r : Opening}
    {p : Property} (h : Arises env right r p) :
    p.originalName = p.name := by
  cases h with
  | ofElement _ _ _ => rfl
  | ofAttribute _ _ _ => rfl
  | wildcard _ _ hn _ => exact hn

/-- What a class declares or inherits is there in the finished graph, but for its name. -/
theorem finished_flattened {id : NodeId} {p : Property} (hl : s.graph.Linked)
    (hid : (s.graph.class? id).isSome) (env : Environment)
    (hp : p ∈ s.graph.flattenedProperties id) :
    ∃ q ∈ (s.finished env).flattenedProperties id, q.bare = p.bare := by
  obtain ⟨a, ha, hp⟩ := List.mem_flatMap.1 hp
  have hclass : (s.graph.class? a).isSome := by
    rcases List.mem_cons.1 ha with rfl | ha
    · exact hid
    · exact isSome_class?_of_mem_ancestors hl ha
  obtain ⟨q, hq, hqp⟩ := List.mem_map.1 ((finished_kept hclass).subset (List.mem_map_of_mem hp))
  refine ⟨q, List.mem_flatMap.2 ⟨a, ?_, hq⟩, hqp⟩
  rwa [(s.finished_shares env).ancestors]

/-- A member that its owner holds is represented in the finished graph. -/
theorem Held.represents {r : Opening} {d : Declared ComplexType} {m : Member}
    (hs : Recorded env s) (hr : r ∈ s.journal) (hd : r.source = .type d)
    (h : Held env s r.scope m) : Represents env (s.finished env) r.scope m := by
  have hopening := hs.openings r hr
  have hclass := (hopening.type d hd).1
  rcases h with hrestated | ⟨p, hp, hname⟩
  · obtain ⟨-, p, hp, -, hkey⟩ := (hopening.restated _).1 hrestated
    obtain ⟨q, hq, hqp⟩ := finished_flattened hs.linked hclass env
      (Graph.mem_flattenedProperties.2 (.inr (hopening.inherited hp)))
    refine ⟨q, hq, .inr ⟨hrestated, ?_, ?_⟩⟩
    · exact (congrArg Property.schemaName hqp).trans (congrArg Prod.fst hkey)
    · exact (congrArg Property.isAttribute hqp).trans (congrArg Prod.snd hkey)
  · obtain ⟨q, hq, hqp⟩ := finished_flattened hs.linked hclass env hp
    obtain ⟨a, -, hp⟩ := List.mem_flatMap.1 hp
    obtain ⟨_, -, -, ha⟩ := hs.arises a p hp
    exact ⟨q, hq, .inl ((congrArg Property.originalName hqp).trans (ha.originalName.trans hname))⟩

/-- What a base class of a base class has, the class has. -/
theorem mem_flattened_of_owner {g : Graph} {a id : NodeId} (ha : a ∈ id :: g.ancestors id)
    {p : Property} (hp : p ∈ g.flattenedProperties a) : p ∈ g.flattenedProperties id := by
  rcases List.mem_cons.1 ha with rfl | ha
  · exact hp
  · obtain ⟨b, hb, hp⟩ := List.mem_flatMap.1 hp
    refine List.mem_flatMap.2 ⟨b, ?_, hp⟩
    rcases List.mem_cons.1 hb with rfl | hb
    · exact List.mem_cons_of_mem _ ha
    · by_cases he : b = id
      · exact he ▸ List.mem_cons_self
      · exact List.mem_cons_of_mem _ (Graph.mem_ancestors.2
          ⟨he, (Graph.mem_ancestors.1 ha).2.trans (Graph.mem_ancestors.1 hb).2⟩)

/-- A property that stands for no member: one for a wildcard, or for a substitute. -/
def IsExtra (env : Environment) (p : Property) : Prop :=
  p.isWildcard = true ∨ ∃ owner ownerName head m,
    p.bare = (substituteProperty env.naming owner ownerName head m).bare

/-- The name first chosen for a member is taken in its owner or in a base class: by a member that
is met there, or by something else. -/
inductive Named (env : Environment) (s : State) (r : Opening) (m : Member) : Prop
  | byMember {r' m'} : r' ∈ s.journal →
      r'.scope.owner ∈ r.scope.owner :: s.graph.ancestors r.scope.owner →
      r'.Has env.index m' → m'.key ∉ r'.scope.restated →
      m'.propertyName env.naming r'.scope.ownerName =
        m.propertyName env.naming r.scope.ownerName → Named env s r m
  | byExtra {p} : p ∈ (s.finished env).flattenedProperties r.scope.owner → IsExtra env p →
      p.originalName = m.propertyName env.naming r.scope.ownerName → Named env s r m

/-- A property of a class that is there under a name first chosen stands for a member of that name,
or for none. -/
theorem named_of_mem {r : Opening} {m : Member} (hs : Recorded env s) {p : Property}
    (hp : p ∈ (s.finished env).flattenedProperties r.scope.owner)
    (hname : p.originalName = m.propertyName env.naming r.scope.ownerName) :
    Named env s r m := by
  obtain ⟨a, ha, hpa⟩ := List.mem_flatMap.1 hp
  rw [(s.finished_shares env).ancestors] at ha
  obtain ⟨p', hp', hbare, -⟩ := finished_arises hpa
  rcases (s.attached_of env).arises a p' hp' with ⟨q, hq, hplain⟩ | ⟨o, on, head, x, -, hplain⟩
  · have hpq : p.bare = q.bare := hbare.trans (congrArg Property.unnamed hplain)
    have hq' : q.originalName = m.propertyName env.naming r.scope.ownerName :=
      (congrArg Property.originalName hpq).symm.trans hname
    obtain ⟨r', hr', rfl, harises⟩ := hs.arises a q hq
    cases harises with
    | ofElement hm hkey _ => exact .byMember hr' ha hm hkey hq'
    | ofAttribute hm hkey _ => exact .byMember hr' ha hm hkey hq'
    | wildcard _ hw _ _ =>
      exact .byExtra hp (.inl ((congrArg Property.isWildcard hpq).trans hw)) hname
  · exact .byExtra hp (.inr ⟨o, on, head, x, hbare.trans (congrArg Property.unnamed hplain)⟩) hname

/-- A member is represented exactly if a restriction restates it or its name is taken. -/
theorem represents_iff {r : Opening} {d : Declared ComplexType} {m : Member}
    (hs : Recorded env s) (hf : ∀ r ∈ s.journal, Faithful env s r) (hr : r ∈ s.journal)
    (hd : r.source = .type d) :
    Represents env (s.finished env) r.scope m ↔ m.key ∈ r.scope.restated ∨ Named env s r m := by
  constructor
  · rintro ⟨p, hp, hname | ⟨hkey, -⟩⟩
    · exact .inr (named_of_mem hs hp hname)
    · exact .inl hkey
  · rintro (hkey | hnamed)
    · exact Held.represents hs hr hd (.inl hkey)
    · cases hnamed with
      | byExtra hp _ hname => exact ⟨_, hp, .inl hname⟩
      | @byMember r' m' hr' howner hm hkey hname =>
        obtain ⟨p, hp, hp'⟩ := ((hf r' hr').members m' hm).resolve_left hkey
        exact Held.represents hs hr hd
          (.inr ⟨p, mem_flattened_of_owner howner hp, hp'.trans hname⟩)

/-- Of the members of a complex type that gets a class, the class has all that are met by a walk
which begins with the groups open that are being expanded. It has all members of the type, whatever
is being expanded, exactly if a restriction restates those that such a walk misses, or their names
are taken. -/
theorem class_content_iff {set : SchemaSet} {options : Options} {naming : Naming}
    {resolver : Resolver} (h : run (.ofSet set options naming) resolver = .ok s) {r : Opening}
    (hr : r ∈ s.journal) {d : Declared ComplexType} (hd : r.source = .type d) :
    let env := Environment.ofSet set options naming
    let represented := Represents env (s.finished env) r.scope
    (∀ m, r.Has env.index m → represented m) ∧
      ((∀ m, r.source.Has env.index [] m → represented m) ↔
        ∀ m, r.source.Has env.index [] m → ¬ r.Has env.index m →
          m.key ∈ r.scope.restated ∨ Named env s r m) := by
  intro env represented
  have hix : env.index.Lawful := Index.lawful_ofSet set
  have hs := run_recorded hix h
  have hf : ∀ r ∈ s.journal, Faithful env s r := fun r hr => run_faithful hix h hr
  have hmet : ∀ m, r.Has env.index m → represented m := fun m hm =>
    ((hf r hr).members m hm).represents hs hr hd
  refine ⟨hmet, fun hall m hm _ => (represents_iff hs hf hr hd).1 (hall m hm),
    fun hmissed m hm => ?_⟩
  by_cases hm' : r.Has env.index m
  · exact hmet m hm'
  · exact (represents_iff hs hf hr hd).2 (hmissed m hm hm')

/-- A type with the content of a group. -/
def groupType (name : String) : ComplexType :=
  { name := some (sampleName name)
    particle := some (sampleSequence [.one (.groupRef (sampleName "G"))]) }

/-- The content of a group: an element of the type that is built second, and another one. -/
def nestedContent : ModelGroup :=
  { particles := [sampleElement "b" (sampleName "B"), sampleElement "x" (.xsd "string")] }

/-- Two types with the content of one group, where an element of the group has the second type. -/
def nestedGroup : SchemaSet :=
  sampleSet [.complex (groupType "A"), .complex (groupType "B")]
    [{ name := sampleName "G", group := nestedContent }]

/-- The environment in which the types of the group are built. -/
def nestedEnv : Environment := .ofSet nestedGroup {} .conventional

theorem class_content_nested : ∃ s, run nestedEnv oneNamespace = .ok s ∧
    ∃ r ∈ s.journal, ∃ d, r.source = .type d ∧
      let represented := Represents nestedEnv (s.finished nestedEnv) r.scope
      (∀ m, r.Has nestedEnv.index m → represented m) ∧
        ((∀ m, r.source.Has nestedEnv.index [] m → represented m) ↔
          ∀ m, r.source.Has nestedEnv.index [] m → ¬ r.Has nestedEnv.index m →
            m.key ∈ r.scope.restated ∨ Named nestedEnv s r m) := by
  obtain ⟨s, h, hp⟩ := exists_of_any (x := run nestedEnv oneNamespace)
    (p := fun s => s.journal.any (·.source.type?.any fun _ => true)) (by decide +kernel)
  obtain ⟨r, hr, hp⟩ := List.any_eq_true.1 hp
  obtain ⟨d, hd, -⟩ := Source.exists_of_any hp
  exact ⟨s, h, r, hr, d, hd, class_content_iff h hr hd⟩

/-- Both types have the elements of the group. -/
theorem groupType_has {d : Declared ComplexType} {name : String}
    (h : d.definition = groupType name) : ∃ m, (Source.type d).Has nestedEnv.index [] m := by
  obtain ⟨g, hg, hcontent⟩ : ∃ g, nestedEnv.index.group? (sampleName "G") = some g ∧
      g.definition.group = nestedContent := ⟨_, rfl, rfl⟩
  -- From the element outwards: in the group, in the reference to it, and in the sequence.
  have helement (d : Declared Particle) (hd : d.definition = sampleElement "x" (.xsd "string")) :
      ∃ m, InParticle nestedEnv.index [sampleName "G"] d .once m :=
    ⟨_, .inPlace (by rw [hd]; rfl) (by rw [hd]; rfl)⟩
  have hgroup (d : Declared ModelGroup) (hd : d.definition = nestedContent) :
      ∃ m, InGroup nestedEnv.index [sampleName "G"] d .once m := by
    obtain ⟨m, hm⟩ := helement (d.part (.particle 1) _) rfl
    exact ⟨m, .particle (i := 1) (by rw [hd]; rfl) (by rw [hd]; exact hm)⟩
  have hreference (d : Declared Particle) (hd : d.definition = .one (.groupRef (sampleName "G"))) :
      ∃ m, InParticle nestedEnv.index [] d .once m := by
    obtain ⟨m, hm⟩ := hgroup ((Declared.ofGlobal .groups g).inPlace g.definition.group) hcontent
    exact ⟨m, .groupReference (by rw [hd]; rfl) (by rw [hd]; rfl) List.not_mem_nil hg
      (by rw [hd]; exact hm)⟩
  have hsequence (d : Declared Particle)
      (hd : d.definition = sampleSequence [.one (.groupRef (sampleName "G"))]) :
      ∃ m, InParticle nestedEnv.index [] d .once m := by
    obtain ⟨m, hm⟩ := hreference ((d.inPlace _).part (.particle 0) _) rfl
    exact ⟨m, .group (by rw [hd]; rfl) (by rw [hd]; rfl)
      (.particle (i := 0) rfl (by rw [hd]; exact hm))⟩
  obtain ⟨m, hm⟩ := hsequence (d.part .content _) rfl
  exact ⟨m, .inl ⟨_, by rw [h]; rfl, hm⟩⟩

/-- The second type is reached while the group is being expanded for the first one, and so it gets
none of the elements of the group. -/
theorem nested_class_is_empty : ∃ s, run nestedEnv oneNamespace = .ok s ∧
    ∃ r ∈ s.journal, ∃ d, r.source = .type d ∧ ∃ m, r.source.Has nestedEnv.index [] m ∧
      ¬ Represents nestedEnv (s.finished nestedEnv) r.scope m := by
  obtain ⟨s, h, hp⟩ := exists_of_any (x := run nestedEnv oneNamespace)
    (p := fun s => s.journal.any fun r =>
      r.source.type?.any (·.definition.name = some (sampleName "B")) &&
        (s.finished nestedEnv).flattenedProperties r.scope.owner = [])
    (by decide +kernel)
  obtain ⟨r, hr, hp⟩ := List.any_eq_true.1 hp
  obtain ⟨hname, hnone⟩ := Bool.and_eq_true_iff.1 hp
  obtain ⟨d, hd, hname⟩ := Source.exists_of_any hname
  have hs : Recorded nestedEnv s := run_recorded (Index.lawful_ofSet nestedGroup) h
  have hnames : nestedGroup.namesTypes = true := by decide
  -- The type of that name is the one that is declared.
  obtain ⟨g, hg, hdef, -⟩ :=
    ((hs.openings r hr).type d hd).2.type_of_name hnames (of_decide_eq_true hname)
  have hB : ((Index.ofSet nestedGroup).type? (sampleName "B")).map (·.definition) =
      some (.complex (groupType "B")) := rfl
  rw [hg, Option.map_some, hdef, Option.some.injEq, TypeDefinition.complex.injEq] at hB
  obtain ⟨m, hm⟩ := groupType_has hB
  refine ⟨s, h, r, hr, d, hd, m, hd ▸ hm, ?_⟩
  rintro ⟨p, hp, -⟩
  rw [of_decide_eq_true hnone] at hp
  cases hp

end XmlTypes.Build
