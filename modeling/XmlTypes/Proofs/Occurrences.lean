import XmlTypes.Proofs.Bounds
import XmlTypes.Proofs.ListTypes
/-!
# How often an element occurs

What a property tells of its element, whether it is required, a collection or nullable, is what the
exact products of all bounds on the way to the element say. An element that never occurs on that
way gives nothing at all.
-/

namespace XmlTypes.Build

open Relation Schema

/-! ## Particles on the way along a definition -/

/-- A particle that a walk along a definition comes to, with the groups that the walk is in, the
compositor around the particle and the way to the group it is in. -/
structure Spot where
  opened : List QName
  particle : Declared Particle
  compositor : Compositor
  outer : Way

namespace Spot

/-- The way to the particle. -/
def way (x : Spot) : Way := (x.particle.definition.occurs, x.compositor) :: x.outer

/-- The bounds around the particle. -/
def around (x : Spot) : Occurs := innerBounds x.compositor x.outer.bounds

/-- What the walk does when it comes to the particle. -/
def collect (c : Calls) (env : Environment) (scope : Scope) (x : Spot) : Build Scope :=
  Build.particle c env scope x.particle x.around x.compositor

/-- A particle of a model group, in its position there. -/
def ofGroup (opened : List QName) (d : Declared ModelGroup) (outer : Way)
    (position : Particle × Nat) : Spot :=
  ⟨opened, d.part (.particle position.2) position.1, d.definition.compositor, outer⟩

/-- The second particle is one of the group that the first one has or refers to. A group that the
walk is in already is not entered. -/
inductive Leads (ix : Index) : Spot → Spot → Prop
  | group {x : Spot} {g : ModelGroup} {i : Nat} {p : Particle}
    (hterm : x.particle.definition.term = .group g) (hp : g.particles[i]? = some p) :
    Leads ix x (ofGroup x.opened (x.particle.inPlace g) x.way (p, i))
  | reference {x : Spot} {name : QName} {g : Global GroupDef} {i : Nat} {p : Particle}
    (hterm : x.particle.definition.term = .groupRef name) (hopened : name ∉ x.opened)
    (hg : ix.group? name = some g) (hp : g.definition.group.particles[i]? = some p) :
    Leads ix x (ofGroup (x.opened ++ [name])
      ((Declared.ofGlobal .groups g).inPlace g.definition.group) x.way (p, i))

/-- The element of the particle, as a stop within the bounds that the walk has come to. -/
def Meets (ix : Index) (x : Spot) (m : Stop) : Prop :=
  match x.particle.definition.term with
  | .element e => m = .element (x.particle.inPlace e) false x.way.bounds x.compositor
  | .elementRef name => ∃ g, ix.element? name = some g ∧
    m = .element (.ofGlobal .elements g) true x.way.bounds x.compositor
  | _ => False

/-- From the particle the walk is led to one whose element is the stop, and which may occur. -/
def LeadsTo (ix : Index) (x : Spot) (m : Stop) : Prop :=
  ∃ y, ReflTransGen (Leads ix) x y ∧ y.Meets ix m ∧ y.way.bounds.isEmpty = false

theorem Leads.leadsTo {ix : Index} {x y : Spot} {m : Stop} (h : Leads ix x y)
    (hy : y.LeadsTo ix m) : x.LeadsTo ix m := by
  obtain ⟨z, hz, hmeets⟩ := hy
  exact ⟨z, .head h hz, hmeets⟩

end Spot

/-- The particles that a walk begins with, for a definition walked with the groups in `opened` open:
that of a complex type, or those of a group. -/
def Source.Begins (opened : List QName) (x : Spot) : Source → Prop
  | .type d => ∃ p, d.definition.particle = some p ∧ x = ⟨opened, d.part .content p, .sequence, []⟩
  | .group d => ∃ i p, d.definition.group.particles[i]? = some p ∧
    x = .ofGroup (opened ++ [d.definition.name]) (d.inPlace d.definition.group) [] (p, i)
  | .attributeGroup _ => False

/-- The particles that a walk along a definition may come to. -/
def Source.Reaches (ix : Index) (opened : List QName) (source : Source) (x : Spot) : Prop :=
  ∃ first, source.Begins opened first ∧ ReflTransGen (Spot.Leads ix) first x

/-- The particles on the way along the definition that a class or an interface is opened for. -/
def Opening.Reaches (ix : Index) (r : Opening) (x : Spot) : Prop := r.source.Reaches ix r.active x

section
variable {ix : Index} {opened : List QName} {stops : List Stop} {m : Stop}

/-- The stops along a particle are elements of particles that it leads to. -/
theorem AlongParticle.leadsTo {x : Spot}
    (h : AlongParticle ix x.opened x.particle x.around x.compositor stops) (hm : m ∈ stops) :
    x.LeadsTo ix m := by
  -- Along the particle, and along the particles of each group in it that are still to come.
  refine @AlongParticle.rec ix
    (fun opened d outer compositor stops _ => ∀ x : Spot, x.opened = opened → x.particle = d →
      x.around = outer → x.compositor = compositor → ∀ m ∈ stops, x.LeadsTo ix m)
    (fun opened d occurs xs stops _ => ∀ outer : Way, outer.bounds = occurs → ∀ m ∈ stops,
      ∃ e ∈ xs, (Spot.ofGroup opened d outer e).LeadsTo ix m)
    ?never ?inPlace ?reference ?wildcard ?group ?recursion ?groupReference ?nil ?cons
    _ _ _ _ _ h x rfl rfl rfl rfl m hm
  case never | wildcard | recursion | nil =>
    intros
    rename_i hm
    exact absurd hm List.not_mem_nil
  case inPlace =>
    rintro _ _ _ _ e he hterm x rfl rfl rfl rfl m hm
    refine ⟨x, .refl, ?_, he⟩
    rw [Spot.Meets, hterm]
    exact List.mem_singleton.1 hm
  case reference =>
    rintro _ _ _ _ name g he hterm hg x rfl rfl rfl rfl m hm
    refine ⟨x, .refl, ?_, he⟩
    rw [Spot.Meets, hterm]
    exact ⟨g, hg, List.mem_singleton.1 hm⟩
  case group =>
    rintro _ _ _ _ g stops he hterm _ ih x rfl rfl rfl rfl m hm
    obtain ⟨e, hmem, hleads⟩ := ih x.way rfl m hm
    have hp : g.particles[e.2]? = some e.1 := List.mem_zipIdx_iff_getElem?.1 hmem
    exact (Spot.Leads.group hterm hp).leadsTo hleads
  case groupReference =>
    rintro _ _ _ _ name g stops he hterm hopened hg _ ih x rfl rfl rfl rfl m hm
    obtain ⟨e, hmem, hleads⟩ := ih x.way rfl m hm
    have hp : g.definition.group.particles[e.2]? = some e.1 := List.mem_zipIdx_iff_getElem?.1 hmem
    exact (Spot.Leads.reference hterm hopened hg hp).leadsTo hleads
  case cons =>
    rintro opened d _ e es stops rest _ _ ih ihs outer rfl m hm
    rcases List.mem_append.1 hm with hm | hm
    · exact ⟨e, List.mem_cons_self, ih (.ofGroup opened d outer e) rfl rfl rfl rfl m hm⟩
    · obtain ⟨e', he', hleads⟩ := ihs outer rfl m hm
      exact ⟨e', List.mem_cons_of_mem _ he', hleads⟩

theorem AlongGroup.leadsTo {d : Declared ModelGroup} {outer : Way} {xs : List (Particle × Nat)}
    (h : AlongGroup ix opened d outer.bounds xs stops) (hm : m ∈ stops) :
    ∃ e ∈ xs, (Spot.ofGroup opened d outer e).LeadsTo ix m := by
  induction xs generalizing stops with
  | nil =>
    cases h
    exact absurd hm List.not_mem_nil
  | cons e es ih =>
    cases h with
    | cons hfirst hrest =>
      rcases List.mem_append.1 hm with hm | hm
      · exact ⟨e, List.mem_cons_self,
          AlongParticle.leadsTo (x := .ofGroup opened d outer e) hfirst hm⟩
      · obtain ⟨e', he', hleads⟩ := ih hrest hm
        exact ⟨e', List.mem_cons_of_mem _ he', hleads⟩

/-- The stops along an attribute list are attributes. -/
theorem AlongEntries.isAttribute {d : Declared (List AttributeItem)}
    {xs : List (AttributeItem × Nat)} (h : AlongEntries ix opened d xs stops) (hm : m ∈ stops) :
    m.key.2 = true := by
  refine @AlongEntries.rec ix (fun _ _ stops _ => ∀ m ∈ stops, m.key.2 = true)
    (fun _ _ _ stops _ => ∀ m ∈ stops, m.key.2 = true)
    ?prohibited ?inPlace ?prohibitedReference ?reference ?recursion ?groupReference ?nil ?cons
    _ _ _ _ h m hm
  case prohibited | prohibitedReference | recursion | nil =>
    intros
    rename_i hm
    exact absurd hm List.not_mem_nil
  case inPlace | reference =>
    intros
    rename_i hm
    rw [List.mem_singleton.1 hm]
    rfl
  case groupReference =>
    intro _ _ _ _ _ _ _ _ _ ih
    exact ih
  case cons =>
    intro _ _ _ _ _ _ _ _ ih ihs m hm
    rcases List.mem_append.1 hm with hm | hm
    · exact ih m hm
    · exact ihs m hm

/-- Every element that the walk meets is that of a particle on the way. -/
theorem Opening.Along.exists_spot {r : Opening} (h : r.Along ix stops) (hm : m ∈ stops)
    (helement : m.key.2 = false) :
    ∃ x, r.Reaches ix x ∧ x.Meets ix m ∧ x.way.bounds.isEmpty = false := by
  unfold Opening.Along at h
  unfold Opening.Reaches
  cases hsource : r.source with
  | type d =>
    simp only [hsource, Source.Along] at h
    obtain ⟨attributes, content, rfl, hattributes, hcontent⟩ := h
    rcases List.mem_append.1 hm with hm | hm
    · exact absurd (helement.symm.trans (hattributes.isAttribute hm)) Bool.false_ne_true
    · cases hp : d.definition.particle with
      | none =>
        simp only [hp] at hcontent
        rw [hcontent] at hm
        exact absurd hm List.not_mem_nil
      | some p =>
        simp only [hp] at hcontent
        obtain ⟨y, hy, hmeets⟩ := AlongParticle.leadsTo
          (x := ⟨r.active, d.part .content p, .sequence, []⟩) hcontent hm
        exact ⟨y, ⟨_, ⟨p, hp, rfl⟩, hy⟩, hmeets⟩
  | group d =>
    simp only [hsource, Source.Along] at h
    -- No particle is around those of the group.
    have hgroup : AlongGroup ix (r.active ++ [d.definition.name]) (d.inPlace d.definition.group)
        (Way.bounds []) d.definition.group.particles.zipIdx stops := h
    obtain ⟨e, he, y, hy, hmeets⟩ := hgroup.leadsTo hm
    have hp : d.definition.group.particles[e.2]? = some e.1 := List.mem_zipIdx_iff_getElem?.1 he
    exact ⟨y, ⟨_, ⟨e.2, e.1, hp, rfl⟩, hy⟩, hmeets⟩
  | attributeGroup d =>
    simp only [hsource, Source.Along] at h
    exact absurd (helement.symm.trans (h.isAttribute hm)) Bool.false_ne_true

end

/-! ## Lists in place -/

/-- The reference is to a list that is built in, or one given in place. -/
def ListInPlace (ix : Index) (r : TypeRef) : Prop :=
  (∃ name, r = .named name ∧ isBuiltin name = true ∧ isListBuiltin name.name = true) ∨
    ∃ t, r = .inline (.simple t) ∧ Lists ix r

theorem listInPlace_iff {ix : Index} {r : TypeRef} :
    ListInPlace ix r ↔ Lists ix r ∧ ¬NamesDeclared r := by
  constructor
  · rintro (⟨name, rfl, hname, hlist⟩ | ⟨t, rfl, hlists⟩)
    · exact ⟨.builtin hname hlist, not_namesDeclared_of_builtin hname⟩
    · exact ⟨hlists, not_namesDeclared_inline _⟩
  · rintro ⟨hlists, hnot⟩
    cases hlists with
    | builtin hname hlist => exact .inl ⟨_, rfl, hname, hlist⟩
    | declared hname => exact absurd ⟨_, rfl, hname⟩ hnot
    | items ht => exact .inr ⟨_, rfl, .items ht⟩
    | restriction ht hbase => exact .inr ⟨_, rfl, .restriction ht hbase⟩

/-! ## Flags -/

variable {env : Environment} {resolver : Resolver} {s : State} {id : NodeId} {x : Spot} {m : Stop}
  {p : Property}

/-- The property tells how often the particle occurs on its way. -/
structure TellsOccurrence (ix : Index) (x : Spot) (m : Stop) (p : Property) : Prop where
  required : p.isRequired = true ↔ 0 < x.way.least
  collection : p.isCollection = true ↔
    1 < x.way.greatest ∨ ∃ d, m.typeRef? = some d ∧ ListInPlace ix d.definition
  nullable : p.isNullable = true ↔ p.isCollection = false ∧ x.way.least = 0

theorem Spot.Meets.exists_element {ix : Index} (h : x.Meets ix m) :
    ∃ d isReference, m = .element d isReference x.way.bounds x.compositor := by
  unfold Spot.Meets at h
  split at h
  · exact ⟨_, _, h⟩
  · obtain ⟨g, -, h⟩ := h
    exact ⟨_, _, h⟩
  · exact h.elim

/-- What never occurs gives nothing. -/
theorem Spot.collect_of_greatest (x : Spot) (h : x.way.greatest = 0) (c : Calls)
    (env : Environment) (scope : Scope) : x.collect c env scope = pure scope := by
  have hempty : (x.particle.definition.occurs.within x.around).isEmpty = true :=
    x.way.bounds_counts.isEmpty.2 h
  rw [collect, Build.particle, if_pos hempty]

/-- A property that is added for the element of a particle tells how often it occurs. -/
theorem AddedFor.tells (hmeets : x.Meets env.index m) (h : AddedFor env s id m p) :
    TellsOccurrence env.index x m p := by
  have hcounts := x.way.bounds_counts
  have hlists : (∃ d, m.typeRef? = some d ∧ ListInPlace env.index d.definition) ↔
      m.HoldsList env.index ∧ ¬m.NamesType := by
    unfold Stop.HoldsList Stop.NamesType
    cases m.typeRef? <;> simp [listInPlace_iff]
  have hcollection := StandsFor.isCollection_iff (.inl h)
  rw [← hlists] at hcollection
  obtain ⟨d, isReference, rfl⟩ := hmeets.exists_element
  obtain ⟨q, ⟨r, -, -, stops, -, hgives⟩, hbare⟩ := h
  obtain ⟨type, order, -, rfl⟩ := hgives.property
  have hrequired : p.isRequired = decide (0 < x.way.bounds.min) := congrArg (·.isRequired) hbare
  have hsame : p.isCollection = (x.way.bounds.isMultiple || type.isList) :=
    congrArg (·.isCollection) hbare
  have hnullable : p.isNullable =
      (!(x.way.bounds.isMultiple || type.isList) && decide (x.way.bounds.min = 0)) :=
    congrArg (·.isNullable) hbare
  have hzero : x.way.bounds.min = 0 ↔ x.way.least = 0 := by
    have hpos := hcounts.isRequired
    omega
  constructor
  · rw [hrequired, decide_eq_true_eq, hcounts.isRequired]
  · rw [hcollection, ← hcounts.isMultiple]
    rfl
  · rw [hnullable, ← hsame, Bool.and_eq_true, Bool.not_eq_true', decide_eq_true_eq, hzero]

/-- What is required is not nullable. -/
theorem TellsOccurrence.not_both {ix : Index} (h : TellsOccurrence ix x m p) :
    ¬(p.isRequired = true ∧ p.isNullable = true) := by
  rintro ⟨hrequired, hnullable⟩
  have hpos := h.required.1 hrequired
  have hzero := (h.nullable.1 hnullable).2
  omega

theorem AddedBeside.isRequired {sub : Substitute} (h : AddedBeside env s id m sub p) :
    p.isRequired = false := by
  obtain ⟨head, -, -, -, ownerName, hbare⟩ := h
  exact congrArg (·.isRequired) hbare

/-- What comes from an element comes from a particle on the way. -/
theorem ComesFrom.exists_spot (h : ComesFrom env s id m p) (helement : m.key.2 = false) :
    ∃ r ∈ s.journal, r.scope.owner = id ∧
      ∃ x, r.Reaches env.index x ∧ x.Meets env.index m ∧ x.way.bounds.isEmpty = false := by
  obtain ⟨r, hr, hid, stops, halong, hgives⟩ := h
  have hm : m ∈ stops := List.mem_of_find?_eq_some hgives.first
  exact ⟨r, hr, hid, halong.exists_spot hm helement⟩

/-- Nothing comes from what never occurs. -/
theorem ComesFrom.greatest_ne_zero (h : ComesFrom env s id m p) (hmeets : x.Meets env.index m) :
    x.way.greatest ≠ 0 := by
  obtain ⟨d, isReference, rfl⟩ := hmeets.exists_element
  obtain ⟨r, -, -, y, -, hmeets', hempty⟩ := h.exists_spot rfl
  obtain ⟨d', isReference', heq⟩ := hmeets'.exists_element
  injection heq with _ _ hbounds _
  intro hzero
  rw [← hbounds, x.way.bounds_counts.isEmpty.2 hzero] at hempty
  exact Bool.noConfusion hempty

/-- The bounds that a walk comes to tell of each particle on its way what the exact products tell:
the walk does the same with the exact products, and nothing at all where the particle never occurs.
After a construction what is added for the element of a particle is required, a collection or
nullable as the exact products and its type say. All properties for elements come from such a
particle, and none is both required and nullable. -/
theorem occurrence_flags (set : SchemaSet) (options : Options) (naming : Naming)
    (resolver : Resolver) :
    let env := Environment.ofSet set options naming
    (∀ opened source x, Source.Reaches env.index opened source x →
        (x.way.greatest = 0 → ∀ c scope, x.collect c env scope = pure scope) ∧
        ∀ exact : Occurs, exact.min = (if x.compositor = .choice then 0 else x.outer.least) →
          exact.upper = x.outer.greatest → ∀ fuel scope,
            (callsUpTo env fuel).particle scope x.particle exact x.compositor =
              (callsUpTo env fuel).particle scope x.particle x.around x.compositor) ∧
      ∀ s, run env resolver = .ok s →
        (∀ r ∈ s.journal, ∀ x m p, r.Reaches env.index x → x.Meets env.index m →
          AddedFor env s r.scope.owner m p →
            x.way.greatest ≠ 0 ∧ TellsOccurrence env.index x m p) ∧
        ∀ id, ∀ p ∈ (s.finished env).properties id, p.isWildcard = false → p.isAttribute = false →
          (∃ r ∈ s.journal, r.scope.owner = id ∧ ∃ x m, r.Reaches env.index x ∧
            x.Meets env.index m ∧ (AddedFor env s id m p ∨ ∃ sub, AddedBeside env s id m sub p)) ∧
          ¬(p.isRequired = true ∧ p.isNullable = true) := by
  intro env
  refine ⟨fun opened source x _ => ⟨fun hzero c scope => x.collect_of_greatest hzero c env scope,
    fun exact hleast hgreatest fuel scope => ?exact⟩, fun s h => ⟨fun r _ x m p _ hmeets hadded =>
      ?added, fun id p hp hwildcard hattribute => ?origin⟩⟩
  case exact =>
    have hexact : exact.Counts _ _ := .self exact
    rw [hleast, hgreatest] at hexact
    have haround := counts_innerBounds x.outer.bounds_counts x.compositor
    exact Calls.discern_callsUpTo env fuel scope x.particle exact x.around x.compositor
      ⟨_, _, hexact, haround⟩
  case added =>
    have ⟨_, hq, _⟩ := hadded
    exact ⟨hq.greatest_ne_zero hmeets, hadded.tells hmeets⟩
  case origin =>
    have hs : Completed env resolver s := run_completed h
    rcases hs.finished_origin hp with hw | ⟨m, hm⟩ | ⟨-, m, sub, hsub⟩
    · exact absurd (hwildcard.symm.trans hw) Bool.false_ne_true
    · have helement : m.key.2 = false := (congrArg Prod.snd hm.key).symm.trans hattribute
      have ⟨_, hq, _⟩ := hm
      obtain ⟨r, hr, hid, x, hx, hmeets, -⟩ := hq.exists_spot helement
      exact ⟨⟨r, hr, hid, x, m, hx, hmeets, .inl hm⟩, (hm.tells hmeets).not_both⟩
    · have ⟨_, hhead, hrefers, _⟩ := hsub
      obtain ⟨r, hr, hid, x, hx, hmeets, -⟩ := hhead.exists_spot (congrArg Prod.snd hrefers.key)
      refine ⟨⟨r, hr, hid, x, m, hx, hmeets, .inr ⟨sub, hsub⟩⟩, fun hboth => ?_⟩
      exact absurd (hsub.isRequired.symm.trans hboth.1) Bool.false_ne_true

/-- Groups within a group, one so often that the product of the bounds is beyond the greatest count,
one a choice, and an element that never occurs, of a type that is not declared. -/
def multipliedBounds : SchemaSet :=
  let string : QName := .xsd "string"
  sampleSet
    [.complex
      { name := some (sampleName "T")
        particle := some
          { occurs := ⟨65536, some 65536⟩
            term := .group
              { particles :=
                  [{ sampleSequence [sampleElement "many" string] with
                      occurs := ⟨65537, some 65537⟩ },
                   .one (.group
                      { compositor := .choice, particles := [sampleElement "either" string] }),
                   { sampleElement "never" (sampleName "missing") with occurs := .never }] } } }]
    []

/-- The environment in which the type with the nested groups is built. -/
def multipliedEnv : Environment := .ofSet multipliedBounds {} .conventional

theorem occurrence_flags_multiplied : ∃ s, run multipliedEnv oneNamespace = .ok s ∧
    (∃ id, ∃ p ∈ (s.finished multipliedEnv).properties id, p.isRequired = true ∧
      p.isWildcard = false ∧ p.isAttribute = false) ∧
    (∀ r ∈ s.journal, ∀ x m p, r.Reaches multipliedEnv.index x → x.Meets multipliedEnv.index m →
      AddedFor multipliedEnv s r.scope.owner m p →
        x.way.greatest ≠ 0 ∧ TellsOccurrence multipliedEnv.index x m p) ∧
    ∀ id, ∀ p ∈ (s.finished multipliedEnv).properties id, p.isWildcard = false →
      p.isAttribute = false →
        (∃ r ∈ s.journal, r.scope.owner = id ∧ ∃ x m, r.Reaches multipliedEnv.index x ∧
          x.Meets multipliedEnv.index m ∧
            (AddedFor multipliedEnv s id m p ∨ ∃ sub, AddedBeside multipliedEnv s id m sub p)) ∧
        ¬(p.isRequired = true ∧ p.isNullable = true) := by
  obtain ⟨s, h, hsome⟩ := exists_of_any (x := run multipliedEnv oneNamespace)
    (p := fun s => (((s.finished multipliedEnv).properties 0)[0]?).any fun p =>
      p.isRequired && !p.isWildcard && !p.isAttribute)
    (by decide +kernel)
  obtain ⟨p, hp, hfields⟩ := (Option.any_eq_true _ _).1 hsome
  simp only [Bool.and_eq_true, Bool.not_eq_true'] at hfields
  exact ⟨s, h, ⟨0, p, List.mem_of_getElem? hp, hfields.1.1, hfields.1.2, hfields.2⟩,
    (occurrence_flags multipliedBounds {} .conventional oneNamespace).2 s h⟩

end XmlTypes.Build
