import XmlTypes.Proofs.Representation
import XmlTypes.Proofs.StandIns
/-!
# What two classes for one type declare

A type may get a class in each of two constructions. What one of them declares the other declares
too if nothing disturbs the openings of the classes and their base classes are for the same types,
unless a name is taken (`declared_on_both_sides`). The members and wildcards of the type are then
the same on both sides, as the same walk meets them. What is left to differ are names, and with them
what a restriction finds in base classes and where substitutes are put.
-/

namespace XmlTypes

open Build Schema

/-- What a property is in the schema. -/
structure Mark where
  name : QName
  isAttribute : Bool
  isWildcard : Bool

def Property.mark (p : Property) : Mark := ⟨p.schemaName, p.isAttribute, p.isWildcard⟩

/-- The name that is first chosen for a property with the mark. -/
def Mark.firstName (naming : Naming) (ownerName : String) (m : Mark) : String :=
  if m.isWildcard then wildcardName m.isAttribute
  else if m.isAttribute then naming.attributeProperty m.name ownerName
  else naming.elementProperty m.name ownerName

theorem Property.mark_of_bare {p q : Property} (h : p.bare = q.bare) : p.mark = q.mark := by
  change p.bare.mark = q.bare.mark
  rw [h]

namespace Build

/-- What a property for the member is in the schema. -/
def Member.mark (m : Member) : Mark := ⟨m.name, m.isAttribute, false⟩

theorem Member.firstName_mark (naming : Naming) (ownerName : String) (m : Member) :
    m.mark.firstName naming ownerName = m.propertyName naming ownerName := by
  cases m <;> rfl

/-- What a property for wildcards is in the schema. -/
def wildcardMark (isAttribute : Bool) : Mark :=
  ⟨.bare (if isAttribute then "anyAttribute" else "any"), isAttribute, true⟩

/-! ## Openings that nothing disturbs -/

/-- The groups that are being expanded when the definition is opened keep a walk from nothing: it
makes the same stops, and meets the same wildcards, as one that begins with no group open. -/
structure Opening.Unhindered (ix : Index) (r : Opening) : Prop where
  stops : ∀ stops, r.Along ix stops → r.source.Along ix [] stops
  wildcards : ∀ isAttribute, r.HasAny ix isAttribute ↔ r.source.HasAny ix [] isAttribute

/-- Nothing disturbs the opening of a class: no walk along its definition or that of a base class is
hindered, the base classes have declared all that they ever declare, and none of them derives from
the class. -/
structure Opening.Undisturbed (ix : Index) (s : State) (r : Opening) : Prop where
  unhindered : r.Unhindered ix
  bases : ∀ a ∈ s.journal, a.scope.owner ∈ s.graph.ancestors r.scope.owner → a.Unhindered ix
  inherited : s.graph.inheritedProperties r.scope.owner ⊆ r.inherited
  acyclic : ¬ s.graph.DerivesFrom r.scope.owner r.scope.owner

/-- The base classes of the second class are for types that the first one has base classes for. -/
def BasesAlike (s s' : State) (r r' : Opening) : Prop :=
  ∀ a' ∈ s'.journal, a'.scope.owner ∈ s'.graph.ancestors r'.scope.owner →
    ∃ a ∈ s.journal, a.scope.owner ∈ s.graph.ancestors r.scope.owner ∧ a.source = a'.source

section
variable {ix : Index} {r r' : Opening} {stops : List Stop}

/-- It is so when no group is being expanded. -/
theorem Opening.unhindered_of_active (h : r.active = []) : r.Unhindered ix where
  stops _ hstops := by rwa [Opening.Along, h] at hstops
  wildcards _ := by rw [Opening.HasAny, h]

/-- So it is for a type without content. -/
theorem Opening.unhindered_of_empty {d : Declared ComplexType} (hd : r.source = .type d)
    (hp : d.definition.particle = none) (ha : d.definition.attributes = []) : r.Unhindered ix where
  stops stops hstops := by
    rw [Opening.Along, hd] at hstops
    rw [hd]
    simp only [Source.Along, hp, ha, List.zipIdx_nil] at hstops ⊢
    obtain ⟨attributes, content, rfl, hattributes, rfl⟩ := hstops
    cases hattributes
    exact ⟨[], [], rfl, .nil, rfl⟩
  wildcards isAttribute := by
    rw [Opening.HasAny, hd]
    cases isAttribute with
    | false => simp [Source.HasAny, hp]
    | true =>
      have hnone (opened : List QName) :
          ¬ AnyInEntries ix opened (d.inPlace d.definition.attributes) := by
        rintro ⟨hi, -⟩
        rw [Declared.inPlace, ha] at hi
        cases hi
      simp only [Source.HasAny, hnone, or_false]

variable (h : r.Unhindered ix) (h' : r'.Unhindered ix) (hsource : r.source = r'.source)
include h h' hsource

/-- Walks that nothing hinders make the same stops along one definition. -/
theorem Opening.Unhindered.along_eq {stops' : List Stop} (hstops : r.Along ix stops)
    (hstops' : r'.Along ix stops') : stops = stops' :=
  Opening.Along.unique (r := { r' with active := [] }) (hsource ▸ h.stops _ hstops)
    (h'.stops _ hstops')

/-- A member that is met is held on the other side. -/
theorem Opening.Unhindered.held {env : Environment} {s s' : State} (hr : Complete env s r)
    {env' : Environment} (hr' : Complete env' s' r') (hix : env.index = ix) (hix' : env'.index = ix)
    {m : Member} (hm : r.Has ix m) : Held env' s' r'.scope m := by
  obtain ⟨stops, halong, -⟩ := hr.filled
  obtain ⟨stops', halong', hfilled'⟩ := hr'.filled
  obtain ⟨x, hx, rfl⟩ := (hix ▸ halong).exists_stop hm
  obtain rfl := h.along_eq h' hsource (hix ▸ halong) (hix' ▸ halong')
  exact hfilled'.held x hx

end

/-! ## Names that are taken -/

/-- The name that is first chosen for a property with the mark is that of another property, declared
or inherited by the class. -/
def Opening.NameTaken (env : Environment) (s : State) (r : Opening) (m : Mark) : Prop :=
  ∃ q ∈ (s.finished env).flattenedProperties r.scope.owner,
    q.originalName = m.firstName env.naming r.scope.ownerName ∧
      (q.mark ≠ m ∨ q ∈ (s.finished env).inheritedProperties r.scope.owner)

/-- What a property with a mark cannot do without: its own name, and that of the property for a head
beside which it is put as a substitute. -/
inductive Opening.Needs (set : SchemaSet) (options : Options) (s : State) (r : Opening) :
    Mark → Mark → Prop
  | itself {m} : Needs set options s r m m
  | head {head e} : options.substitutionStrategy = .separate →
      ⟨r.scope.owner, head⟩ ∈ s.context.substitutions.sites → set.StandsIn head e →
      Needs set options s r ⟨e.definition.name, false, false⟩ ⟨head, false, false⟩

/-- The second class is for a restriction that restates the member, as a base class declares it; on
the side of the first one the name for it is taken in a base class. -/
structure RestatedThere (env : Environment) (s : State) (r r' : Opening) (m : Mark) : Prop where
  restated : (m.name, m.isAttribute) ∈ r'.scope.restated
  taken : ∃ a ∈ s.journal, a.scope.owner ∈ s.graph.ancestors r.scope.owner ∧ a.NameTaken env s m

/-- A name is taken without which the second class has no property with the mark. -/
inductive Obstructed (set : SchemaSet) (env env' : Environment) (s s' : State) (r r' : Opening) :
    Mark → Prop
  | taken {m m'} : r.Needs set env.options s m m' → r'.NameTaken env' s' m' →
      Obstructed set env env' s s' r r' m
  | restated {m m'} : r.Needs set env.options s m m' → RestatedThere env s r r' m' →
      Obstructed set env env' s s' r r' m

section
variable {env : Environment} {s : State} {r : Opening} (hs : Recorded env s)
  (hclass : (s.graph.class? r.scope.owner).isSome) {m : Mark} {q : Property}
include hs hclass

/-- A property of the name that is first chosen has the mark and is declared, or takes the name. -/
theorem own_or_nameTaken {g : Graph}
    (hg : g.ancestors r.scope.owner = s.graph.ancestors r.scope.owner)
    (hkept : ∀ a, (s.graph.class? a).isSome →
      (g.properties a).map Property.bare ⊆ ((s.finished env).properties a).map Property.bare)
    (hq : q ∈ g.flattenedProperties r.scope.owner)
    (hname : q.originalName = m.firstName env.naming r.scope.ownerName) :
    (∃ p ∈ g.properties r.scope.owner, p.mark = m) ∨ r.NameTaken env s m := by
  rcases Graph.mem_flattenedProperties.1 hq with hq | hq
  · by_cases hmark : q.mark = m
    · exact .inl ⟨q, hq, hmark⟩
    · obtain ⟨q', hq', hbare⟩ := List.mem_map.1 (hkept _ hclass (List.mem_map_of_mem hq))
      refine .inr ⟨q', Graph.mem_flattenedProperties.2 (.inl hq'),
        (congrArg Property.originalName hbare).trans hname, .inl ?_⟩
      rwa [Property.mark_of_bare hbare]
  · obtain ⟨a, ha, hq⟩ := List.mem_flatMap.1 hq
    rw [hg] at ha
    have haclass := isSome_class?_of_mem_ancestors hs.linked ha
    obtain ⟨q', hq', hbare⟩ := List.mem_map.1 (hkept a haclass (List.mem_map_of_mem hq))
    rw [← (s.finished_shares env).ancestors] at ha
    have hinherited : q' ∈ (s.finished env).inheritedProperties r.scope.owner :=
      List.mem_flatMap.2 ⟨a, ha, hq'⟩
    exact .inr ⟨q', Graph.mem_flattenedProperties.2 (.inr hinherited),
      (congrArg Property.originalName hbare).trans hname, .inr hinherited⟩

/-- So it is with the properties before any are attached for substitutes. -/
theorem declared_or_nameTaken (hq : q ∈ s.graph.flattenedProperties r.scope.owner)
    (hname : q.name = m.firstName env.naming r.scope.ownerName) :
    (∃ p ∈ s.graph.properties r.scope.owner, p.mark = m) ∨ r.NameTaken env s m := by
  refine own_or_nameTaken hs hclass rfl (fun _ ha => (finished_kept ha).subset) hq ?_
  obtain ⟨a, -, hq⟩ := List.mem_flatMap.1 hq
  obtain ⟨_, -, -, harises⟩ := hs.arises a q hq
  exact harises.originalName.trans hname

/-- A member that is held is restated or declared, or its name is taken. -/
theorem Held.outcome {m : Member} (h : Held env s r.scope m) : m.key ∈ r.scope.restated ∨
    (∃ p ∈ s.graph.properties r.scope.owner, p.mark = m.mark) ∨ r.NameTaken env s m.mark := by
  refine h.imp_right fun ⟨p, hp, hname⟩ => declared_or_nameTaken hs hclass hp ?_
  rw [hname, Member.firstName_mark]

end

/-! ## What is declared on one side -/

/-- Each property of a class is there before substitutes are attached, or is put beside one. -/
theorem finished_cases {env : Environment} {resolver : Resolver} {s : State}
    (hs : Completed env resolver s) {id : NodeId} {p : Property}
    (hid : (s.graph.class? id).isSome) (hp : p ∈ (s.finished env).properties id) :
    (∃ q ∈ s.graph.properties id, p.bare = q.bare) ∨
      env.options.substitutionStrategy = .separate ∧
        ∃ q, IsBeside env s.context.substitutions s.graph id q ∧ p.bare = q.bare := by
  cases hstrategy : env.options.substitutionStrategy with
  | merge =>
    have hmem : p.bare ∈ (s.graph.properties id).map Property.bare :=
      finished_merged hstrategy hid ▸ List.mem_map_of_mem hp
    obtain ⟨q, hq, hqp⟩ := List.mem_map.1 hmem
    exact .inl ⟨q, hq, hqp.symm⟩
  | separate =>
    obtain ⟨q, hq, hbare, -⟩ := finished_arises hp
    exact ((hs.separates hstrategy).added id q hq).imp (fun hq => ⟨q, hq, hbare⟩)
      fun hq => ⟨rfl, q, hq, hbare⟩

/-- Before a property is renamed it has the name that was first chosen for it. -/
theorem originalName_of_attached {env : Environment} {resolver : Resolver} {s : State}
    (hs : Completed env resolver s) (hstrategy : env.options.substitutionStrategy = .separate)
    {id : NodeId} {p : Property} (hp : p ∈ (s.attached env).flattenedProperties id) :
    p.originalName = p.name := by
  obtain ⟨a, -, hp⟩ := List.mem_flatMap.1 hp
  rcases (hs.separates hstrategy).added a p hp with hp | ⟨_, -, -, x, -, _, rfl⟩
  · obtain ⟨_, -, -, harises⟩ := hs.recorded.arises a p hp
    exact harises.originalName
  · rfl

/-- A base class of a base class is a base class. -/
theorem Opening.Undisturbed.ancestors_subset {ix : Index} {s : State} {r : Opening}
    (h : r.Undisturbed ix s) {a : NodeId} (ha : a ∈ s.graph.ancestors r.scope.owner) :
    s.graph.ancestors a ⊆ s.graph.ancestors r.scope.owner := by
  intro b hb
  have hderives := (Graph.mem_ancestors.1 ha).2.trans (Graph.mem_ancestors.1 hb).2
  refine Graph.mem_ancestors.2 ⟨?_, hderives⟩
  rintro rfl
  exact h.acyclic hderives

section
variable {set : SchemaSet} {options options' : Options} {naming : Naming}
  {resolver resolver' : Resolver} {s s' : State} {r r' : Opening} {d : Declared ComplexType}
  {p : Property}
  (hs : Completed (.ofSet set options naming) resolver s)
  (hs' : Completed (.ofSet set options' naming) resolver' s')
  (hr : r ∈ s.journal) (hr' : r' ∈ s'.journal) (hd : r.source = .type d) (hd' : r'.source = .type d)
  (hu : r.Undisturbed (.ofSet set) s) (hu' : r'.Undisturbed (.ofSet set) s')
  (hbases : BasesAlike s s' r r')
include hs hs' hr hr' hd hd' hu hu'

section
include hbases

/-- Where a member is restated on the other side only, its name is taken in a base class on this
side. -/
theorem restatedThere {m : Member} (hm' : m.key ∈ r'.scope.restated)
    (hm : m.key ∉ r.scope.restated) :
    RestatedThere (.ofSet set options naming) s r r' m.mark := by
  refine ⟨hm', ?_⟩
  obtain ⟨hrestriction, q, hq, hw, hkey⟩ := ((hs'.recorded.openings r' hr').restated _).1 hm'
  -- No base class on this side declares the member, or it would be restated here.
  have hfree : ∀ q ∈ s.graph.inheritedProperties r.scope.owner, q.mark ≠ m.mark := by
    intro q hq hmark
    refine hm (((hs.recorded.openings r hr).restated _).2
      ⟨by rwa [hd, ← hd'], q, hu.inherited hq, congrArg Mark.isWildcard hmark, ?_⟩)
    exact Prod.ext (congrArg Mark.name hmark) (congrArg Mark.isAttribute hmark)
  obtain ⟨x, hx, hq⟩ := List.mem_flatMap.1 ((hs'.recorded.openings r' hr').inherited hq)
  obtain ⟨a', ha', rfl, harises⟩ := hs'.recorded.arises x q hq
  obtain ⟨a, ha, howner, hsource⟩ := hbases a' ha' hx
  obtain ⟨x, hx', hxm⟩ : ∃ x, a'.Has (.ofSet set) x ∧ x.mark = m.mark := by
    have hmark : q.mark = m.mark := by
      rw [Property.mark, hw]
      exact congrArg (fun k : QName × Bool => (⟨k.1, k.2, false⟩ : Mark)) hkey
    cases harises with
    | ofElement hx _ _ => exact ⟨_, hx, hmark⟩
    | ofAttribute hx _ _ => exact ⟨_, hx, hmark⟩
    | wildcard _ hw' _ _ => cases hw.symm.trans hw'
  have hclass := isSome_class?_of_mem_ancestors hs.recorded.linked howner
  have hheld : Held (.ofSet set options naming) s a.scope x :=
    (hu'.bases a' ha' hx).held (hu.bases a ha howner) hsource.symm (hs'.complete a' ha')
      (hs.complete a ha) rfl rfl hx'
  rcases hheld.outcome hs.recorded hclass with hrestated | ⟨q, hq, hmark⟩ | htaken
  · obtain ⟨-, q, hq, hw, hkey⟩ := ((hs.recorded.openings a ha).restated _).1 hrestated
    obtain ⟨b, hb, hq⟩ := List.mem_flatMap.1 ((hs.recorded.openings a ha).inherited hq)
    refine absurd ?_ (hfree q (List.mem_flatMap.2 ⟨b, hu.ancestors_subset howner hb, hq⟩))
    rw [← hxm, Property.mark, hw]
    exact congrArg (fun k : QName × Bool => (⟨k.1, k.2, false⟩ : Mark)) hkey
  · exact absurd (hmark.trans hxm) (hfree q (List.mem_flatMap.2 ⟨_, howner, hq⟩))
  · exact ⟨a, ha, howner, hxm ▸ htaken⟩

/-- What becomes on the other side of a member that is not restated here. -/
theorem declared_or_obstructed {m : Member} (hm : m.key ∉ r.scope.restated)
    (hheld : Held (.ofSet set options' naming) s' r'.scope m) {mark : Mark}
    (hneeds : r.Needs set options s mark m.mark) :
    (∃ p ∈ s'.graph.properties r'.scope.owner, p.mark = m.mark) ∨
      Obstructed set (.ofSet set options naming) (.ofSet set options' naming) s s' r r' mark := by
  have hclass := ((hs'.recorded.openings r' hr').type d hd').1
  rcases hheld.outcome hs'.recorded hclass with hrestated | hown | htaken
  · exact .inr (.restated hneeds (restatedThere hs hs' hr hr' hd hd' hu hu' hbases hrestated hm))
  · exact .inl hown
  · exact .inr (.taken hneeds htaken)

/-- Where substitutes for a head are put beside its property here, they are there. -/
theorem site_or_obstructed {head : QName}
    (hsite : ⟨r.scope.owner, head⟩ ∈ s.context.substitutions.sites) {mark : Mark}
    (hneeds : r.Needs set options s mark ⟨head, false, false⟩) :
    ⟨r'.scope.owner, head⟩ ∈ s'.context.substitutions.sites ∨
      Obstructed set (.ofSet set options naming) (.ofSet set options' naming) s s' r r' mark := by
  obtain ⟨stops, halong, hfilled⟩ := (hs.complete r hr).filled
  obtain ⟨stops', halong', hfilled'⟩ := (hs'.complete r' hr').filled
  obtain rfl := hu.unhindered.along_eq hu'.unhindered (hd.trans hd'.symm) halong halong'
  -- The reference to the head is the first stop with its name, here and there.
  obtain ⟨hmembers, _, -, m, hgives, hrefers⟩ := (hfilled.sites head).1 hsite
  have hmark : m.member.mark = ⟨head, false, false⟩ :=
    congrArg (fun k : QName × Bool => (⟨k.1, k.2, false⟩ : Mark)) hrefers.key
  refine (declared_or_obstructed hs hs' hr hr' hd hd' hu hu' hbases hgives.free
    (hfilled'.held m (List.mem_of_find?_eq_some hgives.first)) (hmark ▸ hneeds)).imp_left ?_
  rintro ⟨p, hp, hpm⟩
  refine (hfilled'.sites head).2 ⟨hmembers, p, hp, m, ?_, hrefers⟩
  rcases hfilled'.arises p hp with ⟨hw, -⟩ | ⟨m', hgives'⟩
  · cases (congrArg Mark.isWildcard hpm).symm.trans hw
  · have hkey : m'.key = m.key := by
      obtain ⟨_, _, -, rfl⟩ := hgives'.property
      refine Prod.ext ?_ ?_
      · exact Stop.schemaName_property.symm.trans (congrArg Mark.name hpm)
      · exact Stop.isAttribute_property.symm.trans (congrArg Mark.isAttribute hpm)
    have hfirst := hgives'.first
    rw [hkey, hgives.first] at hfirst
    exact Option.some.inj hfirst ▸ hgives'

end

omit hs hr hd hu hu' in
/-- What is there before substitutes are attached is there in the end. -/
theorem exists_finished {mark : Mark}
    (h : ∃ p ∈ s'.graph.properties r'.scope.owner, p.mark = mark) :
    ∃ p ∈ (s'.finished (.ofSet set options' naming)).properties r'.scope.owner, p.mark = mark := by
  obtain ⟨p, hp, rfl⟩ := h
  have hclass := ((hs'.recorded.openings r' hr').type d hd').1
  obtain ⟨p', hp', hbare⟩ := List.mem_map.1 ((finished_kept hclass).subset (List.mem_map_of_mem hp))
  exact ⟨p', hp', Property.mark_of_bare hbare⟩

omit hs hr hd hu hu' in
/-- A class has a property for wildcards that are met, or its name is taken. -/
theorem wildcard_or_nameTaken {isAttribute : Bool} (h : r'.HasAny (.ofSet set) isAttribute) :
    (∃ p ∈ s'.graph.properties r'.scope.owner, p.mark = wildcardMark isAttribute) ∨
      r'.NameTaken (.ofSet set options' naming) s' (wildcardMark isAttribute) := by
  have hclass := ((hs'.recorded.openings r' hr').type d hd').1
  obtain ⟨q, hq, hname⟩ := (hs'.faithful hr').wildcards _ h
  refine declared_or_nameTaken hs'.recorded hclass hq (hname.elim id ?_)
  rintro ⟨hw, rfl⟩
  obtain ⟨a, -, hq⟩ := List.mem_flatMap.1 hq
  exact (hs'.recorded.wildcards a q hq hw).1.1

omit hs hr hd hu hu' in
/-- A substitute is put beside the property for its head, or its name is taken. -/
theorem substitute_or_nameTaken (hstrategy : options'.substitutionStrategy = .separate)
    {head : QName} (hsite : ⟨r'.scope.owner, head⟩ ∈ s'.context.substitutions.sites)
    {e : Global ElementDecl} (he : set.StandsIn head e) :
    (∃ p ∈ (s'.finished (.ofSet set options' naming)).properties r'.scope.owner,
      p.mark = ⟨e.definition.name, false, false⟩) ∨
      r'.NameTaken (.ofSet set options' naming) s' ⟨e.definition.name, false, false⟩ := by
  have hopening := hs'.recorded.openings r' hr'
  have hclass := (hopening.type d hd').1
  obtain ⟨x, hx, hname⟩ := ((hs'.areStandIns head).member_iff e.definition.name).2 ⟨e, he, rfl⟩
  obtain ⟨n, hn, hownerName, -⟩ := hopening.node
  have hstrategy : (Environment.ofSet set options' naming).options.substitutionStrategy =
      .separate := hstrategy
  obtain ⟨q, hq, hqname⟩ :=
    attachSubstitutes_named (fun _ h => hs'.isSome_siteProperty? h) hstrategy hsite hx
  refine (own_or_nameTaken hs'.recorded hclass ((s'.attached_of _).shares.ancestors _)
    (fun _ ha => finished_bare ha ▸ List.Subset.refl _) hq ?_).imp_left fun ⟨p, hp, hmark⟩ => ?_
  · rw [originalName_of_attached hs' hstrategy hq, hqname, hname, Graph.nameOf_of_node? hn,
      hownerName]
    rfl
  · have hmem : p.bare ∈ ((s'.finished (.ofSet set options' naming)).properties
        r'.scope.owner).map Property.bare := finished_bare hclass ▸ List.mem_map_of_mem hp
    obtain ⟨p', hp', hbare⟩ := List.mem_map.1 hmem
    exact ⟨p', hp', (Property.mark_of_bare hbare).trans hmark⟩

/-- What one of two classes for one type declares the other declares too, unless a name is taken. -/
theorem declared_on_both_sides
    (hstrategy : options'.substitutionStrategy = options.substitutionStrategy)
    (hbases : BasesAlike s s' r r')
    (hp : p ∈ (s.finished (.ofSet set options naming)).properties r.scope.owner) :
    (∃ p' ∈ (s'.finished (.ofSet set options' naming)).properties r'.scope.owner,
      p'.mark = p.mark) ∨
      Obstructed set (.ofSet set options naming) (.ofSet set options' naming) s s' r r' p.mark := by
  have hclass := ((hs.recorded.openings r hr).type d hd).1
  have hsource : r.source = r'.source := hd.trans hd'.symm
  have hmember {m : Member} (hm : r.Has (.ofSet set) m) (hfree : m.key ∉ r.scope.restated) :
      (∃ p' ∈ (s'.finished (.ofSet set options' naming)).properties r'.scope.owner,
        p'.mark = m.mark) ∨ Obstructed set (.ofSet set options naming)
          (.ofSet set options' naming) s s' r r' m.mark :=
    (declared_or_obstructed hs hs' hr hr' hd hd' hu hu' hbases hfree
      (hu.unhindered.held hu'.unhindered hsource (hs.complete r hr) (hs'.complete r' hr') rfl rfl hm)
      .itself).imp_left (exists_finished hs' hr' hd')
  rcases finished_cases hs hclass hp with ⟨q, hq, hbare⟩ | ⟨hseparate, q, hq, hbare⟩
  · rw [Property.mark_of_bare hbare]
    obtain ⟨r₁, hr₁, howner, harises⟩ := hs.recorded.arises _ q hq
    obtain rfl := hs.recorded.opening_eq hr hr₁ howner
    cases harises with
    | ofElement hm hfree _ => exact hmember hm hfree
    | ofAttribute hm hfree _ => exact hmember hm hfree
    | wildcard _ hw _ _ =>
      obtain ⟨⟨-, hname⟩, r₁, hr₁, howner, hany⟩ := hs.recorded.wildcards _ q hq hw
      obtain rfl := hs.recorded.opening_eq hr hr₁ howner
      rw [show q.mark = wildcardMark q.isAttribute by rw [Property.mark, hname, hw]; rfl]
      have hany' : r'.HasAny (.ofSet set) q.isAttribute := by
        rw [hu'.unhindered.wildcards, ← hsource, ← hu.unhindered.wildcards]
        exact hany
      exact (wildcard_or_nameTaken hs' hr' hd' hany').imp (exists_finished hs' hr' hd')
        (.taken .itself)
  · rw [Property.mark_of_bare hbare]
    obtain ⟨head, -, ⟨-, hsite⟩, x, hx, ownerName, rfl⟩ := hq
    obtain ⟨e, he, hname⟩ := ((hs.areStandIns head.schemaName).member_iff x.member).1 ⟨x, hx, rfl⟩
    have hmark : (substituteProperty naming r.scope.owner ownerName head x).mark =
        ⟨e.definition.name, false, false⟩ := by rw [hname]; rfl
    rw [show (substituteProperty (Environment.ofSet set options naming).naming r.scope.owner
      ownerName head x).mark = _ from hmark]
    rcases site_or_obstructed hs hs' hr hr' hd hd' hu hu' hbases hsite
      (.head hseparate hsite he) with hsite' | hobstructed
    · exact (substitute_or_nameTaken hs' hr' hd' (hstrategy.trans hseparate) hsite' he).imp_right
        (.taken .itself)
    · exact .inr hobstructed

end

end Build

end XmlTypes
