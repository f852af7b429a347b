import XmlTypes.Proofs.Contents
/-!
# The members of a definition, in order

The same walks along a definition as those that tell its members, here with what they meet in
order: each stop with the bounds within which the element occurs and the compositor around it. A
walk has one list of stops (`Opening.Along.unique`), so it makes sense to speak of the first one
with a name.
-/

namespace XmlTypes.Build

open Schema

/-- A member as a walk meets it. -/
inductive Stop
  | element (d : Declared ElementDecl) (isReference : Bool) (occurs : Occurs)
    (compositor : Compositor)
  | attribute (d : Declared AttributeDecl) (isReference : Bool)

namespace Stop

/-- The member that is met. -/
def member : Stop → Member
  | .element d isReference _ _ => .element d isReference
  | .attribute d isReference => .attribute d isReference

/-- What a restriction knows the member by. -/
def key (m : Stop) : QName × Bool := m.member.key

/-- Whether elements of the given name are referred to. -/
def RefersTo (m : Stop) (name : QName) : Prop :=
  ∃ d occurs compositor, m = .element d true occurs compositor ∧ d.definition.name = name

/-- The property that the member gives. -/
def property (env : Environment) (scope : Scope) (type : Resolved) (order : Option Nat) :
    Stop → Property
  | .element d isReference occurs _ =>
    elementProperty env scope d.definition type occurs isReference order
  | .attribute d isReference => attributeProperty env scope d.definition type isReference

section
variable {env : Environment} {scope : Scope} {type : Resolved} {order : Option Nat} {m m' : Stop}

theorem RefersTo.key {name : QName} (h : m.RefersTo name) : m.key = (name, false) := by
  obtain ⟨d, _, _, rfl, rfl⟩ := h
  rfl

theorem owner_property : (m.property env scope type order).owner = scope.owner := by
  cases m <;> rfl

theorem type_property : (m.property env scope type order).type = type.type := by
  cases m <;> rfl

theorem isWildcard_property : (m.property env scope type order).isWildcard = false := by
  cases m <;> rfl

theorem substitutes_property : (m.property env scope type order).substitutes = [] := by
  cases m <;> rfl

theorem schemaName_property : (m.property env scope type order).schemaName = m.key.1 := by
  cases m <;> rfl

theorem isAttribute_property : (m.property env scope type order).isAttribute = m.key.2 := by
  cases m <;> rfl

theorem explicitNamespace_property :
    (m.property env scope type order).explicitNamespace = scope.explicitNamespace m.key.1 := by
  cases m <;> rfl

theorem name_property : (m.property env scope type order).name =
    m.member.propertyName env.naming scope.ownerName := by
  cases m <;> rfl

/-- Members with one key have one name for their properties. -/
theorem propertyName_of_key (naming : Naming) (ownerName : String) (h : m.key = m'.key) :
    m.member.propertyName naming ownerName = m'.member.propertyName naming ownerName := by
  obtain ⟨hn, ha⟩ := Prod.mk.inj h
  cases m <;> cases m'
  · exact congrArg (naming.elementProperty · ownerName) hn
  · cases ha
  · cases ha
  · exact congrArg (naming.attributeProperty · ownerName) hn

end

end Stop

/-! ## Walks in order -/

mutual

/-- The stops of a walk along a particle within the bounds and the compositor around it, where the
groups in `opened` are not entered. -/
inductive AlongParticle (ix : Index) : (opened : List QName) → Declared Particle →
    (outer : Occurs) → Compositor → List Stop → Prop
  | never {opened d outer compositor} : (d.definition.occurs.within outer).isEmpty = true →
      AlongParticle ix opened d outer compositor []
  | inPlace {opened d outer compositor e} : (d.definition.occurs.within outer).isEmpty = false →
      d.definition.term = .element e → AlongParticle ix opened d outer compositor
        [.element (d.inPlace e) false (d.definition.occurs.within outer) compositor]
  | reference {opened d outer compositor name g} :
      (d.definition.occurs.within outer).isEmpty = false →
      d.definition.term = .elementRef name → ix.element? name = some g →
      AlongParticle ix opened d outer compositor
        [.element (.ofGlobal .elements g) true (d.definition.occurs.within outer) compositor]
  | wildcard {opened d outer compositor w} : (d.definition.occurs.within outer).isEmpty = false →
      d.definition.term = .any w → AlongParticle ix opened d outer compositor []
  | group {opened d outer compositor g stops} :
      (d.definition.occurs.within outer).isEmpty = false → d.definition.term = .group g →
      AlongGroup ix opened (d.inPlace g) (d.definition.occurs.within outer) g.particles.zipIdx
        stops → AlongParticle ix opened d outer compositor stops
  /-- A group that the walk is in already. -/
  | recursion {opened d outer compositor name} :
      (d.definition.occurs.within outer).isEmpty = false →
      d.definition.term = .groupRef name → name ∈ opened →
      AlongParticle ix opened d outer compositor []
  | groupReference {opened d outer compositor name g stops} :
      (d.definition.occurs.within outer).isEmpty = false →
      d.definition.term = .groupRef name → name ∉ opened → ix.group? name = some g →
      AlongGroup ix (opened ++ [name]) ((Declared.ofGlobal .groups g).inPlace g.definition.group)
        (d.definition.occurs.within outer) g.definition.group.particles.zipIdx stops →
      AlongParticle ix opened d outer compositor stops

/-- The stops along some particles of a model group within bounds. -/
inductive AlongGroup (ix : Index) : (opened : List QName) → Declared ModelGroup → Occurs →
    (particles : List (Particle × Nat)) → List Stop → Prop
  | nil {opened d occurs} : AlongGroup ix opened d occurs [] []
  | cons {opened d occurs x xs stops rest} :
      AlongParticle ix opened (d.part (.particle x.2) x.1)
        (innerBounds d.definition.compositor occurs) d.definition.compositor stops →
      AlongGroup ix opened d occurs xs rest →
      AlongGroup ix opened d occurs (x :: xs) (stops ++ rest)

end

mutual

/-- The stops along an entry of an attribute list. -/
inductive AlongEntry (ix : Index) : (opened : List QName) → Declared AttributeItem →
    List Stop → Prop
  | prohibited {opened d a} : d.definition = .attribute a → a.use = .prohibited →
      AlongEntry ix opened d []
  | inPlace {opened d a} : d.definition = .attribute a → a.use ≠ .prohibited →
      AlongEntry ix opened d [.attribute (d.inPlace a) false]
  | prohibitedReference {opened d name g} : d.definition = .ref name →
      ix.attribute? name = some g → g.definition.use = .prohibited → AlongEntry ix opened d []
  | reference {opened d name g} : d.definition = .ref name → ix.attribute? name = some g →
      g.definition.use ≠ .prohibited →
      AlongEntry ix opened d [.attribute (.ofGlobal .attributes g) true]
  | recursion {opened d name} : d.definition = .group name → name ∈ opened →
      AlongEntry ix opened d []
  | groupReference {opened d name g stops} : d.definition = .group name → name ∉ opened →
      ix.attributeGroup? name = some g →
      AlongEntries ix (opened ++ [name])
        ((Declared.ofGlobal .attributeGroups g).inPlace g.definition.attributes)
        g.definition.attributes.zipIdx stops → AlongEntry ix opened d stops

/-- The stops along some entries of an attribute list. -/
inductive AlongEntries (ix : Index) : (opened : List QName) → Declared (List AttributeItem) →
    (entries : List (AttributeItem × Nat)) → List Stop → Prop
  | nil {opened d} : AlongEntries ix opened d [] []
  | cons {opened d x xs stops rest} :
      AlongEntry ix opened (d.part (.attribute x.2) x.1) stops →
      AlongEntries ix opened d xs rest → AlongEntries ix opened d (x :: xs) (stops ++ rest)

end

section
variable {ix : Index} {opened : List QName}

/-- A walk along a particle has one list of stops. -/
theorem AlongParticle.unique {d : Declared Particle} {outer : Occurs} {compositor : Compositor}
    {stops stops' : List Stop} (h : AlongParticle ix opened d outer compositor stops)
    (h' : AlongParticle ix opened d outer compositor stops') : stops = stops' := by
  -- Side by side along the particle and along the rest of each group in it.
  refine @AlongParticle.rec ix
    (fun opened d outer compositor stops _ => ∀ stops',
      AlongParticle ix opened d outer compositor stops' → stops = stops')
    (fun opened d occurs xs stops _ => ∀ stops',
      AlongGroup ix opened d occurs xs stops' → stops = stops')
    ?_ ?_ ?_ ?_ ?_ ?_ ?_ ?_ ?_ _ _ _ _ _ h stops' h'
  case refine_5 =>
    intro _ d _ _ g _ he ht _ ih _ h'
    cases h' with
    | group _ ht' hin =>
      obtain rfl : g = _ := by simpa [ht] using ht'
      exact ih _ hin
    | _ => simp_all
  case refine_7 =>
    intro _ d _ _ name g _ he ht hn hg _ ih _ h'
    cases h' with
    | groupReference _ ht' _ hg' hin =>
      obtain rfl : name = _ := by simpa [ht] using ht'
      obtain rfl := Option.some.inj (hg.symm.trans hg')
      exact ih _ hin
    | _ => simp_all
  case refine_8 =>
    intro _ _ _ _ h'
    cases h'
    rfl
  case refine_9 =>
    intro _ _ _ _ _ _ _ _ _ ih ihs _ h'
    cases h' with
    | cons hx hxs => rw [ih _ hx, ihs _ hxs]
  all_goals
    intros
    rename_i h'
    cases h' <;> simp_all

/-- So has a walk along an attribute list. -/
theorem AlongEntries.unique {d : Declared (List AttributeItem)} {xs : List (AttributeItem × Nat)}
    {stops stops' : List Stop} (h : AlongEntries ix opened d xs stops)
    (h' : AlongEntries ix opened d xs stops') : stops = stops' := by
  refine @AlongEntries.rec ix
    (fun opened d stops _ => ∀ stops', AlongEntry ix opened d stops' → stops = stops')
    (fun opened d xs stops _ => ∀ stops', AlongEntries ix opened d xs stops' → stops = stops')
    ?_ ?_ ?_ ?_ ?_ ?_ ?_ ?_ _ _ _ _ h stops' h'
  case refine_6 =>
    intro _ d name g _ hi hn hg _ ih _ h'
    cases h' with
    | groupReference hi' _ hg' hin =>
      obtain rfl : name = _ := by simpa [hi] using hi'
      obtain rfl := Option.some.inj (hg.symm.trans hg')
      exact ih _ hin
    | _ => simp_all
  case refine_7 =>
    intro _ _ _ h'
    cases h'
    rfl
  case refine_8 =>
    intro _ _ _ _ _ _ _ _ ih ihs _ h'
    cases h' with
    | cons hx hxs => rw [ih _ hx, ihs _ hxs]
  all_goals
    intros
    rename_i h'
    cases h' <;> simp_all

end

/-- The stops of a walk along a definition that begins with the groups in `opened` open: attributes
first. -/
def Source.Along (ix : Index) (opened : List QName) (stops : List Stop) : Source → Prop
  | .type d =>
    ∃ attributes content, stops = attributes ++ content ∧
      AlongEntries ix opened (d.inPlace d.definition.attributes) d.definition.attributes.zipIdx
        attributes ∧
      match d.definition.particle with
      | none => content = []
      | some p => AlongParticle ix opened (d.part .content p) .once .sequence content
  | .group d =>
    AlongGroup ix (opened ++ [d.definition.name]) (d.inPlace d.definition.group) .once
      d.definition.group.particles.zipIdx stops
  | .attributeGroup d =>
    AlongEntries ix (opened ++ [d.definition.name]) (d.inPlace d.definition.attributes)
      d.definition.attributes.zipIdx stops

/-- The stops on the way along the definition that a class or an interface is opened for. -/
def Opening.Along (ix : Index) (r : Opening) (stops : List Stop) : Prop :=
  r.source.Along ix r.active stops

section
variable {ix : Index} {opened : List QName} {stops : List Stop} {m : Member}

/-- Every member of a particle has a stop. -/
theorem AlongParticle.exists_stop {d : Declared Particle} {outer : Occurs} {compositor : Compositor}
    (h : AlongParticle ix opened d outer compositor stops) (hm : InParticle ix opened d outer m) :
    ∃ x ∈ stops, x.member = m := by
  -- Along the particle, and along the particles of each group in it that are still to come.
  refine @AlongParticle.rec ix
    (fun opened d outer _ stops _ => ∀ m, InParticle ix opened d outer m →
      ∃ x ∈ stops, x.member = m)
    (fun opened d occurs xs stops _ => ∀ m, (∃ x ∈ xs, InParticle ix opened
        (d.part (.particle x.2) x.1) (innerBounds d.definition.compositor occurs) m) →
      ∃ x ∈ stops, x.member = m)
    ?_ ?_ ?_ ?_ ?_ ?_ ?_ ?_ ?_ _ _ _ _ _ h m hm
  case refine_5 =>
    intro _ d _ _ g _ _ ht _ ih m hm
    obtain ⟨-, hm⟩ := inParticle_iff.1 hm
    rw [ht] at hm
    cases hm with
    | particle hp hm => exact ih m ⟨_, List.mk_mem_zipIdx_iff_getElem?.2 hp, hm⟩
  case refine_7 =>
    intro _ d _ _ name g _ _ ht _ hg _ ih m hm
    obtain ⟨-, hm⟩ := inParticle_iff.1 hm
    rw [ht] at hm
    obtain ⟨_, -, hg', hm⟩ := hm
    cases hg.symm.trans hg'
    cases hm with
    | particle hp hm => exact ih m ⟨_, List.mk_mem_zipIdx_iff_getElem?.2 hp, hm⟩
  case refine_8 =>
    rintro _ _ _ _ ⟨_, hx, _⟩
    cases hx
  case refine_9 =>
    rintro _ _ _ _ _ _ _ _ _ ih ihs m ⟨x, hx, hm⟩
    rcases List.mem_cons.1 hx with rfl | hx
    · exact (ih m hm).imp fun _ h => h.imp_left (List.mem_append_left _)
    · exact (ihs m ⟨x, hx, hm⟩).imp fun _ h => h.imp_left (List.mem_append_right _)
  all_goals
    intros
    rename_i hm
    obtain ⟨_, hm⟩ := inParticle_iff.1 hm
    simp_all [Stop.member]

/-- Every attribute of an attribute list has a stop. -/
theorem AlongEntries.exists_stop {d : Declared (List AttributeItem)}
    (h : AlongEntries ix opened d d.definition.zipIdx stops) (hm : InEntries ix opened d m) :
    ∃ x ∈ stops, x.member = m := by
  refine @AlongEntries.rec ix
    (fun opened d stops _ => ∀ m, InEntry ix opened d m → ∃ x ∈ stops, x.member = m)
    (fun opened d xs stops _ => ∀ m, (∃ x ∈ xs, InEntry ix opened
      (d.part (.attribute x.2) x.1) m) → ∃ x ∈ stops, x.member = m)
    ?_ ?_ ?_ ?_ ?_ ?_ ?_ ?_ _ _ _ _ h m ?_
  case refine_6 =>
    intro _ d name g _ hi _ hg _ ih m hm
    have hm := inEntry_iff.1 hm
    rw [hi] at hm
    obtain ⟨_, -, hg', hm⟩ := hm
    cases hg.symm.trans hg'
    cases hm with
    | entry hi hm => exact ih m ⟨_, List.mk_mem_zipIdx_iff_getElem?.2 hi, hm⟩
  case refine_7 =>
    rintro _ _ _ ⟨_, hx, _⟩
    cases hx
  case refine_8 =>
    rintro _ _ _ _ _ _ _ _ ih ihs m ⟨x, hx, hm⟩
    rcases List.mem_cons.1 hx with rfl | hx
    · exact (ih m hm).imp fun _ h => h.imp_left (List.mem_append_left _)
    · exact (ihs m ⟨x, hx, hm⟩).imp fun _ h => h.imp_left (List.mem_append_right _)
  case refine_9 =>
    cases hm with
    | entry hi hm => exact ⟨_, List.mk_mem_zipIdx_iff_getElem?.2 hi, hm⟩
  all_goals
    intros
    rename_i hm
    have hm := inEntry_iff.1 hm
    simp_all [Stop.member]

end

theorem Opening.Along.unique {ix : Index} {r : Opening} {stops stops' : List Stop}
    (h : r.Along ix stops) (h' : r.Along ix stops') : stops = stops' := by
  unfold Opening.Along at h h'
  cases hsource : r.source with
  | type d =>
    simp only [hsource, Source.Along] at h h'
    obtain ⟨_, _, rfl, hattributes, hcontent⟩ := h
    obtain ⟨_, _, rfl, hattributes', hcontent'⟩ := h'
    rw [hattributes.unique hattributes']
    cases hp : d.definition.particle with
    | none =>
      simp only [hp] at hcontent hcontent'
      rw [hcontent, hcontent']
    | some p =>
      simp only [hp] at hcontent hcontent'
      rw [hcontent.unique hcontent']
  | group d =>
    simp only [hsource, Source.Along] at h h'
    -- A group stands for the particles of its definition.
    have hparticle {stops : List Stop} (h : AlongGroup ix (r.active ++ [d.definition.name])
        (d.inPlace d.definition.group) .once d.definition.group.particles.zipIdx stops) :
        AlongParticle ix (r.active ++ [d.definition.name])
          (d.inPlace (Particle.one (.group d.definition.group))) .once .sequence stops :=
      .group rfl rfl h
    exact (hparticle h).unique (hparticle h')
  | attributeGroup d =>
    simp only [hsource, Source.Along] at h h'
    exact h.unique h'

/-- Every member that the walk meets has a stop. -/
theorem Opening.Along.exists_stop {ix : Index} {r : Opening} {stops : List Stop} {m : Member}
    (h : r.Along ix stops) (hm : r.Has ix m) : ∃ x ∈ stops, x.member = m := by
  unfold Opening.Along at h
  unfold Opening.Has at hm
  cases hsource : r.source with
  | type d =>
    simp only [hsource, Source.Along, Source.Has] at h hm
    obtain ⟨attributes, content, rfl, hattributes, hcontent⟩ := h
    rcases hm with ⟨p, hp, hm⟩ | hm
    · simp only [hp] at hcontent
      exact (hcontent.exists_stop hm).imp fun _ h =>
        h.imp_left (List.mem_append_right _)
    · exact (hattributes.exists_stop hm).imp fun _ h =>
        h.imp_left (List.mem_append_left _)
  | group d =>
    simp only [hsource, Source.Along, Source.Has] at h hm
    have hparticle : AlongParticle ix (r.active ++ [d.definition.name])
        (d.inPlace (Particle.one (.group d.definition.group))) .once .sequence stops :=
      .group rfl rfl h
    exact hparticle.exists_stop (.group rfl rfl hm)
  | attributeGroup d =>
    simp only [hsource, Source.Along, Source.Has] at h hm
    exact h.exists_stop hm

end XmlTypes.Build
