import XmlTypes.Proofs.Proceeding
import XmlTypes.Proofs.Termination
/-!
# Where everything resolves, a graph is built

A construction that has what it asks for can only go too deep, and one that comes to an end by
itself does not do that. So no error is left where names are not empty, references resolve, simple
types are not made from themselves and the resolver answers (`build_succeeds`). What can be given
in place for a global attribute has to be remembered for that: a complex type with an empty name is
not, and a reference back to the attribute is followed for ever
(`build_of_attributeInPlace_never_ends`).
-/

namespace XmlTypes

open Schema

namespace Schema

/-- Whether no global declaration has an empty name. -/
def SchemaSet.namesDeclarations (s : SchemaSet) : Bool :=
  s.namesGlobals && s.documents.all fun d =>
    d.elements.all (!·.name.isEmpty) && d.attributes.all (!·.name.isEmpty)

/-- Whether no complex type that is given in place for a global attribute bears an empty name. -/
def SchemaSet.remembersAttributeTypes (s : SchemaSet) : Bool :=
  s.documents.all (·.attributes.all AttributeDecl.isRemembered)

/-- The type given in place for an element is remembered by the name of the element. -/
theorem SchemaSet.remembersInlineTypes_of_names {s : SchemaSet}
    (hnames : s.namesDeclarations = true) (hattributes : s.remembersAttributeTypes = true) :
    s.remembersInlineTypes = true := by
  simp only [namesDeclarations, remembersAttributeTypes, remembersInlineTypes, Bool.and_eq_true,
    List.all_eq_true] at *
  refine fun d hd => ⟨fun e he => ?_, hattributes d hd⟩
  unfold ElementDecl.isRemembered
  split
  · rw [(hnames.2 d hd).1 e he, Bool.or_true]
  · rfl

end Schema

namespace Build

/-- A graph is built from every schema whose global declarations have names and whose references
resolve, in which simple types are made from simple types and none from itself, if the resolver
answers for every document and a complex type given in place for a global attribute does not bear
an empty name. -/
theorem build_succeeds {set : SchemaSet} {options : Options} {naming : Naming}
    {resolver : Resolver} (hnames : set.namesDeclarations = true)
    (hattributes : set.remembersAttributeTypes = true) (hresolves : set.resolves = true)
    (hacyclic : (Index.ofSet set).Acyclic)
    (hanswers : ∀ document ∈ set.documents, ∀ uri, resolver.Answers document.location uri) :
    ∃ g, buildGraph set options naming resolver = .ok g := by
  have hglobals : set.namesGlobals = true := (Bool.and_eq_true_iff.1 hnames).1
  have hinline := SchemaSet.remembersInlineTypes_of_names hnames hattributes
  have hproceeds : Proceeds (.ofSet set options naming) (documents (.ofSet set options naming))
      { resolver } :=
    documents_proceeds (SchemaSet.whole hresolves hacyclic) ⟨hanswers, nofun⟩
  -- What can fail is going too deep, and that does not happen to what ends by itself.
  have hends : EndsWithin set options naming resolver (depthLimit set) ∧ _ :=
    build_ends hglobals hinline
  rcases hends.2 with hok | ⟨e, he, hdeep⟩
  · exact hok
  · rw [buildGraph_eq, run_eq_map] at he
    cases hd : documents (.ofSet set options naming) { resolver } with
    | ok r =>
      rw [hd] at he
      cases he
    | error e' =>
      rw [hd] at he
      obtain rfl := Except.error.inj he
      rw [hproceeds.error _ hd] at hdeep
      cases hdeep

theorem answers_oneNamespace (location uri : String) : oneNamespace.Answers location uri :=
  ⟨"T", by rw [resolve_oneNamespace]⟩

/-- A schema with a reference of every kind: two elements share a type that contains itself, and
one simple type is made from another. -/
def referringSchema : SchemaSet :=
  { documents :=
    [{ location := "a.xsd"
       targetNamespace := some "urn:t"
       types :=
        [.complex
          { name := some (sampleName "Base")
            particle := some (sampleSequence [sampleElement "d" (sampleName "Derived"),
              .one (.elementRef (sampleName "e")), .one (.groupRef (sampleName "G"))])
            attributes := [.ref (sampleName "a"), .group (sampleName "A")] },
         .complex
          { name := some (sampleName "Derived")
            derivation := some ⟨sampleName "Base", .extension⟩ },
         .simple
          { name := some (sampleName "Text"), content := .restriction (.xsd "string") [] },
         .simple
          { name := some (sampleName "Texts"), content := .list (.named (sampleName "Text")) }]
       elements :=
        [{ name := sampleName "e", typeRef := some (.named (sampleName "Base")) },
         { name := sampleName "f", typeRef := some (.named (sampleName "Base")) }]
       groups :=
        [{ name := sampleName "G"
           group := { particles := [sampleElement "x" (sampleName "Texts")] } }]
       attributeGroups := [{ name := sampleName "A", attributes := [.ref (sampleName "a")] }]
       attributes :=
        [{ name := sampleName "a", typeRef := some (.named (sampleName "Text")) }] }] }

theorem build_succeeds_referring : referringSchema.namesDeclarations = true ∧
    referringSchema.remembersAttributeTypes = true ∧ referringSchema.resolves = true ∧
    (Index.ofSet referringSchema).Acyclic ∧
    (∀ document ∈ referringSchema.documents, ∀ uri,
      oneNamespace.Answers document.location uri) ∧
    ∃ g, buildGraph referringSchema {} .conventional oneNamespace = .ok g := by
  have hnames : referringSchema.namesDeclarations = true := by decide
  have hattributes : referringSchema.remembersAttributeTypes = true := by decide
  have hresolves : referringSchema.resolves = true := by decide +kernel
  have hacyclic : (Index.ofSet referringSchema).Acyclic :=
    SchemaSet.acyclic_of_rank (fun n => if n = sampleName "Texts" then 1 else 0)
      (by decide +kernel)
  have hanswers : ∀ document ∈ referringSchema.documents, ∀ uri,
      oneNamespace.Answers document.location uri :=
    fun _ _ _ => answers_oneNamespace _ _
  exact ⟨hnames, hattributes, hresolves, hacyclic, hanswers,
    build_succeeds hnames hattributes hresolves hacyclic hanswers⟩

/-! ## What is not remembered -/

/-- A type of the given name with a reference to the attribute. -/
def carrying (name : String) : ComplexType :=
  { name := some (sampleName name), attributes := [.ref (sampleName "a")] }

/-- A schema with an attribute whose type is given in place, bears an empty name and refers back to
the attribute. -/
def attributeInPlace : SchemaSet :=
  { documents :=
    [{ location := "a.xsd"
       targetNamespace := some "urn:t"
       types := [.complex (carrying "T")]
       attributes :=
        [{ name := sampleName "a", typeRef := some (.inline (.complex (carrying ""))) }] }] }

/-- The environment of a construction of the schema that may go `limit` levels deep. -/
def attributeInPlaceEnv (limit : Nat) : Environment :=
  (Environment.ofSet attributeInPlace {} .conventional).within limit

/-- Neither the attribute nor its type is remembered, and every namespace is mapped. -/
structure Unaware (s : State) : Prop where
  reference : s.context.cache.get? ⟨.attributeType, "a.xsd", sampleName "a"⟩ = none
  type : ∀ location, s.context.cache.get? ⟨.complexType, location, sampleName ""⟩ = none
  inlineTypes : s.context.inlineTypes = {}
  resolver : s.resolver = oneNamespace

/-- A complex type is remembered by its name alone, if it has one. -/
theorem Unaware.recordNamed {s : State} (hs : Unaware s) (location name : String) (id : NodeId) :
    Unaware { s with
      context := s.context.recordNamed ⟨.complexType, location, sampleName name⟩ id } := by
  by_cases hname : name.isEmpty
  · have hsame : s.context.recordNamed ⟨.complexType, location, sampleName name⟩ id =
        s.context := by
      simp [Context.recordNamed, Cache.insert, sampleName, QName.isEmpty, hname]
    rw [hsame]
    exact hs
  · have hinsert (k : CacheKey) (hk : k ≠ ⟨.complexType, location, sampleName name⟩)
        (hnone : s.context.cache.get? k = none) :
        (s.context.recordNamed ⟨.complexType, location, sampleName name⟩ id).cache.get? k =
          none := by
      cases h : (s.context.recordNamed _ id).cache.get? k with
      | none => rfl
      | some found =>
        rcases Cache.of_get?_insert h with h | ⟨h, -⟩
        · rw [hnone] at h
          cases h
        · exact absurd h hk
    refine ⟨hinsert _ (by simp) hs.reference, fun l => hinsert _ ?_ (hs.type l), hs.inlineTypes,
      hs.resolver⟩
    simp only [sampleName, ne_eq, CacheKey.mk.injEq, QName.mk.injEq, true_and, not_and]
    rintro - rfl
    exact hname rfl

section
variable {limit : Nat} {c : Calls}
  (hcalls : ∀ (s : State) (document : Document) (place : Place) (candidate : String), Unaware s →
    Plunges (c.classNode ⟨carrying "", document, place⟩ (sampleName "") candidate
      (some ⟨.complexType, document.location, sampleName ""⟩)) s)
include hcalls

/-- Who follows a reference to the attribute follows it into its type. -/
theorem attributeReference_plunges {g : Global AttributeDecl}
    (hg : (attributeInPlaceEnv limit).index.attribute? (sampleName "a") = some g) {scope : Scope}
    {s : State} (hs : Unaware s) :
    Plunges (attributeType c (attributeInPlaceEnv limit) scope (.ofGlobal .attributes g) true)
      s := by
  obtain rfl := Option.some.inj hg
  refine Plunges.after (show getContext s = .ok (s.context, s) from rfl) ?_
  dsimp only [Declared.ofGlobal, Declared.location]
  rw [hs.reference]
  exact .bind (.bind (hcalls s _ _ _ hs))

/-- The content of a type that carries the attribute is the reference, after nothing else. -/
theorem carryingContent_plunges {id : NodeId} {name : String} {document : Document} {place : Place}
    {s : State} (hs : Unaware s) :
    Plunges (classContent c (attributeInPlaceEnv limit) id ⟨carrying name, document, place⟩) s := by
  obtain ⟨g, hg⟩ : ∃ g, (attributeInPlaceEnv limit).index.attribute? (sampleName "a") = some g :=
    ⟨_, rfl⟩
  have hmember (scope : Scope) (hscope : scope.restated = []) :
      attributeMember c (attributeInPlaceEnv limit) scope (.ofGlobal .attributes g) true = (do
        let type ← attributeType c (attributeInPlaceEnv limit) scope (.ofGlobal .attributes g) true
        let _ ← addProperty
          (attributeProperty (attributeInPlaceEnv limit) scope g.definition type true)) := by
    obtain rfl := Option.some.inj hg
    unfold attributeMember
    rw [hscope]
    rfl
  refine .after rfl (.after rfl (.after rfl (.bind (.bind ?_))))
  unfold attributeItem
  simp only [carrying, Declared.inPlace, Declared.part, hg]
  rw [hmember _ rfl]
  refine .bind (.bind (attributeReference_plunges hcalls hg ?_))
  exact ⟨hs.reference, hs.type, hs.inlineTypes, hs.resolver⟩

end

/-- However deep the construction may go, the class of a type that carries the attribute goes
deeper. -/
theorem carryingNode_plunges (limit fuel : Nat) : ∀ (name : String) (s : State)
    (document : Document) (place : Place) (candidate : String), Unaware s →
      s.context.cache.get? ⟨.complexType, document.location, sampleName name⟩ = none →
      Plunges ((callsUpTo (attributeInPlaceEnv limit) fuel).classNode
        ⟨carrying name, document, place⟩ (sampleName name) candidate
        (some ⟨.complexType, document.location, sampleName name⟩)) s := by
  induction fuel with
  | zero => exact fun _ _ _ _ _ _ _ => ⟨_, rfl, rfl⟩
  | succ fuel ih =>
    intro name s document place candidate hs hnew
    change Plunges (classNode _ _ _ _ _ _) s
    unfold classNode
    refine Plunges.after (show getContext s = .ok (s.context, s) from rfl) ?_
    dsimp only [Option.bind_some]
    rw [hnew, Context.inlineType?, hs.inlineTypes]
    obtain ⟨id, t, hnode, hcontext, hresolver⟩ := newNode_of_oneNamespace hs.resolver
    have ht : Unaware t :=
      ⟨hcontext ▸ hs.reference, hcontext ▸ hs.type, hcontext ▸ hs.inlineTypes, hresolver⟩
    -- The type bears a name, so it is not remembered for its place.
    refine Plunges.after hnode (Plunges.after rfl (Plunges.bind (carryingContent_plunges ?_ ?_)))
    · exact fun u document place candidate hu =>
        ih "" u document place candidate hu (hu.type _)
    · exact ht.recordNamed document.location name id

/-- No limit is enough for the schema, although its global declarations have names, its references
resolve, it has no simple types, and every namespace is mapped: the type of the attribute is
entered again and again. -/
theorem build_of_attributeInPlace_never_ends : attributeInPlace.namesDeclarations = true ∧
    attributeInPlace.resolves = true ∧ (Index.ofSet attributeInPlace).Acyclic ∧
    (∀ document ∈ attributeInPlace.documents, ∀ uri,
      oneNamespace.Answers document.location uri) ∧
    (¬ ∃ g, buildGraph attributeInPlace {} .conventional oneNamespace = .ok g) ∧
    ¬ ∃ limit, EndsWithin attributeInPlace {} .conventional oneNamespace limit := by
  have hplunges (limit : Nat) :
      Plunges (documents (attributeInPlaceEnv limit)) { resolver := oneNamespace } := by
    have horder : (attributeInPlaceEnv limit).index.buildOrder = [0] := rfl
    unfold documents
    rw [horder]
    refine .bind (.bind (.bind (.bind ?_)))
    refine carryingNode_plunges limit limit "T" _ _ _ _ ⟨rfl, fun _ => rfl, rfl, rfl⟩ rfl
  refine ⟨by decide, by decide +kernel, ?_, fun _ _ _ => answers_oneNamespace _ _, ?_, ?_⟩
  · exact SchemaSet.acyclic_of_rank (fun _ => 0) (by decide +kernel)
  · rintro ⟨g, hg⟩
    obtain ⟨e, he, -⟩ := buildWithin_of_plunges (hplunges (depthLimit attributeInPlace))
    cases hg.symm.trans he
  · rintro ⟨limit, h⟩
    exact not_endsWithin_of_plunges (hplunges limit) h

end Build

end XmlTypes
