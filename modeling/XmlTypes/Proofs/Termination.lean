import XmlTypes.Proofs.Classifying
import XmlTypes.Proofs.Traversal
/-!
# A construction comes to an end

A construction goes down through declarations that refer to one another in every way, and it is
what it remembers that ends it. Where all that is entered again can be remembered, it never goes
deeper than `depthLimit`: however deep it may go, it ends in the same way
(`build_ends`). What has no name of its own but bears one cannot be remembered;
the construction that follows a reference from inside back to it never ends
(`build_of_namedInPlace_never_ends`).
-/

namespace XmlTypes

open Schema

namespace Schema

/-! ## What is remembered -/

/-- Whether no global type, model group or attribute group has an empty name. -/
def SchemaSet.namesGlobals (s : SchemaSet) : Bool :=
  s.documents.all fun d =>
    d.types.all (fun t => t.name.all (!·.isEmpty)) && d.groups.all (!·.name.isEmpty)
      && d.attributeGroups.all (!·.name.isEmpty)

/-- Whether a complex type that is given in place for a global element is remembered: by the name
of the element, or for its place if it has no name itself. -/
def ElementDecl.isRemembered (e : ElementDecl) : Bool :=
  match e.typeRef with
  | some (.inline (.complex t)) => t.name.isNone || !e.name.isEmpty
  | _ => true

/-- Whether a complex type that is given in place for a global attribute is remembered: by its own
name, or for its place if it has none. -/
def AttributeDecl.isRemembered (a : AttributeDecl) : Bool :=
  match a.typeRef with
  | some (.inline (.complex t)) => t.name.all (!·.isEmpty)
  | _ => true

/-- Whether the types given in place for global elements and attributes are remembered. -/
def SchemaSet.remembersInlineTypes (s : SchemaSet) : Bool :=
  s.documents.all fun d =>
    d.elements.all ElementDecl.isRemembered && d.attributes.all AttributeDecl.isRemembered

end Schema

namespace Build

/-! ## The doors of a schema -/

/-- The door of a global type. -/
def typeDoor? (g : Global TypeDefinition) : Option Door :=
  match g.definition with
  | .complex t =>
    let d := (Declared.ofGlobal .types g).inPlace t
    some ⟨typeKey? d, some d.place⟩
  | .simple _ => none

/-- The door of the type given in place for a global element. -/
def elementDoor? (g : Global ElementDecl) : Option Door :=
  match g.definition.typeRef with
  | some (.inline (.complex t)) =>
    let d := (Declared.ofGlobal .elements g).part .type t
    some ⟨some ⟨.elementType, d.location, g.definition.name⟩, some d.place⟩
  | _ => none

/-- The door of the type given in place for a global attribute. -/
def attributeDoor? (g : Global AttributeDecl) : Option Door :=
  match g.definition.typeRef with
  | some (.inline (.complex t)) =>
    let d := (Declared.ofGlobal .attributes g).part .type t
    some ⟨typeKey? d, some d.place⟩
  | _ => none

/-- The door of the interface of a model group. -/
def groupDoor (g : Global GroupDef) : Door :=
  ⟨some ⟨.group, g.document.location, g.definition.name⟩, none⟩

/-- The door of the interface of an attribute group. -/
def attributeGroupDoor (g : Global AttributeGroupDef) : Door :=
  ⟨some ⟨.attributeGroup, g.document.location, g.definition.name⟩, none⟩

/-- The doors and groups of a schema. -/
def Bounds.ofSet (set : SchemaSet) : Bounds :=
  let docs := set.documents
  let groups := Index.globals docs Document.groups
  let attributeGroups := Index.globals docs Document.attributeGroups
  { doors := (Index.globals docs Document.types).filterMap typeDoor?
      ++ (Index.globals docs Document.elements).filterMap elementDoor?
      ++ (Index.globals docs Document.attributes).filterMap attributeDoor?
      ++ groups.map groupDoor ++ attributeGroups.map attributeGroupDoor
    groups := groups.map (·.definition.name) ++ attributeGroups.map (·.definition.name)
    depth := set.depth }

section
variable {set : SchemaSet} {n : QName}

/-- What the index finds stands in a document of the schema, under its name. -/
theorem found_spec {α : Type} {items : Document → List α} {name : α → Option QName} {g : Global α}
    (h : ((Table.ofEntries (Index.entriesOf set.documents items name)).get? n).bind
      (Index.at? set.documents items) = some g) :
    name g.definition = some n ∧ g ∈ Index.globals set.documents items ∧
      g.document ∈ set.documents ∧ g.definition ∈ items g.document := by
  obtain ⟨s, -, hg⟩ := Option.bind_eq_some_iff.1 h
  exact ⟨Index.name_of_found h, Index.mem_globals_of_at? hg, Index.mem_of_found h⟩

theorem isDoor_of_type? (hnames : set.namesGlobals = true) {g : Global TypeDefinition}
    {t : ComplexType} (hg : (Index.ofSet set).type? n = some g) (ht : g.definition = .complex t) :
    (Bounds.ofSet set).IsDoor ((Declared.ofGlobal .types g).inPlace t)
      (typeKey? ((Declared.ofGlobal .types g).inPlace t)) := by
  obtain ⟨hname, hmem, hdoc, hdef⟩ := found_spec hg
  have hn : n.isEmpty = false := by
    simp only [SchemaSet.namesGlobals, List.all_eq_true, Bool.and_eq_true] at hnames
    have hn := (hnames _ hdoc).1.1 _ hdef
    rwa [hname, Option.all_some, Bool.not_eq_true'] at hn
  have hle := SchemaSet.type_depth_le hdoc hdef
  rw [ht] at hname hle
  refine ⟨?_, .inl ⟨_, congrArg (Option.map _) hname, hn⟩, Nat.le_of_succ_le hle⟩
  simp only [Bounds.ofSet, List.mem_append]
  exact .inl (.inl (.inl (.inl (List.mem_filterMap.2 ⟨g, hmem, by rw [typeDoor?, ht]⟩))))

theorem isDoor_of_element? (hinline : set.remembersInlineTypes = true) {g : Global ElementDecl}
    {t : ComplexType} (hg : (Index.ofSet set).element? n = some g)
    (ht : g.definition.typeRef = some (.inline (.complex t))) :
    (Bounds.ofSet set).IsDoor ((Declared.ofGlobal .elements g).part .type t)
      (some ⟨.elementType, g.document.location, g.definition.name⟩) := by
  obtain ⟨-, hmem, hdoc, hdef⟩ := found_spec hg
  refine ⟨?_, ?_, ?_⟩
  · simp only [Bounds.ofSet, List.mem_append]
    exact .inl (.inl (.inl (.inr (List.mem_filterMap.2 ⟨g, hmem, by rw [elementDoor?, ht]; rfl⟩))))
  · simp only [SchemaSet.remembersInlineTypes, List.all_eq_true, Bool.and_eq_true] at hinline
    have hn := (hinline _ hdoc).1 _ hdef
    rw [ElementDecl.isRemembered, ht, Bool.or_eq_true, Bool.not_eq_true',
      Option.isNone_iff_eq_none] at hn
    exact hn.elim .inr fun hn => .inl ⟨_, rfl, hn⟩
  · have hlt := ElementDecl.typeRef_depth_lt ht
    have hle := SchemaSet.element_depth_le hdoc hdef
    change t.depth + 1 + 1 < _ at hlt
    change t.depth ≤ set.depth
    omega

theorem isDoor_of_attribute? (hinline : set.remembersInlineTypes = true) {g : Global AttributeDecl}
    {t : ComplexType} (hg : (Index.ofSet set).attribute? n = some g)
    (ht : g.definition.typeRef = some (.inline (.complex t))) :
    (Bounds.ofSet set).IsDoor ((Declared.ofGlobal .attributes g).part .type t)
      (typeKey? ((Declared.ofGlobal .attributes g).part .type t)) := by
  obtain ⟨-, hmem, hdoc, hdef⟩ := found_spec hg
  refine ⟨?_, ?_, ?_⟩
  · simp only [Bounds.ofSet, List.mem_append]
    exact .inl (.inl (.inr (List.mem_filterMap.2 ⟨g, hmem, by rw [attributeDoor?, ht]⟩)))
  · simp only [SchemaSet.remembersInlineTypes, List.all_eq_true, Bool.and_eq_true] at hinline
    have hn := (hinline _ hdoc).2 _ hdef
    rw [AttributeDecl.isRemembered, ht] at hn
    change t.name.all (!·.isEmpty) = true at hn
    change (∃ k, t.name.map _ = some k ∧ _) ∨ t.name = none
    cases ht' : t.name with
    | none => exact .inr rfl
    | some m =>
      rw [ht', Option.all_some, Bool.not_eq_true'] at hn
      exact .inl ⟨_, rfl, hn⟩
  · have hlt := AttributeDecl.typeRef_depth_lt ht
    have hle := SchemaSet.attribute_depth_le hdoc hdef
    change t.depth + 1 + 1 < _ at hlt
    change t.depth ≤ set.depth
    omega

/-- Where names are not empty and types given in place are remembered, every global definition is
behind a door. -/
theorem Bounds.ofSet_covers (hnames : set.namesGlobals = true)
    (hinline : set.remembersInlineTypes = true) : (Bounds.ofSet set).Covers (.ofSet set) where
  typeDepth _ _ hg := SchemaSet.type_depth_le (found_spec hg).2.2.1 (found_spec hg).2.2.2
  elementDepth _ _ hg := SchemaSet.element_depth_le (found_spec hg).2.2.1 (found_spec hg).2.2.2
  attributeDepth _ _ hg := SchemaSet.attribute_depth_le (found_spec hg).2.2.1 (found_spec hg).2.2.2
  types _ _ _ hg ht := isDoor_of_type? hnames hg ht
  elements _ _ _ hg ht := isDoor_of_element? hinline hg ht
  attributes _ _ _ hg ht := isDoor_of_attribute? hinline hg ht
  groups n g hg := by
    obtain ⟨hname, hmem, hdoc, hdef⟩ := found_spec hg
    obtain rfl := Option.some.inj hname
    simp only [SchemaSet.namesGlobals, List.all_eq_true, Bool.and_eq_true] at hnames
    refine ⟨List.mem_append.2 (.inl (List.mem_map_of_mem hmem)), ?_, ?_,
      SchemaSet.group_depth_le hdoc hdef⟩
    · simpa using (hnames _ hdoc).1.2 _ hdef
    · simp only [Bounds.ofSet, List.mem_append]
      exact .inl (.inr (List.mem_map_of_mem hmem))
  attributeGroups n g hg := by
    obtain ⟨hname, hmem, hdoc, hdef⟩ := found_spec hg
    obtain rfl := Option.some.inj hname
    simp only [SchemaSet.namesGlobals, List.all_eq_true, Bool.and_eq_true] at hnames
    refine ⟨List.mem_append.2 (.inr (List.mem_map_of_mem hmem)), ?_, ?_,
      SchemaSet.attributeGroup_depth_le hdoc hdef⟩
    · simpa using (hnames _ hdoc).2 _ hdef
    · simp only [Bounds.ofSet, List.mem_append]
      exact .inr (List.mem_map_of_mem hmem)

/-- At first there is room for every door and group of the schema. -/
theorem Bounds.ofSet_rank_lt (set : SchemaSet) : (Bounds.ofSet set).rank {} < depthLimit set := by
  have hopen : (Bounds.ofSet set).doors.countP (!·.isPassed {}) ≤ (Bounds.ofSet set).doors.length :=
    List.countP_le_length
  have hidle : (Bounds.ofSet set).groups.countP (!({} : Context).isExpanding ·) ≤
      (Bounds.ofSet set).groups.length := List.countP_le_length
  have htypes := List.length_filterMap_le typeDoor? (Index.globals set.documents Document.types)
  have helements :=
    List.length_filterMap_le elementDoor? (Index.globals set.documents Document.elements)
  have hattributes :=
    List.length_filterMap_le attributeDoor? (Index.globals set.documents Document.attributes)
  unfold Bounds.rank depthLimit
  refine Nat.mul_lt_mul_of_pos_right ?_ (Nat.succ_pos _)
  refine Nat.lt_succ_of_le (Nat.le_trans ?_ (Nat.le_mul_of_pos_left _ (Nat.succ_pos _)))
  refine Nat.le_trans (Nat.add_le_add hopen hidle) ?_
  simp only [Bounds.ofSet, List.length_append, List.length_map, Index.length_globals] at *
  change _ ≤ (set.documents.flatMap Document.types).length + set.typesInside
    + ((set.documents.flatMap Document.elements).length
      + (set.documents.flatMap Document.attributes).length)
    + 2 * ((set.documents.flatMap Document.groups).length
      + (set.documents.flatMap Document.attributeGroups).length) + 1
  omega

/-- There is room for the classification of every simple type. -/
theorem classifying_lt_depthLimit (set : SchemaSet) :
    (Index.ofSet set).types.size * (set.depth + 2) + set.depth < depthLimit set := by
  have hsize : (Index.ofSet set).types.size ≤ (set.documents.flatMap Document.types).length := by
    refine Nat.le_trans (Table.size_ofEntries_le _) ?_
    rw [Index.entriesOf_eq, ← Index.length_globals]
    exact List.length_filterMap_le _ _
  have hmul : (Index.ofSet set).types.size * (set.depth + 2) + set.depth <
      ((set.documents.flatMap Document.types).length + 1) * (set.depth + 2) := by
    have := Nat.mul_le_mul_right (set.depth + 2) hsize
    rw [Nat.succ_mul]
    omega
  refine Nat.lt_of_lt_of_le hmul (Nat.mul_le_mul_right _ ?_)
  refine Nat.le_succ_of_le (Nat.le_trans ?_ (Nat.le_mul_of_pos_right _ (Nat.succ_pos _)))
  exact Nat.succ_le_succ (Nat.le_trans (Nat.le_add_right _ _) (Nat.le_add_right _ _))

end

/-! ## The end -/

/-- The environment of a construction that may go `limit` levels deep. -/
def Environment.within (env : Environment) (limit : Nat) : Environment := { env with limit }

section
variable (set : SchemaSet) (options : Options) (naming : Naming) (resolver : Resolver)

/-- The outcome of a construction that may go `limit` levels deep. -/
def buildWithin (limit : Nat) : Except Failure Graph := do
  let env := (Environment.ofSet set options naming).within limit
  return (← run env resolver).finished env

theorem buildWithin_eq (limit : Nat) : buildWithin set options naming resolver limit =
    (run ((Environment.ofSet set options naming).within limit) resolver).map
      (State.finished (.ofSet set options naming)) := by
  change (run ((Environment.ofSet set options naming).within limit) resolver >>= _) = _
  cases run ((Environment.ofSet set options naming).within limit) resolver <;> rfl

/-- The construction ends by itself before it is `limit` levels deep, with a graph or a failure: if
it may go deeper, the outcome is the same, and the failure is not that it goes too deep. -/
structure EndsWithin (limit : Nat) : Prop where
  settled : ∀ deeper, limit ≤ deeper →
    buildWithin set options naming resolver deeper = buildWithin set options naming resolver limit
  outcome : (∃ g, buildWithin set options naming resolver limit = .ok g) ∨
    ∃ e, buildWithin set options naming resolver limit = .error e ∧ e.isBottomless = false

end

section
variable {set : SchemaSet} {options : Options} {naming : Naming} {resolver : Resolver}

/-- The same construction, which may go deeper. -/
def Mirror.deeper (options : Options) (naming : Naming) (hnames : set.namesGlobals = true)
    (hinline : set.remembersInlineTypes = true) {limit : Nat} (h : depthLimit set ≤ limit) :
    Mirror where
  erasure := .none
  env := .ofSet set options naming
  env' := (Environment.ofSet set options naming).within limit
  bounds := some (.ofSet set)
  index := rfl
  naming := rfl
  reserved := rfl
  interfaces := rfl
  ordered := (Bool.and_true _).symm
  unrestricted := Erasure.restrictions_none
  classify document visiting t ht := by
    have hcovers := Bounds.ofSet_covers hnames hinline
    rw [funext Erasure.classification_none]
    exact (classify_settled hcovers.typeDepth (ht _ rfl) h (classifying_lt_depthLimit set)).1.trans
      (congrFun Except.map_id _).symm
  settles b hb document visiting t e ht he := by
    cases hb
    have hcovers := Bounds.ofSet_covers hnames hinline
    exact (classify_settled hcovers.typeDepth ht h (classifying_lt_depthLimit set)).2 e he
  limit_le := h
  limit_eq := nofun
  covers b hb := by
    cases hb
    exact Bounds.ofSet_covers hnames hinline
  deep b hb := by
    cases hb
    exact Bounds.ofSet_rank_lt set

/-- Within the limit that `buildGraph` sets, or any greater one, the outcome is that of
`buildGraph`. -/
theorem run_within (hnames : set.namesGlobals = true) (hinline : set.remembersInlineTypes = true)
    {limit : Nat} (h : depthLimit set ≤ limit) :
    run ((Environment.ofSet set options naming).within limit) resolver =
      run (.ofSet set options naming) resolver := by
  refine ((Mirror.deeper options naming hnames hinline h).run_mirrored resolver).1.trans ?_
  change (run (.ofSet set options naming) resolver).map Erasure.none.state = _
  rw [funext Erasure.state_none]
  exact congrFun Except.map_id _

/-- Where no global type, model group or attribute group has an empty name, and the types given in
place for global elements and attributes are remembered, the construction ends by itself within the
limit that `buildGraph` sets, with a graph or with a failure that is not about that limit. -/
theorem build_ends (hnames : set.namesGlobals = true) (hinline : set.remembersInlineTypes = true) :
    EndsWithin set options naming resolver (depthLimit set) ∧
      ((∃ g, buildGraph set options naming resolver = .ok g) ∨
        ∃ e, buildGraph set options naming resolver = .error e ∧ e.isBottomless = false) := by
  have hsettled (deeper : Nat) (h : depthLimit set ≤ deeper) :
      buildWithin set options naming resolver deeper =
        buildWithin set options naming resolver (depthLimit set) := by
    rw [buildWithin_eq, buildWithin_eq, run_within hnames hinline h,
      run_within hnames hinline (Nat.le_refl _)]
  have houtcome : (∃ g, buildWithin set options naming resolver (depthLimit set) = .ok g) ∨
      ∃ e, buildWithin set options naming resolver (depthLimit set) = .error e ∧
        e.isBottomless = false := by
    rw [buildWithin_eq, run_within hnames hinline (Nat.le_refl _)]
    cases h : run (.ofSet set options naming) resolver with
    | ok s => exact .inl ⟨_, rfl⟩
    | error e =>
      exact .inr ⟨e, rfl, ((Mirror.deeper options naming hnames hinline
        (Nat.le_refl _)).run_mirrored resolver).2 rfl e h⟩
  exact ⟨⟨hsettled, houtcome⟩, houtcome⟩

theorem build_ends_recursive : (recursiveBase .extension).namesGlobals = true ∧
    (recursiveBase .extension).remembersInlineTypes = true ∧
    EndsWithin (recursiveBase .extension) {} .conventional oneNamespace
      (depthLimit (recursiveBase .extension)) ∧
    ((∃ g, buildGraph (recursiveBase .extension) {} .conventional oneNamespace = .ok g) ∨
      ∃ e, buildGraph (recursiveBase .extension) {} .conventional oneNamespace = .error e ∧
        e.isBottomless = false) :=
  ⟨by decide, by decide, build_ends (by decide) (by decide)⟩

end

/-! ## What is not remembered -/

/-- The construction goes deeper than it may. -/
def Plunges {α : Type} (m : Build α) (s : State) : Prop :=
  ∃ e, m s = .error e ∧ e.isBottomless = true

theorem Plunges.bind {α β : Type} {m : Build α} {k : α → Build β} {s : State} (h : Plunges m s) :
    Plunges (m >>= k) s := by
  obtain ⟨e, he, hb⟩ := h
  refine ⟨e, ?_, hb⟩
  change (m s >>= _) = _
  rw [he]
  rfl

theorem Plunges.after {α β : Type} {m : Build α} {k : α → Build β} {s t : State} {a : α}
    (hm : m s = .ok (a, t)) (h : Plunges (k a) t) : Plunges (m >>= k) s := by
  obtain ⟨e, he, hb⟩ := h
  refine ⟨e, ?_, hb⟩
  change (m s >>= _) = _
  rw [hm]
  exact he

/-- There is one output namespace for everything. -/
theorem resolve_oneNamespace (source : Option String) (uri : String) :
    oneNamespace.resolve source uri = (.ok "T", oneNamespace) := by
  have hget (k : NamespaceKey) :
      oneNamespace.rules.get? k = if k = ⟨none, none⟩ then some "T" else none := by
    rw [oneNamespace, Resolver.ofRules, Table.get?_ofEntries]
    by_cases h : k = ⟨none, none⟩ <;> simp [Table.get?, h, eq_comm]
  have hrule : oneNamespace.rule? source uri = some "T" := by
    cases source with
    | none => simp [Resolver.rule?, Resolver.fallbacks, Resolver.keysOf, hget]
    | some source =>
      cases h : Uri.fileName? source <;>
        simp [Resolver.rule?, Resolver.fallbacks, Resolver.keysOf, hget, h]
  rw [Resolver.resolve, hrule]

/-- Where one output namespace is given for everything, a node is made. -/
theorem newNode_of_oneNamespace {env : Environment} {document : Document} {identity : QName}
    {candidate : String} {kind : NodeKind} {documentation : List String} {s : State}
    (hs : s.resolver = oneNamespace) :
    ∃ id t, newNode env document identity candidate kind documentation s = .ok (id, t) ∧
      t.context = s.context ∧ t.resolver = oneNamespace := by
  have hspace (location uri : String) : resolveNamespace location uri s =
      .ok ("T", { s with resolver := oneNamespace }) := by
    rw [Mirror.resolveNamespace_eq, hs, resolve_oneNamespace]
    rfl
  change ∃ id t, (resolveNamespace _ _ s >>= fun r => _) = _ ∧ _
  rw [hspace]
  exact ⟨_, _, rfl, rfl, rfl⟩

section
variable {set : SchemaSet} {options : Options} {naming : Naming} {resolver : Resolver} {limit : Nat}
  (h : Plunges (documents ((Environment.ofSet set options naming).within limit)) { resolver })
include h

theorem buildWithin_of_plunges :
    ∃ e, buildWithin set options naming resolver limit = .error e ∧ e.isBottomless = true := by
  obtain ⟨e, he, hb⟩ := h
  refine ⟨e, ?_, hb⟩
  rw [buildWithin_eq, run_eq_map, he]
  rfl

/-- What goes deeper than it may is not at its end. -/
theorem not_endsWithin_of_plunges : ¬ EndsWithin set options naming resolver limit := by
  intro hends
  obtain ⟨e, he, hb⟩ := buildWithin_of_plunges h
  rcases hends.outcome with ⟨g, hg⟩ | ⟨e', he', hb'⟩
  · rw [he] at hg
    cases hg
  · rw [he] at he'
    cases he'
    rw [hb] at hb'
    cases hb'

end

/-- A type that bears a name, with a reference to the element without a name that it is given in
place for. -/
def selfReferring : ComplexType :=
  { name := some (sampleName "T"), particle := some (.one (.elementRef (sampleName ""))) }

/-- A schema with an element whose local name is empty, and whose type bears a name and refers back
to the element. -/
def namedInPlace : SchemaSet :=
  { documents :=
    [{ location := "a.xsd"
       targetNamespace := some "urn:t"
       elements :=
        [{ name := sampleName "", typeRef := some (.inline (.complex selfReferring)) }] }] }

/-- The environment of a construction of the schema that may go `limit` levels deep. -/
def namedInPlaceEnv (limit : Nat) : Environment :=
  (Environment.ofSet namedInPlace {} .conventional).within limit

/-- Nothing is remembered, and every namespace is mapped. -/
structure Blank (s : State) : Prop where
  context : s.context = {}
  resolver : s.resolver = oneNamespace

/-- The key under which the type would be remembered, if the element had a name. -/
def emptyKey : CacheKey := ⟨.elementType, "a.xsd", sampleName ""⟩

section
variable {limit : Nat} {c : Calls}
  (hcalls : ∀ (s : State) (document : Document) (place : Place) (candidate : String), Blank s →
    document ∈ namedInPlace.documents →
    Plunges (c.classNode ⟨selfReferring, document, place⟩ .anonymous candidate (some emptyKey)) s)
include hcalls

/-- Who follows a reference to the element follows it into its type. -/
theorem elementReference_plunges {g : Global ElementDecl}
    (hg : (namedInPlaceEnv limit).index.element? (sampleName "") = some g) {s : State}
    (hs : Blank s) :
    Plunges (globalElementType c (namedInPlaceEnv limit) (.ofGlobal .elements g)) s := by
  obtain rfl := Option.some.inj hg
  refine Plunges.after (show getContext s = .ok (s.context, s) from rfl) ?_
  rw [hs.context]
  exact (hcalls s _ _ _ hs (List.mem_singleton.2 rfl)).bind

/-- The content of the type is the reference, after nothing else. -/
theorem classContent_plunges {id : NodeId} {document : Document} {place : Place} {s : State}
    (hs : Blank s) :
    Plunges (classContent c (namedInPlaceEnv limit) id ⟨selfReferring, document, place⟩) s := by
  obtain ⟨g, hg⟩ : ∃ g, (namedInPlaceEnv limit).index.element? (sampleName "") = some g :=
    ⟨_, rfl⟩
  have hparticle (scope : Scope) :
      classParticle c (namedInPlaceEnv limit) scope ⟨selfReferring, document, place⟩ =
        element c (namedInPlaceEnv limit) scope (.ofGlobal .elements g) .once .sequence true := by
    unfold classParticle
    dsimp only [selfReferring, Declared.part]
    unfold particle
    simp only [Particle.one, hg]
    rfl
  refine .after rfl (.after rfl (.after rfl (.after rfl (.bind ?_))))
  rw [hparticle]
  unfold element
  exact .bind (elementReference_plunges hcalls hg ⟨hs.context, hs.resolver⟩)

end

/-- However deep the construction may go, the class of the element's type goes deeper. -/
theorem classNode_plunges (limit fuel : Nat) : ∀ (s : State) (document : Document) (place : Place)
    (candidate : String), Blank s → document ∈ namedInPlace.documents →
      Plunges ((callsUpTo (namedInPlaceEnv limit) fuel).classNode ⟨selfReferring, document, place⟩
        .anonymous candidate (some emptyKey)) s := by
  induction fuel with
  | zero => exact fun _ _ _ _ _ _ => ⟨_, rfl, rfl⟩
  | succ fuel ih =>
    intro s document place candidate hs hdoc
    have hfound : (some emptyKey).bind s.context.cache.get? = none ∧
        s.context.inlineType? place = none := by
      rw [hs.context]
      exact ⟨rfl, rfl⟩
    change Plunges (classNode _ _ _ _ _ _) s
    unfold classNode
    refine Plunges.after (show getContext s = .ok (s.context, s) from rfl) ?_
    dsimp only
    rw [hfound.1, hfound.2]
    obtain ⟨id, t, hnew, hcontext, hresolver⟩ := newNode_of_oneNamespace hs.resolver
    refine Plunges.after hnew ?_
    -- The key has no name, and the type has one: neither is remembered.
    refine Plunges.after rfl (Plunges.bind (classContent_plunges ih ⟨?_, hresolver⟩))
    change t.context.recordNamed emptyKey id = {}
    rw [hcontext, hs.context]
    rfl

/-- The construction of the schema does not end, although no global type, model group or attribute
group has an empty name: the element is entered again and again. -/
theorem build_of_namedInPlace_never_ends : namedInPlace.namesGlobals = true ∧
    ¬ ∃ limit, EndsWithin namedInPlace {} .conventional oneNamespace limit := by
  refine ⟨by decide, ?_⟩
  rintro ⟨limit, h⟩
  have hblank : Blank { resolver := oneNamespace } := ⟨rfl, rfl⟩
  have helement (g : Global ElementDecl)
      (hg : (namedInPlaceEnv limit).index.element? (sampleName "") = some g) :
      Plunges (topLevelElement (namedInPlaceEnv limit) (.ofGlobal .elements g))
        { resolver := oneNamespace } :=
    (elementReference_plunges (classNode_plunges limit limit) hg hblank).bind
  have hplunges : Plunges (documents (namedInPlaceEnv limit)) { resolver := oneNamespace } := by
    have horder : (namedInPlaceEnv limit).index.buildOrder = [0] := rfl
    unfold documents
    rw [horder]
    exact .bind (.after rfl (.bind (helement _ rfl)))
  exact not_endsWithin_of_plunges hplunges h

end Build

end XmlTypes
