import XmlTypes.Proofs.ListTypes
/-!
# Types that are enumerations

A simple type is an enumeration if it restricts a type by literals and nothing else, if it restricts
a type whose literals name symbols by at least one literal, if it restricts an enumeration, or if it
is a union of enumerations (`Enumerates`). The first two ask for a base whose values are no lists,
so the type of the values and whether they are lists take part in the definition (`Carries`). A
type is classified by these rules (`enumeration_iff`).
-/

namespace XmlTypes.Build

open Schema

/-! ## The rules -/

/-- Restricting values of the type by the facets makes an enumeration: there are literals, and
nothing else unless the literals of the type name symbols. -/
def MakesEnumeration (type : Primitive) (facets : List Facet) : Prop :=
  (∃ literal ∈ facets, literal.isEnumeration = true) ∧
    (Facet.onlyEnumerations facets = true ∨ type.isEnumerable = true)

mutual

/-- The type that is referred to is an enumeration with the given facets. -/
inductive Enumerates (ix : Index) (widen : Bool) : TypeRef → List Facet → Prop
  /-- The name of an enumeration. -/
  | declared {name g t facets} : name.isXsd = false → ix.type? name = some g →
      g.definition = .simple t → Enumerates ix widen (.inline (.simple t)) facets →
      Enumerates ix widen (.named name) facets
  /-- Literals of a type that has values other than lists. -/
  | literals {t base facets type} : t.content = .restriction base facets →
      Carries ix widen base type false → MakesEnumeration type facets →
      Enumerates ix widen (.inline (.simple t)) (facets.filter (·.isEnumeration))
  /-- Literals of an enumeration. -/
  | restated {t base facets inherited} : t.content = .restriction base facets →
      Enumerates ix widen base inherited → (∃ literal ∈ facets, literal.isEnumeration = true) →
      Enumerates ix widen (.inline (.simple t)) (facets.filter (·.isEnumeration))
  /-- A restriction of an enumeration without literals of its own. -/
  | inherited {t base facets inherited} : t.content = .restriction base facets →
      Enumerates ix widen base inherited → (∀ facet ∈ facets, facet.isEnumeration = false) →
      Enumerates ix widen (.inline (.simple t)) inherited
  /-- A union of enumerations only, each with a group of the facets. -/
  | union {t members} {groups : TypeRef → List Facet} : t.content = .union members →
      members ≠ [] → (∀ m ∈ members, Enumerates ix widen m (groups m)) →
      Enumerates ix widen (.inline (.simple t)) (members.flatMap groups)

/-- The type that is referred to is no enumeration, and has values of the given primitive type, or
lists of such. -/
inductive Carries (ix : Index) (widen : Bool) : TypeRef → Primitive → Bool → Prop
  /-- A built-in type. -/
  | builtin {name type} : name.isXsd = true → Primitive.ofBuiltin? name.name = some type →
      Carries ix widen (.named name) type (isListBuiltin name.name)
  /-- The name of a type that has such values. -/
  | declared {name g t type isList} : name.isXsd = false → ix.type? name = some g →
      g.definition = .simple t → Carries ix widen (.inline (.simple t)) type isList →
      Carries ix widen (.named name) type isList
  /-- A restriction that makes no enumeration. -/
  | restriction {t base facets type isList} : t.content = .restriction base facets →
      Carries ix widen base type isList → (isList = true ∨ ¬ MakesEnumeration type facets) →
      Carries ix widen (.inline (.simple t)) type isList
  /-- A list. -/
  | list {t item type} : t.content = .list item → Holds ix widen item type →
      Carries ix widen (.inline (.simple t)) type true
  /-- A union without members. -/
  | empty {t} : t.content = .union [] → Carries ix widen (.inline (.simple t)) .string false
  /-- A union with a member that is no enumeration. -/
  | union {t members member type isList} {types : TypeRef → Primitive} :
      t.content = .union members → member ∈ members → Carries ix widen member type isList →
      (∀ m ∈ members, Holds ix widen m (types m)) →
      Carries ix widen (.inline (.simple t))
        (if widen then Primitive.widest (members.map types) else .string) false

/-- The values, or their items, are of the given primitive type; literals are strings. -/
inductive Holds (ix : Index) (widen : Bool) : TypeRef → Primitive → Prop
  | literals {r facets} : Enumerates ix widen r facets → Holds ix widen r .string
  | values {r type isList} : Carries ix widen r type isList → Holds ix widen r type

end

/-- By the rules, the type that is referred to is what the classification says. -/
structure Classification.Describes (c : Classification) (ix : Index) (widen : Bool) (r : TypeRef) :
    Prop where
  enumeration : ∀ facets, Enumerates ix widen r facets ↔ c = .enumeration facets
  value : ∀ type isList, Carries ix widen r type isList ↔
    ∃ restrictions, c = .value type restrictions isList

section
variable {ix : Index} {widen : Bool} {t : SimpleType} {c : Classification} {r : TypeRef}

theorem Classification.Describes.holds_iff (h : c.Describes ix widen r) {type : Primitive} :
    Holds ix widen r type ↔ c.valueType = type := by
  constructor
  · intro hholds
    cases hholds with
    | literals he => rw [(h.enumeration _).1 he, valueType]
    | values hv =>
      obtain ⟨restrictions, rfl⟩ := (h.value _ _).1 hv
      rfl
  · rintro rfl
    cases c with
    | enumeration facets => exact .literals ((h.enumeration facets).2 rfl)
    | value type restrictions isList => exact .values ((h.value type isList).2 ⟨restrictions, rfl⟩)

/-! ## Names -/

theorem Classification.describes_builtin {name : QName} {p : Primitive} (hname : name.isXsd = true)
    (hp : Primitive.ofBuiltin? name.name = some p) :
    (value p [] (isListBuiltin name.name)).Describes ix widen (.named name) := by
  constructor
  · intro facets
    refine iff_of_false (fun h => ?_) nofun
    cases h with
    | declared hdeclared => exact absurd (hname.symm.trans hdeclared) Bool.noConfusion
  · intro type isList
    constructor
    · intro h
      cases h with
      | builtin _ hp' =>
        cases hp.symm.trans hp'
        exact ⟨[], rfl⟩
      | declared hdeclared => exact absurd (hname.symm.trans hdeclared) Bool.noConfusion
    · rintro ⟨restrictions, h⟩
      cases h
      exact .builtin hname hp

theorem Classification.Describes.declared {name : QName} {g : Global TypeDefinition}
    (hname : name.isXsd = false) (hg : ix.type? name = some g) (ht : g.definition = .simple t)
    (h : c.Describes ix widen (.inline (.simple t))) : c.Describes ix widen (.named name) := by
  constructor
  · intro facets
    rw [← h.enumeration]
    refine ⟨fun he => ?_, .declared hname hg ht⟩
    cases he with
    | declared _ hg' ht' he =>
      cases hg.symm.trans hg'
      cases ht.symm.trans ht'
      exact he
  · intro type isList
    rw [← h.value]
    refine ⟨fun hv => ?_, .declared hname hg ht⟩
    cases hv with
    | builtin hbuiltin => exact absurd (hname.symm.trans hbuiltin) Bool.noConfusion
    | declared _ hg' ht' hv =>
      cases hg.symm.trans hg'
      cases ht.symm.trans ht'
      exact hv

/-! ## Restrictions and lists -/

theorem filter_isEmpty_iff {facets : List Facet} :
    (facets.filter (·.isEnumeration)).isEmpty = true ↔
      ∀ facet ∈ facets, facet.isEnumeration = false := by
  simp [List.isEmpty_iff, List.filter_eq_nil_iff]

theorem filter_isEmpty_eq_false_iff {facets : List Facet} :
    (facets.filter (·.isEnumeration)).isEmpty = false ↔
      ∃ literal ∈ facets, literal.isEnumeration = true := by
  simp [List.isEmpty_eq_false_iff, List.filter_eq_nil_iff]

theorem Classification.restrict_of_literals {mode : AnnotationMode} {type : Primitive}
    {restrictions : List Restriction} {facets : List Facet} (h : MakesEnumeration type facets) :
    (value type restrictions false).restrict mode facets =
      enumeration (facets.filter (·.isEnumeration)) := by
  obtain ⟨hsome, hcase⟩ := h
  simp [restrict, filter_isEmpty_eq_false_iff.2 hsome, hcase]

theorem Classification.restrict_of_values {mode : AnnotationMode} {type : Primitive}
    {restrictions : List Restriction} {isList : Bool} {facets : List Facet}
    (h : isList = true ∨ ¬ MakesEnumeration type facets) :
    (value type restrictions isList).restrict mode facets =
      value type (layer restrictions (restrictionsOf facets type mode)) isList := by
  rcases h with rfl | h
  · simp [restrict]
  · rw [MakesEnumeration, ← filter_isEmpty_eq_false_iff, not_and, not_or] at h
    cases hnone : (facets.filter (·.isEnumeration)).isEmpty with
    | true => simp [restrict, hnone]
    | false =>
      obtain ⟨honly, htype⟩ := h hnone
      simp [restrict, honly, htype]

/-- The values of a base are restricted to literals, or to other values. -/
theorem Classification.restrict_cases (mode : AnnotationMode) (type : Primitive)
    (restrictions : List Restriction) (isList : Bool) (facets : List Facet) :
    (isList = false ∧ MakesEnumeration type facets ∧
      (value type restrictions isList).restrict mode facets =
        enumeration (facets.filter (·.isEnumeration))) ∨
    ((isList = true ∨ ¬ MakesEnumeration type facets) ∧
      ∃ own, (value type restrictions isList).restrict mode facets = value type own isList) := by
  by_cases h : isList = true ∨ ¬ MakesEnumeration type facets
  · exact .inr ⟨h, _, restrict_of_values h⟩
  · obtain ⟨hlist, hmakes⟩ := not_or.1 h
    obtain rfl := Bool.eq_false_of_not_eq_true hlist
    exact .inl ⟨rfl, not_not.1 hmakes, restrict_of_literals (not_not.1 hmakes)⟩

section
variable {base : TypeRef} {facets : List Facet} (mode : AnnotationMode)
  (ht : t.content = .restriction base facets) (h : c.Describes ix widen base)
include ht h

theorem Classification.Describes.enumerates_iff_restrict (given : List Facet) :
    Enumerates ix widen (.inline (.simple t)) given ↔
      c.restrict mode facets = .enumeration given := by
  constructor
  · intro he
    cases he with
    | literals ht' hbase hmakes =>
      cases ht.symm.trans ht'
      obtain ⟨restrictions, rfl⟩ := (h.value _ _).1 hbase
      exact restrict_of_literals hmakes
    | restated ht' hbase hsome =>
      cases ht.symm.trans ht'
      obtain rfl := (h.enumeration _).1 hbase
      simp [restrict, filter_isEmpty_eq_false_iff.2 hsome]
    | inherited ht' hbase hnone =>
      cases ht.symm.trans ht'
      obtain rfl := (h.enumeration _).1 hbase
      simp [restrict, filter_isEmpty_iff.2 hnone]
    | union ht' => cases ht.symm.trans ht'
  · intro hc
    cases c with
    | enumeration inherited =>
      have hbase : Enumerates ix widen base inherited := (h.enumeration _).2 rfl
      cases hnone : (facets.filter (·.isEnumeration)).isEmpty with
      | true =>
        obtain rfl : inherited = given := by simpa [restrict, hnone] using hc
        exact .inherited ht hbase (filter_isEmpty_iff.1 hnone)
      | false =>
        obtain rfl : facets.filter (·.isEnumeration) = given := by
          simpa [restrict, hnone] using hc
        exact .restated ht hbase (filter_isEmpty_eq_false_iff.1 hnone)
    | value type restrictions isList =>
      have hbase : Carries ix widen base type isList := (h.value _ _).2 ⟨_, rfl⟩
      rcases restrict_cases mode type restrictions isList facets with
        ⟨rfl, hmakes, heq⟩ | ⟨-, own, heq⟩
      · cases heq.symm.trans hc
        exact .literals ht hbase hmakes
      · cases heq.symm.trans hc

theorem Classification.Describes.carries_iff_restrict (type : Primitive) (isList : Bool) :
    Carries ix widen (.inline (.simple t)) type isList ↔
      ∃ restrictions, c.restrict mode facets = .value type restrictions isList := by
  constructor
  · intro hv
    cases hv with
    | restriction ht' hbase hvalues =>
      cases ht.symm.trans ht'
      obtain ⟨restrictions, rfl⟩ := (h.value _ _).1 hbase
      exact ⟨_, restrict_of_values hvalues⟩
    | list ht' => cases ht.symm.trans ht'
    | empty ht' => cases ht.symm.trans ht'
    | union ht' => cases ht.symm.trans ht'
  · rintro ⟨given, hc⟩
    cases c with
    | enumeration inherited => cases hc
    | value type' restrictions isList' =>
      have hbase : Carries ix widen base type' isList' := (h.value _ _).2 ⟨_, rfl⟩
      rcases restrict_cases mode type' restrictions isList' facets with
        ⟨-, -, heq⟩ | ⟨hvalues, own, heq⟩
      · cases heq.symm.trans hc
      · cases heq.symm.trans hc
        exact .restriction ht hbase hvalues

theorem Classification.Describes.restriction :
    (c.restrict mode facets).Describes ix widen (.inline (.simple t)) :=
  ⟨h.enumerates_iff_restrict mode ht, h.carries_iff_restrict mode ht⟩

end

theorem Classification.Describes.list {item : TypeRef} (ht : t.content = .list item)
    (h : c.Describes ix widen item) : c.listOf.Describes ix widen (.inline (.simple t)) := by
  constructor
  · intro facets
    refine iff_of_false (fun he => ?_) nofun
    cases he with
    | literals ht' => cases ht.symm.trans ht'
    | restated ht' => cases ht.symm.trans ht'
    | inherited ht' => cases ht.symm.trans ht'
    | union ht' => cases ht.symm.trans ht'
  · intro type isList
    constructor
    · intro hv
      cases hv with
      | restriction ht' => cases ht.symm.trans ht'
      | list ht' hholds =>
        cases ht.symm.trans ht'
        exact ⟨[], by rw [listOf, h.holds_iff.1 hholds]⟩
      | empty ht' => cases ht.symm.trans ht'
      | union ht' => cases ht.symm.trans ht'
    · rintro ⟨restrictions, hc⟩
      cases hc
      exact .list ht (h.holds_iff.2 rfl)

theorem Classification.eq_enumeration (h : c.isEnumeration = true) : c = enumeration c.facets := by
  cases c with
  | enumeration facets => rfl
  | value => cases h

theorem Classification.unionOf_of_enumerations {cs : List Classification} (hne : cs ≠ [])
    (hall : ∀ c ∈ cs, c.isEnumeration = true) :
    unionOf widen cs = enumeration (cs.flatMap facets) := by
  rw [unionOf, if_pos]
  rw [Bool.and_eq_true, Bool.not_eq_true', List.isEmpty_eq_false_iff, List.all_eq_true]
  exact ⟨hne, hall⟩

theorem Classification.unionOf_of_values {cs : List Classification}
    (h : cs = [] ∨ ∃ c ∈ cs, c.isEnumeration = false) :
    unionOf widen cs =
      value (if widen then Primitive.widest (cs.map valueType) else .string) [] false := by
  rw [unionOf, if_neg]
  rw [Bool.and_eq_true, Bool.not_eq_true', List.isEmpty_eq_false_iff, List.all_eq_true]
  rintro ⟨hne, hall⟩
  rcases h with rfl | ⟨c, hc, hvalue⟩
  · exact hne rfl
  · exact absurd ((hall c hc).symm.trans hvalue) Bool.noConfusion

/-! ## Unions -/

section
variable {members : List TypeRef} (ht : t.content = .union members)
include ht

/-- A union that is an enumeration is made from enumerations. -/
theorem Enumerates.of_union {facets : List Facet}
    (h : Enumerates ix widen (.inline (.simple t)) facets) :
    members ≠ [] ∧ ∃ groups : TypeRef → List Facet, facets = members.flatMap groups ∧
      ∀ m ∈ members, Enumerates ix widen m (groups m) := by
  cases h with
  | literals ht' => cases ht.symm.trans ht'
  | restated ht' => cases ht.symm.trans ht'
  | inherited ht' => cases ht.symm.trans ht'
  | union ht' hne hgroups =>
    cases ht.symm.trans ht'
    exact ⟨hne, _, rfl, hgroups⟩

/-- A union that has values is no list, and has no members or one that has values. -/
theorem Carries.of_union {type : Primitive} {isList : Bool}
    (h : Carries ix widen (.inline (.simple t)) type isList) :
    isList = false ∧ (members = [] ∧ type = .string ∨
      (∃ m ∈ members, ∃ type isList, Carries ix widen m type isList) ∧
        ∃ types : TypeRef → Primitive, (∀ m ∈ members, Holds ix widen m (types m)) ∧
          type = if widen then Primitive.widest (members.map types) else .string) := by
  cases h with
  | restriction ht' => cases ht.symm.trans ht'
  | list ht' => cases ht.symm.trans ht'
  | empty ht' =>
    cases ht.symm.trans ht'
    exact ⟨rfl, .inl ⟨rfl, rfl⟩⟩
  | union ht' hm hv htypes =>
    cases ht.symm.trans ht'
    exact ⟨rfl, .inr ⟨⟨_, hm, _, _, hv⟩, _, htypes, rfl⟩⟩

variable {refer : TypeRef → Classification}
  (h : ∀ m ∈ members, (refer m).Describes ix widen m)
include h

theorem Classification.describes_union_of_enumerations (hne : members ≠ [])
    (hall : ∀ m ∈ members, (refer m).isEnumeration = true) :
    (unionOf widen (members.map refer)).Describes ix widen (.inline (.simple t)) := by
  rw [unionOf_of_enumerations (by simpa using hne) (by simpa using hall), List.flatMap_map]
  constructor
  · intro facets
    constructor
    · intro he
      obtain ⟨-, groups, rfl, hgroups⟩ := he.of_union ht
      rw [enumeration.injEq]
      apply List.flatMap_congr
      intro m hm
      rw [((h m hm).enumeration _).1 (hgroups m hm), Classification.facets]
    · rintro ⟨⟩
      exact .union ht hne fun m hm => ((h m hm).enumeration _).2 (eq_enumeration (hall m hm))
  · intro type isList
    refine iff_of_false (fun hv => ?_) nofun
    obtain ⟨-, ⟨hnil, -⟩ | ⟨⟨m, hm, type, isList, hvalue⟩, -⟩⟩ := hv.of_union ht
    · exact hne hnil
    · obtain ⟨restrictions, hc⟩ := ((h m hm).value _ _).1 hvalue
      have henum := hall m hm
      rw [hc] at henum
      cases henum

theorem Classification.describes_union_of_values
    (hvalue : members = [] ∨ ∃ m ∈ members, (refer m).isEnumeration = false) :
    (unionOf widen (members.map refer)).Describes ix widen (.inline (.simple t)) := by
  rw [unionOf_of_values (by simpa using hvalue), List.map_map]
  constructor
  · intro facets
    refine iff_of_false (fun he => ?_) nofun
    obtain ⟨hne, groups, -, hgroups⟩ := he.of_union ht
    rcases hvalue with hnil | ⟨m, hm, hno⟩
    · exact hne hnil
    · rw [((h m hm).enumeration _).1 (hgroups m hm)] at hno
      cases hno
  · intro type isList
    constructor
    · intro hv
      obtain ⟨rfl, ⟨rfl, rfl⟩ | ⟨-, types, htypes, rfl⟩⟩ := hv.of_union ht
      · exact ⟨[], by simp [Primitive.widest]⟩
      · have hmap : members.map (valueType ∘ refer) = members.map types :=
          List.map_congr_left fun m hm => (h m hm).holds_iff.1 (htypes m hm)
        exact ⟨[], by rw [hmap]⟩
    · rintro ⟨restrictions, hc⟩
      cases hc
      rcases hvalue with rfl | ⟨m, hm, hno⟩
      · have hempty : Carries ix widen (.inline (.simple t)) .string false := .empty ht
        simpa [Primitive.widest] using hempty
      · obtain ⟨type, restrictions, isList, hr⟩ :
            ∃ type restrictions isList, refer m = value type restrictions isList := by
          cases hr : refer m with
          | enumeration facets => rw [hr] at hno; cases hno
          | value type restrictions isList => exact ⟨type, restrictions, isList, rfl⟩
        exact .union ht hm (((h m hm).value type isList).2 ⟨restrictions, hr⟩)
          fun m hm => (h m hm).holds_iff.2 rfl

theorem Classification.describes_union :
    (unionOf widen (members.map refer)).Describes ix widen (.inline (.simple t)) := by
  by_cases hnil : members = []
  · exact describes_union_of_values ht h (.inl hnil)
  · by_cases hall : ∀ m ∈ members, (refer m).isEnumeration = true
    · exact describes_union_of_enumerations ht h hnil hall
    · exact describes_union_of_values ht h (.inr (by simpa using hall))

end

/-! ## Classifying -/

theorem classifyContent_describes {options : Options}
    {refer : TypeRef → Except Failure Classification}
    (hrefer : ∀ r c, refer r = .ok c → c.Describes ix options.widenUnions r)
    (h : classifyContent options refer t.content = .ok c) :
    c.Describes ix options.widenUnions (.inline (.simple t)) := by
  cases ht : t.content with
  | restriction base facets =>
    rw [ht, classifyContent] at h
    obtain ⟨b, hb, rfl⟩ := pure_of_ok h
    exact (hrefer base b hb).restriction _ ht
  | list item =>
    rw [ht, classifyContent] at h
    obtain ⟨i, hi, rfl⟩ := pure_of_ok h
    exact (hrefer item i hi).list ht
  | union members =>
    rw [ht, classifyContent] at h
    obtain ⟨cs, hcs, rfl⟩ := pure_of_ok h
    obtain ⟨classification, hall, rfl⟩ := mapM_eq_ok hcs
    exact Classification.describes_union ht fun m hm => hrefer m _ (hall m hm)

theorem classifyRef_describes {options : Options} (fuel : Nat) (document : Document)
    (visiting : List QName) (r : TypeRef) (c : Classification)
    (h : classifyRef ix options fuel document visiting r = .ok c) :
    c.Describes ix options.widenUnions r := by
  refine classifyRef_induction (P := fun r c => c.Describes ix options.widenUnions r) ?_ ?_ ?_
    fuel document visiting r c h
  · intro name p hname hp
    exact Classification.describes_builtin hname hp
  · intro name g t c hname hg ht hc
    exact hc.declared hname hg ht
  · intro refer t c hrefer hc
    exact classifyContent_describes hrefer hc

theorem classify_describes {env : Environment} {document : Document} {visiting : List QName}
    (h : classify env document visiting t = .ok c) :
    c.Describes env.index env.options.widenUnions (.inline (.simple t)) :=
  classifyContent_describes (classifyRef_describes env.limit document visiting) h

/-- A simple type is classified as an enumeration exactly if it is one by the rules, and with the
facets that these give it. -/
theorem enumeration_iff {env : Environment} {document : Document} {visiting : List QName}
    (h : classify env document visiting t = .ok c) (facets : List Facet) :
    c = .enumeration facets ↔
      Enumerates env.index env.options.widenUnions (.inline (.simple t)) facets :=
  ((classify_describes h).enumeration facets).symm

end

/-- A list of tokens, an enumeration of colours, and a restriction of it by length. -/
def colours : SchemaSet :=
  sampleSet
    [.simple
      { name := some (sampleName "Tokens"), content := .list (.named (.xsd "token")) },
     .simple
      { name := some (sampleName "Colour")
        content := .restriction (.named (.xsd "token")) [.literal "red", .literal "green"] },
     .simple
      { name := some (sampleName "Short")
        content := .restriction (.named (sampleName "Colour")) [.maxLength 5] }]
    []

/-- The environment in which the types of colours are classified. -/
def coloursEnv : Environment := .ofSet colours {} .conventional

/-- A union of the short colours and of one that is spelled out in place. -/
def shortOrBlue : SimpleType :=
  { content := .union [.named (sampleName "Short"),
      .inline (.simple { content := .restriction (.named (.xsd "string")) [.literal "blue"] })] }

theorem enumeration_iff_union :
    let document : Document := { location := "a.xsd" }
    let c := Classification.enumeration [.literal "red", .literal "green", .literal "blue"]
    classify coloursEnv document [] shortOrBlue = .ok c ∧ ∀ facets, c = .enumeration facets ↔
      Enumerates coloursEnv.index coloursEnv.options.widenUnions (.inline (.simple shortOrBlue))
        facets := by
  intro document c
  have h : classify coloursEnv document [] shortOrBlue = .ok c := by rfl
  exact ⟨h, enumeration_iff h⟩

/-- Literals and nothing else make no enumeration of a list. -/
theorem literals_of_list_no_enumeration :
    let document : Document := { location := "a.xsd" }
    let facets := [Facet.literal "red green", .literal "red blue"]
    Facet.onlyEnumerations facets = true ∧
      classify coloursEnv document []
        { content := .restriction (.named (sampleName "Tokens")) facets } =
          .ok (.value .string [] true) := by
  exact ⟨rfl, rfl⟩

end XmlTypes.Build
