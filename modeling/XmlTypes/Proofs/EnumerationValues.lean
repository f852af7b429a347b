import Mathlib.Data.List.Induction
import XmlTypes.Build.Simple
import XmlTypes.Proofs.FreshNames
import XmlTypes.Proofs.Walks
/-!
# Values of enumerations

The facets of an enumeration are met one after the other. A literal that has no value yet gets one,
with the name that the naming has for it or, where an earlier value has that name, with the smallest
number that makes it free. So the values are those of the distinct literals, their names are
distinct (`Enumerated`), and a value is found by its literal.
-/

namespace XmlTypes

/-- The literal that a facet enumerates. -/
def Schema.Facet.literal? : Schema.Facet → Option String
  | enumeration literal _ _ => some literal
  | _ => none

namespace Build

open Schema

/-- Whether a value has the name. -/
def isNamed (values : List EnumValue) (name : String) : Bool := values.any (·.name = name)

/-- The values of an enumeration are those that its facets ask for: one for each literal, in order
of first occurrence and with the annotations of that. Each has the name that is fresh among those
of the values before it. -/
structure Enumerated (naming : Naming) (enumName : String) (facets : List Facet)
    (values : List EnumValue) : Prop where
  literals : values.map (·.literal) = (facets.filterMap Facet.literal?).eraseDups
  annotations : ∀ v ∈ values, facets.find? (fun f => f.literal? = some v.literal) =
    some (.enumeration v.literal v.documentation v.deprecated)
  names : (values.map (·.name)).Nodup
  named : ∀ before v after, values = before ++ v :: after →
    IsFresh (isNamed before) (naming.enumMember v.literal enumName) v.name

section
variable {naming : Naming} {enumName : String} {facets : List Facet} {values : List EnumValue}

theorem isNamed_iff {name : String} : isNamed values name = true ↔ name ∈ values.map (·.name) := by
  simp [isNamed]

/-- The name for one more value: as many names are taken as there are values. -/
theorem fresh_isNamed (values : List EnumValue) (candidate : String) :
    IsFresh (isNamed values) candidate (fresh (isNamed values) values.length candidate) := by
  refine fresh_isFresh (suffixed candidate) (values.map (·.name)) (suffixed_injective candidate)
    (fun i hi => isNamed_iff.1 hi) ?_
  rw [List.length_map]

/-! ## One facet after the other -/

theorem literal?_eq_none {f : Facet} (h : f.isEnumeration = false) : f.literal? = none := by
  cases f with
  | enumeration => cases h
  | _ => rfl

theorem enumValues_other {f : Facet} (h : f.isEnumeration = false) :
    enumValues naming (facets ++ [f]) enumName = enumValues naming facets enumName := by
  rw [enumValues, List.foldl_append]
  cases f with
  | enumeration => cases h
  | _ => rfl

theorem enumValues_literal (literal : String) (documentation : List String) (deprecated : Bool) :
    let values := enumValues naming facets enumName
    enumValues naming (facets ++ [.enumeration literal documentation deprecated]) enumName =
      if values.any (·.literal = literal) then values
      else
        let name := fresh (isNamed values) values.length (naming.enumMember literal enumName)
        values ++ [({ name, literal, deprecated, documentation } : EnumValue)] := by
  intro values
  rw [enumValues, List.foldl_append]
  rfl

/-- One more literal is among the distinct ones if it is new. -/
theorem eraseDups_concat (literals : List String) (literal : String) :
    (literals ++ [literal]).eraseDups =
      literals.eraseDups ++ (if literal ∈ literals then [] else [literal]) := by
  rw [List.eraseDups_append]
  split <;> rename_i h <;> simp [List.removeAll, List.eraseDups_cons, h]

theorem nodup_eraseDups (literals : List String) : literals.eraseDups.Nodup := by
  induction literals using List.reverseRecOn with
  | nil => exact List.nodup_nil
  | append_singleton literals literal ih =>
    rw [eraseDups_concat]
    split
    · rwa [List.append_nil]
    · rename_i hnew
      rw [← List.mem_eraseDups] at hnew
      exact List.concat_eq_append ▸ ih.concat hnew

theorem enumerated_nil : Enumerated naming enumName [] [] where
  literals := rfl
  annotations := nofun
  names := List.nodup_nil
  named before v after h := by simp at h

/-- A facet that enumerates nothing, or a literal that has a value, adds none. -/
theorem Enumerated.old (h : Enumerated naming enumName facets values) {f : Facet}
    (hold : ∀ literal, f.literal? = some literal → literal ∈ values.map (·.literal)) :
    Enumerated naming enumName (facets ++ [f]) values where
  literals := by
    rw [h.literals, List.filterMap_append]
    cases hf : f.literal? with
    | none => simp [hf]
    | some literal =>
      have hmem := hold literal hf
      rw [h.literals, List.mem_eraseDups] at hmem
      rw [List.filterMap_cons_some hf, List.filterMap_nil, eraseDups_concat, if_pos hmem,
        List.append_nil]
  annotations v hv := by rw [List.find?_append, h.annotations v hv, Option.some_or]
  names := h.names
  named := h.named

/-- A new literal has its value after all others. -/
theorem Enumerated.new (h : Enumerated naming enumName facets values) {v : EnumValue}
    (hnew : v.literal ∉ values.map (·.literal))
    (hname : IsFresh (isNamed values) (naming.enumMember v.literal enumName) v.name) :
    Enumerated naming enumName
      (facets ++ [.enumeration v.literal v.documentation v.deprecated]) (values ++ [v]) where
  literals := by
    rw [h.literals, List.mem_eraseDups] at hnew
    have hv : Facet.literal? (.enumeration v.literal v.documentation v.deprecated) =
        some v.literal := rfl
    rw [List.map_append, h.literals, List.filterMap_append, List.filterMap_cons_some hv,
      List.filterMap_nil, eraseDups_concat, if_neg hnew, List.map_singleton]
  annotations w hw := by
    rw [List.find?_append]
    rcases List.mem_append.1 hw with hw | hw
    · rw [h.annotations w hw, Option.some_or]
    · obtain rfl := List.mem_singleton.1 hw
      rw [h.literals, List.mem_eraseDups, List.mem_filterMap] at hnew
      have hnone : facets.find? (fun f => f.literal? = some w.literal) = none := by
        rw [List.find?_eq_none]
        intro f hf hliteral
        exact hnew ⟨f, hf, of_decide_eq_true hliteral⟩
      rw [hnone, Option.none_or]
      simp [Facet.literal?]
  names := by
    rw [List.map_append, List.map_singleton, ← List.concat_eq_append]
    refine h.names.concat fun hmem => ?_
    have hfree := hname.free
    rw [isNamed_iff.2 hmem] at hfree
    cases hfree
  named := Graph.forall_before_concat.2 ⟨h.named, hname⟩

theorem enumValues_enumerated (naming : Naming) (enumName : String) (facets : List Facet) :
    Enumerated naming enumName facets (enumValues naming facets enumName) := by
  induction facets using List.reverseRecOn with
  | nil => exact enumerated_nil
  | append_singleton facets f ih =>
    cases hf : f.isEnumeration with
    | false =>
      rw [enumValues_other hf]
      exact ih.old fun literal hliteral => by
        rw [literal?_eq_none hf] at hliteral
        cases hliteral
    | true =>
      cases f with
      | enumeration literal documentation deprecated =>
        rw [enumValues_literal]
        split
        · rename_i hold
          refine ih.old fun literal' hliteral => ?_
          cases hliteral
          simpa using hold
        · rename_i hnew
          have hname := fresh_isNamed (enumValues naming facets enumName)
            (naming.enumMember literal enumName)
          exact ih.new (v := ⟨_, literal, deprecated, documentation⟩) (by simpa using hnew) hname
      | _ => cases hf

/-! ## A value by its literal -/

theorem Enumerated.mem_literals (h : Enumerated naming enumName facets values)
    {literal : String} : literal ∈ values.map (·.literal) ↔
      ∃ f ∈ facets, f.literal? = some literal := by
  rw [h.literals, List.mem_eraseDups, List.mem_filterMap]

/-- A value is the one for its literal. -/
theorem Enumerated.find?_eq_some (h : Enumerated naming enumName facets values)
    {literal : String} {v : EnumValue} :
    values.find? (·.literal = literal) = some v ↔ v ∈ values ∧ v.literal = literal :=
  find?_key_iff (h.literals ▸ nodup_eraseDups _)

theorem Enumerated.find?_eq_none (h : Enumerated naming enumName facets values)
    {literal : String} : values.find? (·.literal = literal) = none ↔
      ∀ f ∈ facets, f.literal? ≠ some literal := by
  have hmem : values.find? (·.literal = literal) = none ↔ literal ∉ values.map (·.literal) := by
    simp
  rw [hmem, h.mem_literals]
  exact ⟨fun hnot f hf heq => hnot ⟨f, hf, heq⟩, fun hnot ⟨f, hf, heq⟩ => hnot f hf heq⟩

end

/-- The values of an enumeration, for every naming. Their literals are the distinct ones of the
facets, in order of first occurrence and annotated as that is, and their names are distinct. Each
name is the one that the naming has for the literal unless an earlier value has that, and otherwise
has the smallest positive number that no earlier value has behind it; the search for it ends there.
And asked for a literal, an enumeration with these values answers with its value, and with none for
any other text. -/
theorem enumValues_one_each (naming : Naming) (facets : List Facet) (enumName : String) :
    let values := enumValues naming facets enumName
    values.map (·.literal) = (facets.filterMap Facet.literal?).eraseDups ∧
      (∀ v ∈ values, facets.find? (fun f => f.literal? = some v.literal) =
        some (.enumeration v.literal v.documentation v.deprecated)) ∧
      (values.map (·.name)).Nodup ∧
      (∀ before v after, values = before ++ v :: after →
        let candidate := naming.enumMember v.literal enumName
        IsFresh (isNamed before) candidate v.name ∧
          ∀ r, NameSearch (isNamed before) candidate candidate 1 r ↔ r = v.name) ∧
      ∀ (n : Node) (literal : String), n.kind = .enumeration values →
        (∀ v, n.enumValue? literal = some v ↔ v ∈ values ∧ v.literal = literal) ∧
          (n.enumValue? literal = none ↔ ∀ f ∈ facets, f.literal? ≠ some literal) := by
  intro values
  have h : Enumerated naming enumName facets values := enumValues_enumerated naming enumName facets
  refine ⟨h.literals, h.annotations, h.names, fun before v after heq => ?_,
    fun n literal hkind => ?_⟩
  · have hfresh := h.named before v after heq
    exact ⟨hfresh, fun r => hfresh.search_iff⟩
  · have hvalue : n.enumValue? literal = values.find? (·.literal = literal) := by
      rw [Node.enumValue?, hkind]
    rw [hvalue]
    exact ⟨fun v => h.find?_eq_some, h.find?_eq_none⟩

/-- A literal that is the name which another got by its number. -/
theorem enumValues_one_each_numbered :
    let facets := ["Foo", "foo", "Foo", "Foo1"].map fun text => Facet.enumeration text [] false
    let values := enumValues (.pascal "I") facets "Choice"
    values = [⟨"Foo", "Foo", false, []⟩, ⟨"Foo1", "foo", false, []⟩] ++
        [⟨"Foo11", "Foo1", false, []⟩] ∧
      IsFresh (isNamed (values.take 2)) "Foo1" "Foo11" ∧
      (Node.make "Choice" "" ⟨"", "choice"⟩ (.enumeration values)).enumValue? "FOO" = none := by
  intro facets values
  have hvalues : values = [⟨"Foo", "Foo", false, []⟩, ⟨"Foo1", "foo", false, []⟩] ++
      [⟨"Foo11", "Foo1", false, []⟩] := rfl
  obtain ⟨-, -, -, hnamed, hvalue⟩ := enumValues_one_each (.pascal "I") facets "Choice"
  have hnone := (hvalue (Node.make "Choice" "" ⟨"", "choice"⟩ (.enumeration values)) "FOO" rfl).2
  exact ⟨hvalues, (hnamed _ _ _ hvalues).1, hnone.2 (by decide)⟩

end Build

end XmlTypes
