import XmlTypes.Proofs.Classifying
import XmlTypes.Proofs.StandIns
/-!
# Properties for lists

A type denotes a list if it is built in as one, gives one in place, or restricts one. A property
whose type is written in place, or built in, is a collection if the type denotes a list. Where the
type is the name of a declared type, only the bounds of the element decide.
-/

namespace XmlTypes.Build

open Schema

/-! ## Types that denote lists -/

/-- The type that is referred to denotes a list. -/
inductive Lists (ix : Index) : TypeRef → Prop
  | builtin {name} : isBuiltin name = true → isListBuiltin name.name = true → Lists ix (.named name)
  | declared {name g t} : isBuiltin name = false → ix.type? name = some g →
      g.definition = .simple t → Lists ix (.inline (.simple t)) → Lists ix (.named name)
  | items {t item} : t.content = .list item → Lists ix (.inline (.simple t))
  | restriction {t base facets} : t.content = .restriction base facets → Lists ix base →
      Lists ix (.inline (.simple t))

/-- The reference is the name of a type that is not built in. -/
def NamesDeclared (r : TypeRef) : Prop := ∃ name, r = .named name ∧ isBuiltin name = false

theorem not_namesDeclared_of_builtin {name : QName} (hname : isBuiltin name = true) :
    ¬NamesDeclared (.named name) := by
  rintro ⟨_, ⟨⟩, hdeclared⟩
  exact absurd (hname.symm.trans hdeclared) Bool.noConfusion

theorem not_namesDeclared_inline (t : TypeDefinition) : ¬NamesDeclared (.inline t) := by
  rintro ⟨_, ⟨⟩, -⟩

/-- Whether the values are lists. -/
def Classification.isList : Classification → Bool
  | enumeration _ => false
  | value _ _ isList => isList

section
variable {ix : Index} {options : Options} {t : SimpleType} {c : Classification}

theorem lists_builtin_iff {name : QName} (hname : isBuiltin name = true) :
    Lists ix (.named name) ↔ isListBuiltin name.name = true := by
  refine ⟨fun h => ?_, .builtin hname⟩
  cases h with
  | builtin _ hlist => exact hlist
  | declared hdeclared => exact absurd (hname.symm.trans hdeclared) Bool.noConfusion

theorem lists_declared_iff {name : QName} {g : Global TypeDefinition}
    (hname : isBuiltin name = false) (hg : ix.type? name = some g)
    (ht : g.definition = .simple t) :
    Lists ix (.named name) ↔ Lists ix (.inline (.simple t)) := by
  refine ⟨fun h => ?_, .declared hname hg ht⟩
  cases h with
  | builtin hbuiltin => exact absurd (hname.symm.trans hbuiltin) Bool.noConfusion
  | declared _ hg' ht' h =>
    obtain rfl := Option.some.inj (hg.symm.trans hg')
    cases ht.symm.trans ht'
    exact h

theorem lists_restriction_iff {base : TypeRef} {facets : List Facet}
    (ht : t.content = .restriction base facets) :
    Lists ix (.inline (.simple t)) ↔ Lists ix base := by
  refine ⟨fun h => ?_, .restriction ht⟩
  cases h with
  | items ht' => cases ht.symm.trans ht'
  | restriction ht' h =>
    cases ht.symm.trans ht'
    exact h

theorem not_lists_union {members : List TypeRef} (ht : t.content = .union members) :
    ¬ Lists ix (.inline (.simple t)) := by
  intro h
  cases h with
  | items ht' => cases ht.symm.trans ht'
  | restriction ht' => cases ht.symm.trans ht'

/-- A restriction is a list exactly if its base is one. -/
theorem Classification.isList_restrict (mode : AnnotationMode) (base : Classification)
    (facets : List Facet) : (base.restrict mode facets).isList = base.isList := by
  cases base with
  | enumeration inherited => rfl
  | value type restrictions isList =>
    unfold restrict
    dsimp only
    split
    · rename_i h
      cases isList with
      | false => rfl
      | true => simp at h
    · rfl

theorem Classification.isList_unionOf (widen : Bool) (members : List Classification) :
    (unionOf widen members).isList = false := by
  unfold unionOf
  split <;> rfl

theorem classifyContent_isList {refer : TypeRef → Except Failure Classification}
    (hrefer : ∀ r c, refer r = .ok c → (c.isList = true ↔ Lists ix r))
    (h : classifyContent options refer t.content = .ok c) :
    c.isList = true ↔ Lists ix (.inline (.simple t)) := by
  cases ht : t.content with
  | restriction base facets =>
    rw [ht, classifyContent] at h
    obtain ⟨b, hb, rfl⟩ := pure_of_ok h
    rw [Classification.isList_restrict, hrefer base b hb, lists_restriction_iff ht]
  | list item =>
    rw [ht, classifyContent] at h
    obtain ⟨i, -, rfl⟩ := pure_of_ok h
    exact iff_of_true rfl (.items ht)
  | union members =>
    rw [ht, classifyContent] at h
    obtain ⟨ms, -, rfl⟩ := pure_of_ok h
    rw [Classification.isList_unionOf]
    exact iff_of_false Bool.false_ne_true (not_lists_union ht)

theorem classifyRef_isList (fuel : Nat) (document : Document) (visiting : List QName)
    (r : TypeRef) (c : Classification)
    (h : classifyRef ix options fuel document visiting r = .ok c) :
    c.isList = true ↔ Lists ix r := by
  refine classifyRef_induction (P := fun r c => c.isList = true ↔ Lists ix r) ?_ ?_ ?_
    fuel document visiting r c h
  · intro name p hname hp
    exact (lists_builtin_iff (by simp [isBuiltin, hname, hp])).symm
  · intro name g t c hname hg ht hc
    rw [lists_declared_iff (by simp [isBuiltin, hname]) hg ht]
    exact hc
  · intro refer t c hrefer hc
    exact classifyContent_isList hrefer hc

/-- A simple type is classified as a list exactly if it denotes one. -/
theorem classify_isList {env : Environment} {document : Document} {visiting : List QName}
    (h : classify env document visiting t = .ok c) :
    c.isList = true ↔ Lists env.index (.inline (.simple t)) :=
  classifyContent_isList (classifyRef_isList env.limit document visiting) h

end

/-! ## Members of list types -/

variable {env : Environment} {resolver : Resolver} {s : State} {id : NodeId} {m : Stop}
  {p : Property} {x : Substitute} {type : Resolved}

/-- A value is a list exactly if the reference denotes one; it is not that of a declared type. -/
theorem isList_of_valueIn {document : Document} {r : TypeRef} {value : Resolved}
    (h : valueIn env document r = some value) :
    value.isList = true ↔ Lists env.index r ∧ ¬ NamesDeclared r := by
  cases r with
  | named name =>
    obtain ⟨q, hq, rfl⟩ := Option.map_eq_some_iff.1 h
    have hbuiltin : isBuiltin name = true := by
      unfold isBuiltin
      cases hx : name.isXsd <;> simp_all
    rw [lists_builtin_iff hbuiltin, and_iff_left (not_namesDeclared_of_builtin hbuiltin)]
  | inline given =>
    rw [and_iff_left (not_namesDeclared_inline given)]
    cases given with
    | complex given => cases h
    | simple t =>
      rw [valueIn] at h
      split at h
      · rename_i hc
        obtain rfl := Option.some.inj h
        exact classify_isList hc
      · cases h

/-- A list that comes to a node is that of a declared type: in place it would be a value. -/
theorem NodeIn.namesDeclared {document : Document} {r : TypeRef} (h : NodeIn env document r)
    (hlists : Lists env.index r) : NamesDeclared r := by
  cases r with
  | named name => exact ⟨name, rfl, h⟩
  | inline given =>
    cases given with
    | complex given => cases hlists
    | simple t =>
      obtain ⟨facets, hc⟩ := h
      exact absurd ((classify_isList hc).2 hlists) Bool.false_ne_true

/-- What a reference comes to is a list if the reference denotes one and is not the name of a
declared type, whose node tells that it is a list. -/
theorem Yields.isList_iff {d : Declared TypeRef} (h : Yields env s d type) :
    type.isList = true ↔ Lists env.index d.definition ∧ ¬ NamesDeclared d.definition := by
  unfold Yields at h
  cases hv : valueIn env d.document d.definition with
  | some value =>
    simp only [hv] at h
    exact h ▸ isList_of_valueIn hv
  | none =>
    simp only [hv] at h
    obtain ⟨hnode, id, rfl, -⟩ := h
    exact iff_of_false Bool.false_ne_true fun ⟨hlists, hnot⟩ => hnot (hnode.namesDeclared hlists)

namespace Stop

/-- The type of the member denotes a list. -/
def HoldsList (ix : Index) (m : Stop) : Prop := ∃ d, m.typeRef? = some d ∧ Lists ix d.definition

/-- The type of the member is written as the name of a declared type. -/
def NamesType (m : Stop) : Prop := ∃ d, m.typeRef? = some d ∧ NamesDeclared d.definition

/-- The member may occur more than once. -/
def Repeats : Stop → Prop
  | .element _ _ occurs _ => occurs.isMultiple = true
  | .attribute .. => False

theorem HasType.isList_iff (h : m.HasType env s type) :
    type.isList = true ↔ m.HoldsList env.index ∧ ¬ m.NamesType := by
  unfold HasType at h
  cases hd : m.typeRef? with
  | none =>
    simp only [hd] at h
    subst h
    simp [HoldsList, hd, Resolved.primitive]
  | some d =>
    simp only [hd] at h
    simp only [HoldsList, NamesType, hd, Option.some.injEq, exists_eq_left']
    exact Yields.isList_iff h

theorem isCollection_property {scope : Scope} {order : Option Nat} :
    (m.property env scope type order).isCollection = true ↔ m.Repeats ∨ type.isList = true := by
  cases m with
  | element => simp [property, elementProperty, Repeats]
  | «attribute» => simp [property, attributeProperty, Repeats]

end Stop

theorem ComesFrom.isCollection_iff (h : ComesFrom env s id m p) :
    p.isCollection = true ↔ m.Repeats ∨ m.HoldsList env.index ∧ ¬ m.NamesType := by
  obtain ⟨r, -, -, stops, -, hgives⟩ := h
  obtain ⟨type, order, htype, rfl⟩ := hgives.property
  rw [Stop.isCollection_property, htype.isList_iff]

/-- The property stands for the member, or for what may stand in for it. -/
def StandsFor (env : Environment) (s : State) (id : NodeId) (m : Stop) (p : Property) : Prop :=
  AddedFor env s id m p ∨ ∃ x, AddedBeside env s id m x p

/-- Whatever the property became, it is a collection if the property for the member was one. -/
theorem StandsFor.isCollection_iff (h : StandsFor env s id m p) :
    p.isCollection = true ↔ m.Repeats ∨ m.HoldsList env.index ∧ ¬ m.NamesType := by
  obtain ⟨q, hq, hsame⟩ : ∃ q, ComesFrom env s id m q ∧ p.isCollection = q.isCollection := by
    rcases h with ⟨q, hq, hbare⟩ | ⟨x, head, hhead, -, -, ownerName, hbare⟩
    · exact ⟨q, hq, congrArg (·.isCollection) hbare⟩
    · exact ⟨head, hhead, congrArg (·.isCollection) hbare⟩
  rw [hsame, hq.isCollection_iff]

/-- Every property that is not for a wildcard stands for a member, and is a collection exactly if
the member repeats or its type denotes a list and is not written as the name of a declared type. -/
theorem collection_iff {set : SchemaSet} {options : Options} {naming : Naming}
    (h : run (.ofSet set options naming) resolver = .ok s) :
    let env := Environment.ofSet set options naming
    ∀ id, ∀ p ∈ (s.finished env).properties id, p.isWildcard = false →
      (∃ m, StandsFor env s id m p) ∧ ∀ m, StandsFor env s id m p →
        (p.isCollection = true ↔ m.Repeats ∨ m.HoldsList env.index ∧ ¬ m.NamesType) := by
  intro env id p hp hwildcard
  have hs : Completed env resolver s := run_completed h
  refine ⟨?_, fun m hm => hm.isCollection_iff⟩
  rcases hs.finished_origin hp with hw | ⟨m, hm⟩ | ⟨-, m, x, hx⟩
  · exact absurd (hwildcard.symm.trans hw) Bool.false_ne_true
  · exact ⟨m, .inl hm⟩
  · exact ⟨m, .inr ⟨x, hx⟩⟩

/-- The list of the given items. -/
def listType (item : TypeRef) : SimpleType := { content := .list item }

/-- An element whose type is a list that is declared, and one whose type is the same list in
place. -/
def declaredList : SchemaSet :=
  sampleSet
    [.simple { listType (.named (.xsd "int")) with name := some (sampleName "L") },
     .complex
      { name := some (sampleName "T")
        particle := some (sampleSequence [sampleElement "x" (sampleName "L"),
          .one (.element
            { name := sampleName "y"
              typeRef := some (.inline (.simple (listType (.named (.xsd "int"))))) })]) }]
    []

/-- The environment in which the type with the two elements is built. -/
def listEnv : Environment := .ofSet declaredList {} .conventional

theorem collection_declared_list : ∃ s, run listEnv oneNamespace = .ok s ∧
    (∃ id, ∃ p ∈ (s.finished listEnv).properties id, p.isWildcard = false) ∧
    ∀ id, ∀ p ∈ (s.finished listEnv).properties id, p.isWildcard = false →
      (∃ m, StandsFor listEnv s id m p) ∧ ∀ m, StandsFor listEnv s id m p →
        (p.isCollection = true ↔ m.Repeats ∨ m.HoldsList listEnv.index ∧ ¬ m.NamesType) := by
  obtain ⟨s, h, hsome⟩ := exists_of_any (x := run listEnv oneNamespace)
    (p := fun s => (((s.finished listEnv).properties 1)[1]?).any fun p =>
      !p.isWildcard && p.isCollection)
    (by decide +kernel)
  obtain ⟨p, hp, hfields⟩ := (Option.any_eq_true _ _).1 hsome
  simp only [Bool.and_eq_true, Bool.not_eq_true'] at hfields
  exact ⟨s, h, ⟨1, p, List.mem_of_getElem? hp, hfields.1⟩, collection_iff h⟩

/-- Whether the node is that of a simple type whose values are lists. -/
def tellsList (n : Node) : Bool :=
  match n.kind with
  | .simple shape => shape.isList
  | _ => false

/-- The node of the declared list tells that it is a list, and the property of that type is no
collection. -/
theorem declared_list_is_no_collection : ∃ s, run listEnv oneNamespace = .ok s ∧
    ∃ id, ∃ p ∈ (s.finished listEnv).properties id, p.isWildcard = false ∧
      (∃ j node, p.type = .node j ∧ (s.finished listEnv).node? j = some node ∧
        tellsList node = true) ∧
      p.isCollection = false := by
  obtain ⟨s, h, hsome⟩ := exists_of_any (x := run listEnv oneNamespace)
    (p := fun s => (((s.finished listEnv).properties 1)[0]?).any (fun p =>
        !p.isWildcard && p.type = .node 0 && !p.isCollection) &&
      ((s.finished listEnv).node? 0).any tellsList)
    (by decide +kernel)
  obtain ⟨hprop, hnode⟩ := Bool.and_eq_true_iff.1 hsome
  obtain ⟨p, hp, hfields⟩ := (Option.any_eq_true _ _).1 hprop
  obtain ⟨n, hn, hlist⟩ := (Option.any_eq_true _ _).1 hnode
  simp only [Bool.and_eq_true, Bool.not_eq_true', decide_eq_true_eq] at hfields hlist
  exact ⟨s, h, 1, p, List.mem_of_getElem? hp, hfields.1.1, ⟨0, n, hfields.1.2, hn, hlist⟩,
    hfields.2⟩

end XmlTypes.Build
