import XmlTypes.Proofs.EnumerationTypes
import XmlTypes.Proofs.Identity
/-!
# Unions of whole numbers

A union can be given the widest of the types of its members. Ranks decide what is wider, and of two
types of whole numbers the one of higher rank holds the values of the other, unless it is unsigned
and the other is not (`contains_iff`): the negative numbers are lost then. Nor do ranks tell
whether a member is a list. So a union is sound exactly if no member is a list, and every member is
unsigned if the type that is chosen is (`widened_union_sound_iff`).
-/

namespace XmlTypes

namespace Schema.Primitive

/-! ## Ranges of whole numbers -/

/-- The least value of a type of whole numbers, if there is one. -/
def least? : Primitive → Option Int
  | byte => some (-128)
  | short => some (-32768)
  | int => some (-2147483648)
  | long => some (-9223372036854775808)
  | unsignedByte | unsignedShort | unsignedInt | unsignedLong => some 0
  | _ => none

/-- The greatest value of a type of whole numbers, if there is one. -/
def greatest? : Primitive → Option Int
  | byte => some 127
  | short => some 32767
  | int => some 2147483647
  | long => some 9223372036854775807
  | unsignedByte => some 255
  | unsignedShort => some 65535
  | unsignedInt => some 4294967295
  | unsignedLong => some 18446744073709551615
  | _ => none

/-- Whether the type holds no negative numbers. -/
def isUnsigned (p : Primitive) : Bool := p.least? == some 0

/-- The type of whole numbers holds the number. -/
def HoldsNumber (p : Primitive) (n : Int) : Prop :=
  (∀ a, p.least? = some a → a ≤ n) ∧ ∀ b, p.greatest? = some b → n ≤ b

/-- Every number that the one type holds is held by the other. -/
def Contains (p q : Primitive) : Prop := ∀ n, q.HoldsNumber n → p.HoldsNumber n

variable {p q : Primitive}

/-- The types of whole numbers. -/
def integrals : List Primitive := all.filter isIntegral

theorem mem_integrals (h : p.isIntegral = true) : p ∈ integrals := by
  refine List.mem_filter.2 ⟨?_, h⟩
  cases p <;> decide

/-- By ranks, the bounds of a type of whole numbers enclose those of a lower one, signs apart. -/
theorem bounds_of_rank : ∀ p ∈ integrals, ∀ q ∈ integrals, q.rank?.getD 0 ≤ p.rank?.getD 0 →
    (p.isUnsigned = true → q.isUnsigned = true) →
    (p.least?.all fun a => q.least?.any (a ≤ ·)) = true ∧
      (p.greatest?.all fun a => q.greatest?.any (· ≤ a)) = true := by
  decide

theorem contains_of_bounds (hleast : (p.least?.all fun a => q.least?.any (a ≤ ·)) = true)
    (hgreatest : (p.greatest?.all fun a => q.greatest?.any (· ≤ a)) = true) : p.Contains q := by
  rintro n ⟨hlow, hhigh⟩
  constructor
  · intro a ha
    rw [ha, Option.all_some, Option.any_eq_true] at hleast
    obtain ⟨b, hb, hab⟩ := hleast
    exact Int.le_trans (of_decide_eq_true hab) (hlow b hb)
  · intro a ha
    rw [ha, Option.all_some, Option.any_eq_true] at hgreatest
    obtain ⟨b, hb, hba⟩ := hgreatest
    exact Int.le_trans (hhigh b hb) (of_decide_eq_true hba)

/-- An unsigned type loses the negative numbers of any other. -/
theorem not_contains (hp : p.isUnsigned = true) (hq : q.isUnsigned = false) :
    ¬ p.Contains q := by
  intro h
  have hminus : q.HoldsNumber (-1) := by
    constructor
    · intro a ha
      cases q <;> simp_all [least?, isUnsigned] <;> omega
    · intro b hb
      cases q <;> simp_all [greatest?] <;> omega
  have hzero : (0 : Int) ≤ -1 := (h (-1) hminus).1 0 (by simpa [isUnsigned] using hp)
  omega

/-- A type of whole numbers contains one of no higher rank exactly if it is not unsigned, or both
are. -/
theorem contains_iff (hp : p.isIntegral = true) (hq : q.isIntegral = true)
    (hrank : q.rank?.getD 0 ≤ p.rank?.getD 0) :
    p.Contains q ↔ (p.isUnsigned = true → q.isUnsigned = true) := by
  constructor
  · intro h hunsigned
    by_contra hsigned
    exact not_contains hunsigned (Bool.eq_false_of_not_eq_true hsigned) h
  · intro h
    obtain ⟨hleast, hgreatest⟩ := bounds_of_rank p (mem_integrals hp) q (mem_integrals hq) hrank h
    exact contains_of_bounds hleast hgreatest

/-! ## The widest type -/

theorem isIntegral_iff_rank : p.isIntegral = true ↔ ∃ k, p.rank? = some k ∧ k ≤ 9 := by
  cases p <;> simp [isIntegral, rank?]

/-- The wider of two types is a type of whole numbers only if both are, and then it is the one of
higher rank. -/
theorem integral_of_wider (h : (wider p q).isIntegral = true) :
    p.isIntegral = true ∧ q.isIntegral = true ∧ (wider p q = p ∨ wider p q = q) ∧
      p.rank?.getD 0 ≤ (wider p q).rank?.getD 0 ∧ q.rank?.getD 0 ≤ (wider p q).rank?.getD 0 := by
  unfold wider at h ⊢
  cases hp : p.rank? with
  | none =>
    rw [hp] at h
    cases h
  | some a =>
    cases hq : q.rank? with
    | none =>
      rw [hp, hq] at h
      cases h
    | some b =>
      rw [hp, hq] at h
      dsimp only at h ⊢
      by_cases hab : a < b
      · rw [if_pos hab] at h ⊢
        obtain ⟨k, hk, hk9⟩ := isIntegral_iff_rank.1 h
        obtain rfl : b = k := Option.some.inj (hq.symm.trans hk)
        refine ⟨isIntegral_iff_rank.2 ⟨a, hp, by omega⟩, h, .inr rfl, ?_, ?_⟩
        · simp only [hq, Option.getD_some]
          omega
        · simp [hq]
      · rw [if_neg hab] at h ⊢
        obtain ⟨k, hk, hk9⟩ := isIntegral_iff_rank.1 h
        obtain rfl : a = k := Option.some.inj (hp.symm.trans hk)
        refine ⟨h, isIntegral_iff_rank.2 ⟨b, hq, by omega⟩, .inl rfl, ?_, ?_⟩
        · simp [hp]
        · simp only [hp, Option.getD_some]
          omega

/-- A fold that comes to a type of whole numbers comes to the one of highest rank. -/
theorem integral_of_foldl_wider {qs : List Primitive}
    (h : (qs.foldl wider p).isIntegral = true) :
    qs.foldl wider p ∈ p :: qs ∧ ∀ q ∈ p :: qs, q.isIntegral = true ∧
      q.rank?.getD 0 ≤ (qs.foldl wider p).rank?.getD 0 := by
  induction qs generalizing p with
  | nil => simpa using h
  | cons q qs ih =>
    rw [List.foldl_cons] at h ⊢
    obtain ⟨hmem, hall⟩ := ih h
    obtain ⟨hwider, hrest⟩ := List.forall_mem_cons.1 hall
    obtain ⟨hp, hq, hcase, hpr, hqr⟩ := integral_of_wider hwider.1
    constructor
    · rcases List.mem_cons.1 hmem with heq | hmem
      · rw [heq]
        rcases hcase with hcase | hcase <;> rw [hcase] <;> simp
      · simp [hmem]
    · refine List.forall_mem_cons.2 ⟨⟨hp, hpr.trans hwider.2⟩, ?_⟩
      exact List.forall_mem_cons.2 ⟨⟨hq, hqr.trans hwider.2⟩, hrest⟩

/-- If the widest of some types is a type of whole numbers, it is one of them, and all of them are
types of whole numbers of no higher rank. -/
theorem integral_of_widest {ps : List Primitive} (h : (widest ps).isIntegral = true) :
    widest ps ∈ ps ∧ ∀ q ∈ ps, q.isIntegral = true ∧
      q.rank?.getD 0 ≤ (widest ps).rank?.getD 0 := by
  cases ps with
  | nil => cases h
  | cons p ps =>
    rw [widest] at h ⊢
    by_cases hall : (ps.all (· == p)) = true
    · rw [if_pos hall] at h ⊢
      refine ⟨List.mem_cons_self, List.forall_mem_cons.2 ⟨⟨h, Nat.le_refl _⟩, fun q hq => ?_⟩⟩
      obtain rfl : q = p := by simpa using List.all_eq_true.1 hall q hq
      exact ⟨h, Nat.le_refl _⟩
    · rw [if_neg hall] at h ⊢
      exact integral_of_foldl_wider h

end Schema.Primitive

namespace Build

open Relation Schema

/-! ## Nodes of simple types -/

/-- Every node for values is that of a global simple type, and tells what this is classified as. -/
def Classified (env : Environment) (g : Graph) : Prop :=
  ∀ id node shape, g.node? id = some node → node.simple? = some shape →
    ∃ type t, env.index.type? node.identity = some type ∧ type.definition = .simple t ∧
      classify env type.document [node.identity] t =
        .ok (.value shape.valueType shape.restrictions shape.isList)

variable {env : Environment} {s t : State}

theorem Change.classified {head : Option NodeId} (h : Change env head s t)
    (hs : Classified env s.graph) : Classified env t.graph := by
  intro id n shape hn hshape
  obtain ⟨m, hm, hgrows⟩ := h.of_node? hn
  rw [hgrows.simple] at hshape
  rw [hgrows.identity]
  exact hs id m shape hm hshape

theorem Purpose.classified {n : Node} {key : Option CacheKey} {shape : SimpleShape}
    (h : Purpose env n key) (hshape : n.simple? = some shape) :
    ∃ type t, env.index.type? n.identity = some type ∧ type.definition = .simple t ∧
      classify env type.document [n.identity] t =
        .ok (.value shape.valueType shape.restrictions shape.isList) := by
  cases h with
  | type _ _ hclass _ =>
    rw [Node.simple?_of_isClass hclass] at hshape
    cases hshape
  | @simpleType name type t c hg ht hc hlabel hc' hname =>
    rw [hname]
    refine ⟨type, t, hg, ht, hc.trans ?_⟩
    rw [hc'] at hshape
    cases c with
    | enumeration facets => cases hshape
    | value type restrictions isList =>
      cases hshape
      rfl
  | group hi _ _ =>
    rw [Node.simple?_eq_none (by rw [Node.isInterface_iff.1 hi]; decide)] at hshape
    cases hshape
  | unnamed _ hnone _ =>
    rw [hnone] at hshape
    cases hshape

theorem Creation.classified {n : Node} {key : Option CacheKey} {place : Option Place}
    (h : Creation env s t n key place) (hs : Classified env s.graph) :
    Classified env t.graph := by
  intro id m shape hm hshape
  rw [h.node?] at hm
  split at hm
  · obtain rfl := Option.some.inj hm
    exact h.purpose.classified hshape
  · exact hs id m shape hm hshape

theorem Moves.classified (h : Moves env s t) (hs : Classified env s.graph) :
    Classified env t.graph := by
  cases h with
  | change h => exact h.classified hs
  | create h => exact h.classified hs
  | opening h => exact hs

theorem finished_classified {resolver : Resolver} (hix : env.index.Lawful)
    (h : run env resolver = .ok s) : Classified env (s.finished env) := by
  have hbuilt : Classified env s.graph := by
    refine run_invariant (P := fun s => Classified env s.graph) hix ?_ ?_ h
    · exact fun _ _ _ hn => absurd hn.symm (Option.some_ne_none _)
    · exact fun _ _ hm => hm.classified
  intro id n shape hn hshape
  obtain ⟨m, hm, hshares⟩ := node?_of_finished hn
  rw [hshares.simple] at hshape
  rw [hshares.identity]
  exact hbuilt id m shape hm hshape

/-! ## Members -/

/-- The member is a type of whole numbers and no list, and the given type holds all its values. -/
def HoldsMember (ix : Index) (p : Primitive) (m : TypeRef) : Prop :=
  ∃ q, Carries ix true m q false ∧ q.isIntegral = true ∧ p.Contains q

section
variable {ix : Index} {type : SimpleType} {members : List TypeRef} {p q : Primitive}
  {isList : Bool}

/-- What a type carries is told by what it is classified as. -/
theorem Classification.Describes.carries_unique {c : Classification} {widen : Bool} {r : TypeRef}
    (h : c.Describes ix widen r) {isList' : Bool} (hp : Carries ix widen r p isList)
    (hq : Carries ix widen r q isList') : p = q ∧ isList = isList' := by
  obtain ⟨restrictions, rfl⟩ := (h.value p isList).1 hp
  obtain ⟨restrictions', he⟩ := (h.value q isList').1 hq
  cases he
  exact ⟨rfl, rfl⟩

variable (h : Carries ix true (.inline (.simple type)) p isList)
  (ht : type.content = .union members) (hp : p.isIntegral = true)
include h ht hp

/-- The members of a union of whole numbers are types of whole numbers, or lists of such, of no
higher rank. -/
theorem Carries.of_mem_union {m : TypeRef} (hm : m ∈ members) :
    ∃ q isList, Carries ix true m q isList ∧ q.isIntegral = true ∧
      q.rank?.getD 0 ≤ p.rank?.getD 0 := by
  obtain ⟨-, ⟨-, rfl⟩ | ⟨-, types, htypes, hwidest⟩⟩ := h.of_union ht
  · cases hp
  · rw [if_pos rfl] at hwidest
    subst hwidest
    obtain ⟨hq, hrank⟩ := (Primitive.integral_of_widest hp).2 (types m) (List.mem_map_of_mem hm)
    have hholds := htypes m hm
    generalize types m = q at hholds hq hrank
    cases hholds with
    | literals _ => cases hq
    | values hv => exact ⟨q, _, hv, hq, hrank⟩

theorem holdsMember_iff (hmembers : ∀ m ∈ members, ∃ c, Classification.Describes c ix true m) :
    (∀ m ∈ members, HoldsMember ix p m) ↔ ∀ m ∈ members, ∀ q isList, Carries ix true m q isList →
      isList = false ∧ (p.isUnsigned = true → q.isUnsigned = true) := by
  refine forall₂_congr fun m hm => ?_
  obtain ⟨c, hc⟩ := hmembers m hm
  obtain ⟨q, l, hv, hq, hrank⟩ := h.of_mem_union ht hp hm
  constructor
  · rintro ⟨q', hv', -, hcontains⟩ q'' l' hv''
    obtain ⟨rfl, rfl⟩ := hc.carries_unique hv hv'
    obtain ⟨rfl, rfl⟩ := hc.carries_unique hv hv''
    exact ⟨rfl, (Primitive.contains_iff hp hq hrank).1 hcontains⟩
  · intro hall
    obtain ⟨rfl, hsigns⟩ := hall q l hv
    exact ⟨q, hv, hq, (Primitive.contains_iff hp hq hrank).2 hsigns⟩

end

/-- Where unions are given the widest type of their members, a union that has a node for a type of
whole numbers has members of such types only, or lists of them. The node holds the values of all
members exactly if no member is a list, and every member is unsigned if the node is. -/
theorem widened_union_sound_iff {set : SchemaSet} {options : Options} {naming : Naming}
    {resolver : Resolver} (h : run (.ofSet set options naming) resolver = .ok s)
    (hwiden : options.widenUnions = true) :
    let env := Environment.ofSet set options naming
    ∀ id node shape type t members, (s.finished env).node? id = some node →
      node.simple? = some shape → shape.valueType.isIntegral = true →
      env.index.type? node.identity = some type → type.definition = .simple t →
      t.content = .union members →
      (∀ m ∈ members, ∃ q isList, Carries env.index true m q isList ∧ q.isIntegral = true) ∧
      ((∀ m ∈ members, HoldsMember env.index shape.valueType m) ↔
        ∀ m ∈ members, ∀ q isList, Carries env.index true m q isList →
          isList = false ∧ (shape.valueType.isUnsigned = true → q.isUnsigned = true)) := by
  intro env id node shape type t members hnode hshape hintegral htype ht hmembers
  obtain ⟨type', t', htype', ht', hc⟩ :=
    finished_classified (Index.lawful_ofSet set) h id node shape hnode hshape
  obtain rfl := Option.some.inj (htype.symm.trans htype')
  cases ht.symm.trans ht'
  have hdescribes := classify_describes hc
  rw [show env.options.widenUnions = true from hwiden] at hdescribes
  have hcarries : Carries env.index true (.inline (.simple t)) shape.valueType shape.isList :=
    (hdescribes.value _ _).2 ⟨_, rfl⟩
  refine ⟨fun m hm => ?_, holdsMember_iff hcarries hmembers hintegral fun m hm => ?_⟩
  · obtain ⟨q, isList, hv, hq, -⟩ := hcarries.of_mem_union hmembers hintegral hm
    exact ⟨q, isList, hv, hq⟩
  · have hpart : m ∈ t.content.parts := by
      rw [hmembers]
      exact hm
    obtain ⟨c, hrefer⟩ := classifyContent_part hc hpart
    have hmember := classifyRef_describes _ _ _ _ _ hrefer
    rw [show env.options.widenUnions = true from hwiden] at hmember
    exact ⟨c, hmember⟩

/-- The members of a union of bytes with and without a sign. -/
def byteMembers : List TypeRef := [.named (.xsd "byte"), .named (.xsd "unsignedByte")]

/-- A union of bytes with and without a sign. -/
def byteUnion : SchemaSet :=
  sampleSet [.simple { name := some (sampleName "Byte"), content := .union byteMembers }] []

/-- The environment in which the union gets the widest type of its members. -/
def byteEnv : Environment := .ofSet byteUnion { widenUnions := true } .conventional

/-- The node tells of unsigned bytes, and is that of the union. -/
def tellsUnsignedByte (n : Node) : Bool :=
  decide (n.simple? = some { valueType := .unsignedByte }) &&
    decide (n.identity = sampleName "Byte")

theorem run_byteEnv : ∃ s node, run byteEnv oneNamespace = .ok s ∧
    (s.finished byteEnv).node? 0 = some node ∧
    node.simple? = some { valueType := .unsignedByte } ∧ node.identity = sampleName "Byte" := by
  obtain ⟨s, h, hsome⟩ := exists_of_any (x := run byteEnv oneNamespace)
    (p := fun s => ((s.finished byteEnv).node? 0).any tellsUnsignedByte) (by decide +kernel)
  obtain ⟨node, hnode, htells⟩ := (Option.any_eq_true _ _).1 hsome
  simp only [tellsUnsignedByte, Bool.and_eq_true, decide_eq_true_eq] at htells
  exact ⟨s, node, h, hnode, htells⟩

theorem widened_union_sound_iff_bytes : byteEnv.options.widenUnions = true ∧
    ∃ s node, run byteEnv oneNamespace = .ok s ∧ (s.finished byteEnv).node? 0 = some node ∧
      node.simple? = some { valueType := .unsignedByte } ∧ node.identity = sampleName "Byte" ∧
      (∀ m ∈ byteMembers, ∃ q isList,
        Carries byteEnv.index true m q isList ∧ q.isIntegral = true) ∧
      ((∀ m ∈ byteMembers, HoldsMember byteEnv.index .unsignedByte m) ↔
        ∀ m ∈ byteMembers, ∀ q isList, Carries byteEnv.index true m q isList →
          isList = false ∧ (Primitive.isUnsigned .unsignedByte = true → q.isUnsigned = true)) := by
  obtain ⟨s, node, h, hnode, hshape, hname⟩ := run_byteEnv
  refine ⟨rfl, s, node, h, hnode, hshape, hname, ?_⟩
  exact widened_union_sound_iff h rfl 0 node _ _ _ byteMembers hnode hshape rfl
    (by rw [hname]; rfl) rfl rfl

/-- The node of the union holds no negative byte, and one of its members does. -/
theorem widened_union_loses_negatives : ∃ s node, run byteEnv oneNamespace = .ok s ∧
    (s.finished byteEnv).node? 0 = some node ∧
    node.simple? = some { valueType := .unsignedByte } ∧ node.identity = sampleName "Byte" ∧
    ∃ m ∈ byteMembers, Carries byteEnv.index true m .byte false ∧
      ¬ Primitive.Contains .unsignedByte .byte := by
  obtain ⟨s, node, h, hnode, hshape, hname⟩ := run_byteEnv
  refine ⟨s, node, h, hnode, hshape, hname, .named (.xsd "byte"), List.mem_cons_self, ?_, ?_⟩
  · exact .builtin rfl rfl
  · exact Primitive.not_contains rfl rfl

end Build

end XmlTypes
