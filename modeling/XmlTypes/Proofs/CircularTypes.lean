import XmlTypes.Proofs.References
import XmlTypes.Proofs.Termination
/-!
# Simple types that are made from themselves

The classification of a simple type follows the types that it is made from, and remembers the names
on the way. It fails where it comes to one of them again, so it comes to an end. It fails exactly if
the type leads to one that is made from itself, or to one whose name was on the way from the start
(`classify_detects_cycles`). Where it does not fail, the names on the way make no difference.
-/

namespace XmlTypes.Build

open Relation Schema

variable {ix : Index} {o : Options}

/-! ## Types that are classified -/

/-- A reference that is classified does not lead to a type that is being visited, or to one that is
made from itself. -/
theorem classifyRef_ok_reaches : ∀ (fuel : Nat) (document : Document) (visiting : List QName)
    (r : TypeRef) (c : Classification), classifyRef ix o fuel document visiting r = .ok c →
    ∀ n, ix.Reaches r n → n ∉ visiting ∧ ¬ TransGen ix.DerivesFrom n n := by
  intro fuel
  induction fuel with
  | zero => exact fun _ _ _ _ h => nomatch h
  | succ fuel ih =>
    intro document visiting r c h n hn
    cases r with
    | inline type =>
      cases type with
      | complex t => cases h
      | simple t =>
        obtain ⟨q, hq, hn⟩ := Index.reaches_inline_iff.1 hn
        obtain ⟨k, hk⟩ := classifyContent_part h hq
        exact ih _ _ q k hk n hn
    | named name =>
      rcases classifyRef_named_ok h with ⟨hx, -⟩ | ⟨hx, hunvisited, g, t, hg, ht, hc⟩
      · obtain ⟨m, hm, hx', -⟩ := hn
        rw [List.mem_singleton.1 hm, hx] at hx'
        cases hx'
      · -- The definition does not lead back to its name, which is visited with the others.
        have hreached {m : QName} (hm : ix.Reaches (.inline (.simple t)) m) :
            m ∉ visiting ++ [name] ∧ ¬ TransGen ix.DerivesFrom m m := by
          obtain ⟨q, hq, hm⟩ := Index.reaches_inline_iff.1 hm
          obtain ⟨k, hk⟩ := classifyContent_part hc hq
          exact ih _ _ q k hk m hm
        rcases (Index.reaches_named_iff hx hg ht).1 hn with rfl | hn
        · refine ⟨hunvisited, fun hcycle => ?_⟩
          have hback := (hreached ((Index.transGen_iff_reaches hg ht).1 hcycle)).1
          exact hback (by simp)
        · obtain ⟨hnot, hacyclic⟩ := hreached hn
          exact ⟨fun hv => hnot (List.mem_append_left _ hv), hacyclic⟩

/-- Contents whose parts are classified the same are. -/
theorem classifyContent_unique {refer refer' : TypeRef → Except Failure Classification}
    {content : SimpleContent} {c c' : Classification}
    (hrefer : ∀ r k k', refer r = .ok k → refer' r = .ok k' → k = k')
    (h : classifyContent o refer content = .ok c) (h' : classifyContent o refer' content = .ok c') :
    c = c' := by
  have hparts (r : TypeRef) (hr : r ∈ content.parts) : refer' r = refer r := by
    obtain ⟨k, hk⟩ := classifyContent_part h hr
    obtain ⟨k', hk'⟩ := classifyContent_part h' hr
    rw [hk, hk', hrefer r k k' hk hk']
  rw [classifyContent_congr hparts, h] at h'
  exact Except.ok.inj h'

/-- What a reference is classified as depends neither on the types that are being visited, nor on
the document that it is in. -/
theorem classifyRef_unique : ∀ (fuel : Nat) (document document' : Document)
    (visiting visiting' : List QName) (r : TypeRef) (c c' : Classification),
    classifyRef ix o fuel document visiting r = .ok c →
    classifyRef ix o fuel document' visiting' r = .ok c' → c = c' := by
  intro fuel
  induction fuel with
  | zero => exact fun _ _ _ _ _ _ _ h => nomatch h
  | succ fuel ih =>
    intro document document' visiting visiting' r c c' h h'
    cases r with
    | inline type =>
      cases type with
      | complex t => cases h
      | simple t => exact classifyContent_unique (ih _ _ _ _) h h'
    | named name =>
      rcases classifyRef_named_ok h with ⟨hx, p, hp, rfl⟩ | ⟨hx, -, g, t, hg, ht, hc⟩
      · rcases classifyRef_named_ok h' with ⟨-, p', hp', rfl⟩ | ⟨hx', -⟩
        · rw [Option.some.inj (hp.symm.trans hp')]
        · exact absurd (hx.symm.trans hx') Bool.noConfusion
      · rcases classifyRef_named_ok h' with ⟨hx', -⟩ | ⟨-, -, g', t', hg', ht', hc'⟩
        · exact absurd (hx.symm.trans hx') Bool.noConfusion
        · obtain rfl := Option.some.inj (hg.symm.trans hg')
          cases ht.symm.trans ht'
          exact classifyContent_unique (ih _ _ _ _) hc hc'

/-! ## Simple types -/

/-- A number of references that is never exceeded on the way from a simple type of a schema. -/
def classifyingLimit (set : SchemaSet) (t : SimpleType) : Nat :=
  let depth := max set.depth t.depth
  (Index.ofSet set).types.size * (depth + 2) + depth + 1

/-- For what is written in a schema, the limit for its construction is enough. -/
theorem classifyingLimit_le {set : SchemaSet} {t : SimpleType} (h : t.depth ≤ set.depth) :
    classifyingLimit set t ≤ depthLimit set := by
  rw [classifyingLimit, Nat.max_eq_left h]
  exact classifying_lt_depthLimit set

/-- The classification fails because a type is made from itself. -/
def FailsCircular (env : Environment) (document : Document) (visiting : List QName)
    (t : SimpleType) : Prop :=
  ∃ e, classify env document visiting t = .error e ∧ e.isCircular = true

/-- A simple type is classified with no name on the way, or with its own. -/
def Starts (ix : Index) (visiting : List QName) (t : SimpleType) : Prop :=
  visiting = [] ∨ ∃ name g, visiting = [name] ∧ ix.type? name = some g ∧ g.definition = .simple t

section
variable {env : Environment} {document : Document} {visiting : List QName} {t : SimpleType}

/-- A type that leads to a cycle, or to a type that is being visited, is not classified. -/
theorem not_ok_of_reaches {c : Classification}
    (h : env.index.Cyclic (.inline (.simple t)) ∨
      ∃ n ∈ visiting, env.index.Reaches (.inline (.simple t)) n) :
    classify env document visiting t ≠ .ok c := by
  intro hc
  have hreached {n : QName} (hn : env.index.Reaches (.inline (.simple t)) n) :
      n ∉ visiting ∧ ¬ TransGen env.index.DerivesFrom n n := by
    obtain ⟨q, hq, hn⟩ := Index.reaches_inline_iff.1 hn
    obtain ⟨k, hk⟩ := classifyContent_part hc hq
    exact classifyRef_ok_reaches _ _ _ q k hk n hn
  rcases h with ⟨n, hn, hcycle⟩ | ⟨n, hv, hn⟩
  · exact (hreached hn).2 hcycle
  · exact (hreached hn).1 hv

/-- Where all references resolve, a classification that does not go too deep fails only on a cycle,
or on a type that is being visited. -/
theorem circular_of_error {e : Failure} (hfrom : env.index.ResolvesFrom (.inline (.simple t)))
    (h : classify env document visiting t = .error e) (hdeep : e.isBottomless = false) :
    e.isCircular = true ∧ (env.index.Cyclic (.inline (.simple t)) ∨
      ∃ n ∈ visiting, env.index.Reaches (.inline (.simple t)) n) := by
  obtain ⟨q, hq, he⟩ := classifyContent_error h
  rcases classifyRef_error _ _ _ q e (hfrom.part hq) he with hbottomless | ⟨hcircular, n, hn, hcase⟩
  · exact absurd (hdeep.symm.trans hbottomless) Bool.noConfusion
  · have hreached : env.index.Reaches (.inline (.simple t)) n :=
      Index.reaches_inline_iff.2 ⟨q, hq, hn⟩
    refine ⟨hcircular, ?_⟩
    rcases hcase with hv | hcycle
    · exact .inr ⟨n, hv, hreached⟩
    · exact .inl ⟨n, hreached, hcycle⟩

/-- At the start, the names on the way are reached on a cycle only. -/
theorem Starts.cyclic (h : Starts env.index visiting t)
    (hreached : ∃ n ∈ visiting, env.index.Reaches (.inline (.simple t)) n) :
    env.index.Cyclic (.inline (.simple t)) := by
  obtain ⟨n, hv, hn⟩ := hreached
  rcases h with rfl | ⟨name, g, rfl, hg, ht⟩
  · cases hv
  · obtain rfl := List.mem_singleton.1 hv
    exact ⟨n, hn, (Index.transGen_iff_reaches hg ht).2 hn⟩

end

/-- How a simple type is classified, as far as types that are made from themselves are concerned. -/
structure DetectsCycles (env : Environment) (t : SimpleType) : Prop where
  /-- The classification comes to an end by itself: going deeper changes nothing. -/
  ends : ∀ document visiting, ∀ deeper ≥ env.limit,
    classify (env.within deeper) document visiting t = classify env document visiting t
  /-- If the type is not classified, it is because a type is made from itself. -/
  outcome : ∀ document visiting, (∃ c, classify env document visiting t = .ok c) ∨
    FailsCircular env document visiting t
  /-- It fails on a type that is made from itself, or that is on the way from the start. -/
  circular_iff : ∀ document visiting, FailsCircular env document visiting t ↔
    env.index.Cyclic (.inline (.simple t)) ∨
      ∃ n ∈ visiting, env.index.Reaches (.inline (.simple t)) n
  /-- With no name on the way, or its own, it fails on a type that is made from itself only. -/
  start_iff : ∀ document visiting, Starts env.index visiting t →
    (FailsCircular env document visiting t ↔ env.index.Cyclic (.inline (.simple t)))
  /-- If it does not fail, the names on the way make no difference, nor does the document. -/
  unique : ∀ document document' visiting visiting' c c',
    classify env document visiting t = .ok c → classify env document' visiting' t = .ok c' → c = c'

/-- A simple type that leads to built-in and to simple types only is classified, unless it leads to
one that is made from itself, and then it is not. -/
theorem classify_detects_cycles {set : SchemaSet} {options : Options} {naming : Naming}
    {t : SimpleType} {limit : Nat}
    (hfrom : (Index.ofSet set).ResolvesFrom (.inline (.simple t)))
    (hlimit : classifyingLimit set t ≤ limit) :
    DetectsCycles ((Environment.ofSet set options naming).within limit) t := by
  let env := (Environment.ofSet set options naming).within limit
  have hdepth (n : QName) (g : Global TypeDefinition) (hg : (Index.ofSet set).type? n = some g) :
      g.definition.depth ≤ max set.depth t.depth :=
    Nat.le_trans (SchemaSet.type_depth_le (found_spec hg).2.2.1 (found_spec hg).2.2.2)
      (Nat.le_max_left _ _)
  have hsettled (document : Document) (visiting : List QName) {deeper : Nat} (h : limit ≤ deeper) :
      classify (env.within deeper) document visiting t = classify env document visiting t ∧
        ∀ e, classify env document visiting t = .error e → e.isBottomless = false :=
    classify_settled hdepth (Nat.le_max_right _ _) h hlimit
  have herror {document : Document} {visiting : List QName} {e : Failure}
      (he : classify env document visiting t = .error e) :=
    circular_of_error hfrom he ((hsettled document visiting (Nat.le_refl _)).2 e he)
  have hcircular (document : Document) (visiting : List QName) :
      FailsCircular env document visiting t ↔ env.index.Cyclic (.inline (.simple t)) ∨
        ∃ n ∈ visiting, env.index.Reaches (.inline (.simple t)) n := by
    constructor
    · rintro ⟨e, he, -⟩
      exact (herror he).2
    · intro hreached
      cases hc : classify env document visiting t with
      | ok c => exact absurd hc (not_ok_of_reaches hreached)
      | error e => exact ⟨e, hc, (herror hc).1⟩
  constructor
  case ends => exact fun document visiting deeper h => (hsettled document visiting h).1
  case outcome =>
    intro document visiting
    cases hc : classify env document visiting t with
    | ok c => exact .inl ⟨c, rfl⟩
    | error e => exact .inr ⟨e, hc, (herror hc).1⟩
  case circular_iff => exact hcircular
  case start_iff =>
    intro document visiting hstarts
    rw [hcircular document visiting]
    exact or_iff_left_of_imp hstarts.cyclic
  case unique =>
    intro document document' visiting visiting' c c' h h'
    exact classifyContent_unique (classifyRef_unique _ _ _ _ _) h h'

/-- Short names, two types that are made from them, and two types that are made from each other. -/
def knots : SchemaSet :=
  sampleSet
    [.simple
      { name := some (sampleName "Base")
        content := .restriction (.named (.xsd "string")) [.maxLength 5] },
     .simple
      { name := some (sampleName "Left")
        content := .restriction (.named (sampleName "Base")) [.minLength 1] },
     .simple { name := some (sampleName "Right"), content := .list (.named (sampleName "Base")) },
     .simple
      { name := some (sampleName "Loop")
        content := .union [.named (sampleName "Base"), .named (sampleName "Back")] },
     .simple { name := some (sampleName "Back"), content := .list (.named (sampleName "Loop")) }]
    []

/-- A type that is made from another one in two ways. -/
def diamond : SimpleType :=
  { content := .union [.named (sampleName "Left"), .named (sampleName "Right")] }

/-- A type that leads to two types that are made from each other. -/
def knotted : SimpleType := { content := .restriction (.named (sampleName "Loop")) [] }

theorem classify_detects_cycles_knots :
    let env := Environment.ofSet knots {} .conventional
    let document : Document := { location := "a.xsd" }
    ((Index.ofSet knots).ResolvesFrom (.inline (.simple diamond)) ∧
      classifyingLimit knots diamond ≤ depthLimit knots ∧ DetectsCycles env diamond ∧
      ∃ c, classify env document [] diamond = .ok c) ∧
    (Index.ofSet knots).ResolvesFrom (.inline (.simple knotted)) ∧
      classifyingLimit knots knotted ≤ depthLimit knots ∧ DetectsCycles env knotted ∧
      FailsCircular env document [] knotted := by
  intro env document
  have hset : knots.resolves = true := by decide +kernel
  have hdiamond : (Index.ofSet knots).ResolvesFrom (.inline (.simple diamond)) :=
    SchemaSet.resolvesFrom hset (by decide +kernel)
  have hknotted : (Index.ofSet knots).ResolvesFrom (.inline (.simple knotted)) :=
    SchemaSet.resolvesFrom hset (by decide +kernel)
  have hlimit : classifyingLimit knots diamond ≤ depthLimit knots :=
    classifyingLimit_le (by decide)
  have hlimit' : classifyingLimit knots knotted ≤ depthLimit knots :=
    classifyingLimit_le (by decide)
  exact ⟨⟨hdiamond, hlimit, classify_detects_cycles hdiamond hlimit, _, rfl⟩,
    hknotted, hlimit', classify_detects_cycles hknotted hlimit', _, rfl, rfl⟩

end XmlTypes.Build
