import Mathlib.Data.ENat.Basic
import XmlTypes.Build.Classes
import XmlTypes.Proofs.Contents
/-!
# Bounds on the way through nested groups

Through nested groups the bounds of particles multiply, with counts that stop at the greatest of
them, and in a choice nothing is required. Of the bounds that a walk comes to, all that matters is
whether there is none, one or many, and in this they agree with the exact products on ways of any
length (`Way.bounds_counts`). With the exact products the walk would do the very same
(`Calls.discern_callsUpTo`).
-/

namespace XmlTypes.Schema.Occurs

/-! ## Bounds and exact numbers -/

variable {a b : Occurs} {least : ℕ} {greatest : ℕ∞}

/-- The upper bound as a number without limit. -/
def upper (o : Occurs) : ℕ∞ := o.max.elim ⊤ fun n => n

/-- The bounds and the numbers agree in what is none, what is one and what is many. -/
structure Counts (o : Occurs) (least : ℕ) (greatest : ℕ∞) : Prop where
  isEmpty : o.isEmpty = true ↔ greatest = 0
  isMultiple : o.isMultiple = true ↔ 1 < greatest
  isRequired : 0 < o.min ↔ 0 < least

theorem upper_of_none (h : a.max = none) : a.upper = ⊤ := by
  rw [upper, h]
  rfl

theorem upper_of_some {n : Nat} (h : a.max = some n) : a.upper = n := by
  rw [upper, h]
  rfl

theorem isEmpty_iff : a.isEmpty = true ↔ a.upper = 0 := by
  cases h : a.max <;> simp [isEmpty, upper, h]

theorem isMultiple_iff : a.isMultiple = true ↔ 1 < a.upper := by
  cases h : a.max with
  | none => simp [isMultiple, isEmpty, upper, h]
  | some n =>
    have hn : 1 < n ↔ n ≠ 0 ∧ n ≠ 1 := by omega
    simp [isMultiple, isEmpty, upper, h, hn]

/-- A product that stops at the greatest count was many, and is many still. -/
theorem times_cases (m n : Nat) : times m n = m * n ∨ 1 < times m n ∧ 1 < m * n := by
  have hmax : maxCount = 4294967295 := rfl
  have htimes : times m n = Min.min (m * n) maxCount := rfl
  omega

theorem upper_within (a b : Occurs) : (a.within b).upper = a.upper * b.upper ∨
    1 < (a.within b).upper ∧ 1 < a.upper * b.upper := by
  by_cases h : a.isEmpty = true ∨ b.isEmpty = true
  · -- Nothing absorbs everything, even what is unbounded.
    have hor : (a.isEmpty || b.isEmpty) = true := by simpa using h
    have hmax : (a.within b).max = some 0 := by rw [within, if_pos hor]
    have hzero : a.upper * b.upper = 0 := mul_eq_zero.2 (h.imp isEmpty_iff.1 isEmpty_iff.1)
    left
    rw [upper_of_some hmax, hzero, Nat.cast_zero]
  · have hor : ¬(a.isEmpty || b.isEmpty) = true := by simpa using h
    obtain ⟨ha, hb⟩ := not_or.1 h
    rw [isEmpty_iff] at ha hb
    cases hma : a.max with
    | none =>
      have hmax : (a.within b).max = none := by rw [within, if_neg hor, hma]
      left
      rw [upper_of_none hmax, upper_of_none hma, ENat.top_mul hb]
    | some m =>
      cases hmb : b.max with
      | none =>
        have hmax : (a.within b).max = none := by rw [within, if_neg hor, hma, hmb]
        left
        rw [upper_of_none hmax, upper_of_none hmb, ENat.mul_top ha]
      | some n =>
        have hmax : (a.within b).max = some (times m n) := by rw [within, if_neg hor, hma, hmb]
        rw [upper_of_some hmax, upper_of_some hma, upper_of_some hmb]
        exact_mod_cast times_cases m n

theorem one_lt_mul_iff {x y : ℕ∞} : 1 < x * y ↔ x ≠ 0 ∧ y ≠ 0 ∧ (1 < x ∨ 1 < y) := by
  by_cases hx : x = 0
  · simp [hx]
  by_cases hy : y = 0
  · simp [hy]
  cases x with
  | top => simp [ENat.top_mul hy, hy]
  | coe m =>
    cases y with
    | top => simp [ENat.mul_top hx, hx]
    | coe n =>
      norm_cast at hx hy ⊢
      rw [Nat.one_lt_mul_iff, Nat.pos_iff_ne_zero, Nat.pos_iff_ne_zero]

theorem Counts.self (o : Occurs) : o.Counts o.min o.upper :=
  ⟨isEmpty_iff, isMultiple_iff, Iff.rfl⟩

/-- Within bounds that agree with some numbers a particle agrees with their products. -/
theorem Counts.within (a : Occurs) (hb : b.Counts least greatest) :
    (a.within b).Counts (a.min * least) (a.upper * greatest) where
  isEmpty := by
    have hupper : (a.within b).upper = 0 ↔ a.upper * b.upper = 0 := by
      rcases upper_within a b with h | ⟨h, h'⟩
      · rw [h]
      · exact iff_of_false (ne_bot_of_gt h) (ne_bot_of_gt h')
    rw [isEmpty_iff, hupper, mul_eq_zero, mul_eq_zero, ← hb.isEmpty, ← isEmpty_iff (a := b)]
  isMultiple := by
    have hupper : 1 < (a.within b).upper ↔ 1 < a.upper * b.upper := by
      rcases upper_within a b with h | ⟨h, h'⟩
      · rw [h]
      · exact iff_of_true h h'
    rw [isMultiple_iff, hupper, one_lt_mul_iff, one_lt_mul_iff, ne_eq b.upper, ← isEmpty_iff,
      ← isMultiple_iff (a := b), hb.isEmpty, hb.isMultiple]
  isRequired := by
    have htimes : 0 < times a.min b.min ↔ 0 < a.min * b.min := by
      rcases times_cases a.min b.min with h | h <;> omega
    rw [Occurs.within, htimes, CanonicallyOrderedAdd.mul_pos, CanonicallyOrderedAdd.mul_pos,
      hb.isRequired]

/-- Bounds that agree with the same numbers. -/
def Agrees (o o' : Occurs) : Prop := ∃ least greatest, o.Counts least greatest ∧
  o'.Counts least greatest

namespace Agrees

variable {o o' : Occurs}

theorem isEmpty (h : o.Agrees o') : o.isEmpty = o'.isEmpty := by
  obtain ⟨least, greatest, ho, ho'⟩ := h
  exact Bool.eq_iff_iff.2 (ho.isEmpty.trans ho'.isEmpty.symm)

theorem isMultiple (h : o.Agrees o') : o.isMultiple = o'.isMultiple := by
  obtain ⟨least, greatest, ho, ho'⟩ := h
  exact Bool.eq_iff_iff.2 (ho.isMultiple.trans ho'.isMultiple.symm)

theorem isRequired (h : o.Agrees o') : 0 < o.min ↔ 0 < o'.min := by
  obtain ⟨least, greatest, ho, ho'⟩ := h
  exact ho.isRequired.trans ho'.isRequired.symm

theorem min_eq_zero (h : o.Agrees o') : o.min = 0 ↔ o'.min = 0 := by
  have hrequired := h.isRequired
  omega

theorem within (a : Occurs) (h : o.Agrees o') : (a.within o).Agrees (a.within o') := by
  obtain ⟨least, greatest, ho, ho'⟩ := h
  exact ⟨_, _, ho.within a, ho'.within a⟩

end Agrees

end XmlTypes.Schema.Occurs

namespace XmlTypes.Build

open Schema

/-! ## Ways -/

/-- A choice requires nothing, and leaves the upper bound. -/
theorem counts_innerBounds {o : Occurs} {least : ℕ} {greatest : ℕ∞} (h : o.Counts least greatest)
    (compositor : Compositor) :
    (innerBounds compositor o).Counts (if compositor = .choice then 0 else least) greatest := by
  unfold innerBounds
  split
  · exact ⟨h.isEmpty, h.isMultiple, Iff.rfl⟩
  · exact h

/-- A way through nested groups, the innermost particle first: the own bounds of each particle, and
the compositor around it. -/
abbrev Way : Type := List (Occurs × Compositor)

namespace Way

/-- How often the innermost particle occurs at least, all bounds multiplied: in a choice it may not
occur at all. -/
def least (w : Way) : ℕ :=
  if ∃ e ∈ w, e.2 = .choice then 0 else (w.map fun e => e.1.min).prod

/-- How often it occurs at most, all bounds multiplied. -/
def greatest (w : Way) : ℕ∞ := (w.map fun e => e.1.upper).prod

/-- The bounds that a walk comes to. -/
def bounds : Way → Occurs
  | [] => .once
  | (own, compositor) :: outer => own.within (innerBounds compositor (bounds outer))

theorem least_cons (own : Occurs) (compositor : Compositor) (outer : Way) :
    least ((own, compositor) :: outer) =
      own.min * if compositor = .choice then 0 else outer.least := by
  unfold least
  by_cases hc : compositor = .choice
  · rw [if_pos ⟨_, List.mem_cons_self, hc⟩, if_pos hc, Nat.mul_zero]
  · have hiff : (∃ e ∈ (own, compositor) :: outer, e.2 = .choice) ↔
        ∃ e ∈ outer, e.2 = .choice := by simp [hc]
    simp only [hiff, if_neg hc]
    split
    · rw [Nat.mul_zero]
    · rw [List.map_cons, List.prod_cons]

/-- The bounds agree with the exact products, however long the way is. -/
theorem bounds_counts (w : Way) : w.bounds.Counts w.least w.greatest := by
  induction w with
  | nil => exact .self .once
  | cons e outer ih =>
    obtain ⟨own, compositor⟩ := e
    rw [least_cons]
    exact (counts_innerBounds ih compositor).within own

/-- The true product is 4295032832. -/
example : bounds [(⟨65537, some 65537⟩, .sequence), (⟨65536, some 65536⟩, .sequence)] =
    ⟨4294967295, some 4294967295⟩ := by decide

end Way

/-! ## Only none, one and many matter -/

variable {env : Environment} {c : Calls} {o o' : Occurs}

theorem innerBounds_agrees (h : o.Agrees o') (compositor : Compositor) :
    (innerBounds compositor o).Agrees (innerBounds compositor o') := by
  obtain ⟨least, greatest, ho, ho'⟩ := h
  exact ⟨_, _, counts_innerBounds ho compositor, counts_innerBounds ho' compositor⟩

theorem elementProperty_agrees (h : o.Agrees o') (scope : Scope) (e : ElementDecl)
    (type : Resolved) (isReference : Bool) (order : Option Nat) :
    elementProperty env scope e type o isReference order =
      elementProperty env scope e type o' isReference order := by
  simp only [elementProperty, h.isMultiple, h.isRequired, h.min_eq_zero]

theorem element_agrees (h : o.Agrees o') (scope : Scope) (d : Declared ElementDecl)
    (compositor : Compositor) (isReference : Bool) :
    element c env scope d o compositor isReference =
      element c env scope d o' compositor isReference := by
  simp only [element, elementProperty_agrees h]

theorem anyElement_agrees (h : o.Agrees o') (scope : Scope) (w : Wildcard) :
    anyElement scope w o = anyElement scope w o' := by
  simp only [anyElement, h.isMultiple, h.isRequired, h.min_eq_zero]

/-- The particles of a model group are collected within the bounds inside the group. -/
theorem modelGroup_eq (c : Calls) (scope : Scope) (d : Declared ModelGroup) (o : Occurs) :
    modelGroup c scope d o = d.definition.particles.zipIdx.foldlM (fun scope e =>
      c.particle scope (d.part (.particle e.2) e.1) (innerBounds d.definition.compositor o)
        d.definition.compositor) scope := rfl

namespace Calls

/-- Of the bounds around a particle only none, one and many are told apart. -/
def Discern (c : Calls) : Prop :=
  ∀ scope d (o o' : Occurs) compositor, o.Agrees o' →
    c.particle scope d o compositor = c.particle scope d o' compositor

theorem Discern.modelGroup (hc : c.Discern) (h : o.Agrees o') (scope : Scope)
    (d : Declared ModelGroup) : modelGroup c scope d o = modelGroup c scope d o' := by
  have hinner := innerBounds_agrees h d.definition.compositor
  simp only [modelGroup_eq, hc _ _ _ _ _ hinner]

theorem Discern.particle (hc : c.Discern) (h : o.Agrees o') (scope : Scope)
    (d : Declared Particle) (compositor : Compositor) :
    Build.particle c env scope d o compositor = Build.particle c env scope d o' compositor := by
  have hin := h.within d.definition.occurs
  simp only [Build.particle, groupReference, hin.isEmpty, element_agrees hin,
    anyElement_agrees hin, hc.modelGroup hin]

theorem discern_callsUpTo (env : Environment) (fuel : Nat) : (callsUpTo env fuel).Discern := by
  induction fuel with
  | zero => exact fun _ _ _ _ _ _ => rfl
  | succ fuel ih => exact fun scope d _ _ compositor h => ih.particle h scope d compositor

end Calls

end XmlTypes.Build
