import Mathlib.Data.List.Induction
import XmlTypes.Proofs.EnumerationTypes
/-!
# Layers over layers

A layer hides what is under it kind by kind (`withKind_layer`). So it makes no difference whether
the layers of a chain are put one over the other or in groups first (`Grouping.stacked_eq`): every
layer keeps the kinds that no later one has (`stacked_eq_flatten`), and of each kind there is what
the last layer with that kind says, all of it and in its order (`withKind_stacked`). So a type that
derives step by step has the restrictions of all its steps at once (`Build.restrict_steps`).
-/

namespace XmlTypes

open Schema (Facet Primitive)

/-- The restrictions say something of the kind. -/
def hasKind (restrictions : List Restriction) (kind : String) : Bool :=
  restrictions.any (·.kind = kind)

/-- What the restrictions say of the kind. -/
def withKind (kind : String) (restrictions : List Restriction) : List Restriction :=
  restrictions.filter (·.kind = kind)

/-- A chain of layers, one over the other from the first on. -/
def stacked (chain : List (List Restriction)) : List Restriction := chain.foldl layer []

/-- What each layer of a chain says of the kinds that no later layer has. -/
def uncovered : List (List Restriction) → List (List Restriction)
  | [] => []
  | restrictions :: later =>
    restrictions.filter (fun r => !later.any (hasKind · r.kind)) :: uncovered later

/-- A way to put a chain of layers together in groups. -/
inductive Grouping
  | none
  | one (restrictions : List Restriction)
  | join (inherited derived : Grouping)

namespace Grouping

/-- The layers of all groups. -/
def chain : Grouping → List (List Restriction)
  | none => []
  | one restrictions => [restrictions]
  | join inherited derived => inherited.chain ++ derived.chain

/-- Each group by itself, and one over the other. -/
def stacked : Grouping → List Restriction
  | none => []
  | one restrictions => restrictions
  | join inherited derived => layer inherited.stacked derived.stacked

end Grouping

variable {a b : List Restriction} {chain later : List (List Restriction)} {kind : String}

/-! ## One layer over another -/

theorem layer_eq (a b : List Restriction) :
    layer a b = a.filter (fun r => !hasKind b r.kind) ++ b := by
  simp [layer, hasKind, List.any_eq_not_all_not, bne, BEq.beq]

theorem hasKind_eq (a : List Restriction) (kind : String) :
    hasKind a kind = !(withKind kind a).isEmpty := by
  rw [Bool.eq_iff_iff]
  simp [hasKind, withKind]

/-- What is said of a kind is replaced as a whole. -/
theorem withKind_layer : withKind kind (layer a b) =
    if hasKind b kind then withKind kind b else withKind kind a := by
  have hsplit : withKind kind (layer a b) =
      (a.filter fun r => r.kind = kind ∧ hasKind b kind = false) ++ withKind kind b := by
    rw [layer_eq, withKind, List.filter_append, List.filter_filter]
    refine congrArg (· ++ _) (List.filter_congr fun r _ => ?_)
    by_cases hr : r.kind = kind <;> simp [hr]
  rw [hsplit]
  cases hb : hasKind b kind with
  | true => simp
  | false =>
    have hnone : withKind kind b = [] := by simpa [hasKind_eq] using hb
    rw [hnone, List.append_nil]
    simp [withKind]

theorem hasKind_layer : hasKind (layer a b) kind = (hasKind a kind || hasKind b kind) := by
  rw [hasKind_eq, withKind_layer]
  cases hb : hasKind b kind with
  | true => simpa [hasKind_eq] using hb
  | false => simp [hasKind_eq]

theorem layer_nil (a : List Restriction) : layer a [] = a := by simp [layer]

theorem nil_layer (a : List Restriction) : layer [] a = a := by simp [layer]

theorem layer_assoc (a b c : List Restriction) :
    layer (layer a b) c = layer a (layer b c) := by
  rw [layer_eq a b, layer_eq _ c, layer_eq a, layer_eq b c, List.filter_append, List.filter_filter,
    List.append_assoc, ← layer_eq b c]
  simp only [hasKind_layer, Bool.not_or, Bool.and_comm]

instance : Std.Associative layer := ⟨layer_assoc⟩

/-! ## A chain of layers -/

theorem stacked_concat : stacked (chain ++ [a]) = layer (stacked chain) a := by
  rw [stacked, List.foldl_append]
  rfl

theorem stacked_append (chain later : List (List Restriction)) :
    stacked (chain ++ later) = layer (stacked chain) (stacked later) := by
  have hfold : later.foldl layer (layer (stacked chain) []) =
      layer (stacked chain) (stacked later) := List.foldl_assoc
  rw [stacked, List.foldl_append, ← hfold, layer_nil]
  rfl

theorem stacked_cons : stacked (a :: later) = layer a (stacked later) := by
  rw [← List.singleton_append, stacked_append]
  exact congrArg (layer · _) (nil_layer a)

theorem hasKind_stacked : hasKind (stacked chain) kind = chain.any (hasKind · kind) := by
  induction chain with
  | nil => rfl
  | cons a later ih => rw [stacked_cons, hasKind_layer, ih, List.any_cons]

/-- Layers that are put together in groups make what they make one after the other. -/
theorem Grouping.stacked_eq (g : Grouping) : g.stacked = XmlTypes.stacked g.chain := by
  induction g with
  | none => rfl
  | one restrictions => exact (nil_layer restrictions).symm
  | join inherited derived ihi ihd => rw [stacked, chain, stacked_append, ihi, ihd]

/-- Of each kind there is what the last layer with that kind says. -/
theorem withKind_stacked : withKind kind (stacked chain) =
    (chain.reverse.find? (hasKind · kind)).elim [] (withKind kind) := by
  induction chain using List.reverseRecOn with
  | nil => rfl
  | append_singleton chain a ih =>
    rw [stacked_concat, withKind_layer, ih, List.reverse_append, List.reverse_singleton,
      List.singleton_append, List.find?_cons]
    cases hasKind a kind <;> rfl

/-- The layers stand in the order of the chain, each without the kinds that a later one has. -/
theorem stacked_eq_flatten : stacked chain = (uncovered chain).flatten := by
  induction chain with
  | nil => rfl
  | cons a later ih =>
    rw [stacked_cons, layer_eq, uncovered, List.flatten_cons, ← ih]
    simp only [hasKind_stacked]

/-- Layering is a monoid, so layers can be put together in any groups. Of each kind there is, all of
it and in its order, what the last layer with that kind says, and the layers stand in the order of
the chain. -/
theorem layering_laws :
    (∀ a b c, layer (layer a b) c = layer a (layer b c)) ∧
      (∀ a, layer [] a = a ∧ layer a [] = a) ∧
      (∀ g : Grouping, g.stacked = stacked g.chain) ∧
      ∀ chain, stacked chain = (uncovered chain).flatten ∧
        ∀ kind, withKind kind (stacked chain) =
          (chain.reverse.find? (hasKind · kind)).elim [] (withKind kind) :=
  ⟨layer_assoc, fun a => ⟨nil_layer a, layer_nil a⟩, Grouping.stacked_eq,
    fun _ => ⟨stacked_eq_flatten, fun _ => withKind_stacked⟩⟩

/-! ## Derivations -/

/-- A type that derives in several steps, none of which makes it an enumeration, has the
restrictions of all steps at once over those that it starts with. -/
theorem Build.restrict_steps {mode : AnnotationMode} {type : Primitive} {isList : Bool}
    {steps : List (List Facet)}
    (h : ∀ facets ∈ steps, isList = true ∨ ¬ MakesEnumeration type facets)
    (inherited : List Restriction) :
    steps.foldl (Classification.restrict mode) (.value type inherited isList) =
      .value type (layer inherited (stacked (steps.map (restrictionsOf · type mode)))) isList := by
  induction steps generalizing inherited with
  | nil => rw [List.foldl_nil, List.map_nil, stacked, List.foldl_nil, layer_nil]
  | cons facets steps ih =>
    have hfirst := h facets List.mem_cons_self
    have hrest := ih fun later hlater => h later (List.mem_cons_of_mem _ hlater)
    rw [List.foldl_cons, Classification.restrict_of_values hfirst, hrest, List.map_cons,
      stacked_cons, layer_assoc]

end XmlTypes
