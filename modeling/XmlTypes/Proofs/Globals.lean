import Mathlib.Data.List.Nodup
import XmlTypes.Build.Basic
import XmlTypes.Proofs.Declarations
import XmlTypes.Proofs.Runs
/-!
# Global declarations one after the other

A construction walks the documents, and in each of them the types and then the elements. What it
builds is one list of global declarations (`documents_eq`), on which each one that counts stands
once. So what a construction keeps is told by what it keeps for one declaration.
-/

namespace XmlTypes.Build

open Schema

/-! ## Lists of lists -/

section
variable {α β : Type}

theorem forM_append (f : α → Build Unit) (xs ys : List α) :
    (xs ++ ys).forM f = (do xs.forM f; ys.forM f) := by
  simp only [forM_eq, List.foldlM_append]

theorem forM_flatMap (f : β → Build Unit) (parts : α → List β) (xs : List α) :
    (xs.flatMap parts).forM f = xs.forM fun x => (parts x).forM f := by
  induction xs with
  | nil => rfl
  | cons x xs ih =>
    rw [List.flatMap_cons, forM_append, ih]
    rfl

theorem forM_filterMap (f : β → Build Unit) (part : α → Option β) (xs : List α) :
    (xs.filterMap part).forM f = xs.forM fun x =>
      match part x with
      | none => return
      | some y => f y := by
  induction xs with
  | nil => rfl
  | cons x xs ih =>
    change _ = do
      (match part x with
      | none => return
      | some y => f y)
      xs.forM fun x => match part x with
        | none => return
        | some y => f y
    rw [← ih, List.filterMap_cons]
    cases part x with
    | none => rw [pure_bind]
    | some y => rfl

end

/-! ## The list of global declarations -/

/-- A global declaration that is built: the type of a name, or an element. -/
inductive Task
  | type (name : QName) (g : Global TypeDefinition)
  | element (g : Global ElementDecl)

/-- Builds the declaration. -/
def Task.run (env : Environment) : Task → Build Unit
  | .type _ g => do
    let _ ← globalType env.calls env g
    return
  | .element g => topLevelElement env (.ofGlobal .elements g)

/-- The declaration is the one that counts for its name. -/
def Task.Counts (ix : Index) : Task → Prop
  | .type name g => ix.type? name = some g ∧ g.definition.name = some name
  | .element g => ix.element? g.definition.name = some g

/-- The type at a place in a document, if it counts. -/
def typeTask (ix : Index) (doc : Document) (d : Nat) (x : TypeDefinition × Nat) : Option Task :=
  x.1.name.bind fun name =>
    if ix.types.get? name = some ⟨d, x.2⟩ then some (.type name ⟨x.1, doc, ⟨d, x.2⟩⟩) else none

/-- The element at a place in a document, if it counts. -/
def elementTask (ix : Index) (doc : Document) (d : Nat) (x : ElementDecl × Nat) : Option Task :=
  if ix.elements.get? x.1.name = some ⟨d, x.2⟩ then some (.element ⟨x.1, doc, ⟨d, x.2⟩⟩) else none

/-- The global declarations of a document that count: types first. -/
def documentTasks (ix : Index) (d : Nat) : List Task :=
  match ix.documents[d]? with
  | none => []
  | some doc =>
    doc.types.zipIdx.filterMap (typeTask ix doc d) ++
      doc.elements.zipIdx.filterMap (elementTask ix doc d)

/-- The global declarations that count, in the order in which they are built. -/
def tasks (ix : Index) : List Task := ix.buildOrder.flatMap (documentTasks ix)

/-- A construction builds the global declarations that count one after the other. -/
theorem documents_eq (env : Environment) :
    documents env = (tasks env.index).forM (Task.run env) := by
  unfold documents tasks
  rw [forM_flatMap]
  congr 1
  funext d
  unfold document documentTasks
  cases env.index.documents[d]? with
  | none => rfl
  | some doc =>
    dsimp only
    rw [forM_append, forM_filterMap, forM_filterMap, documentTypes, documentElements]
    congr 2
    · funext x
      obtain ⟨type, i⟩ := x
      cases hname : type.name with
      | none => simp only [typeTask, hname, Option.bind_none]
      | some name =>
        by_cases hslot : env.index.types.get? name = some ⟨d, i⟩
        · simp only [typeTask, hname, Option.bind_some, if_pos hslot]
          rfl
        · simp only [typeTask, hname, Option.bind_some, if_neg hslot]
    · funext _
      congr 1
      funext x
      obtain ⟨e, i⟩ := x
      by_cases hslot : env.index.elements.get? e.name = some ⟨d, i⟩
      · simp only [elementTask, if_pos hslot]
        rfl
      · simp only [elementTask, if_neg hslot]

theorem run_eq_map (env : Environment) (resolver : Resolver) :
    run env resolver = (documents env { resolver }).map fun r => r.2 := by
  change (documents env { resolver } >>= _) = _
  cases documents env { resolver } <;> rfl

theorem run_eq {env : Environment} {resolver : Resolver} {s : State}
    (h : run env resolver = .ok s) :
    (tasks env.index).forM (Task.run env) { resolver } = .ok ((), s) := by
  rw [← documents_eq]
  rw [run_eq_map] at h
  cases hd : documents env { resolver } with
  | error e =>
    rw [hd] at h
    cases h
  | ok x =>
    rw [hd] at h
    obtain rfl := Except.ok.inj h
    rfl

/-! ## Each declaration once -/

variable {ix : Index}

theorem typeTask_eq_some {doc : Document} {d i : Nat} {t : TypeDefinition} {x : Task} :
    typeTask ix doc d (t, i) = some x ↔ ∃ name, t.name = some name ∧
      ix.types.get? name = some ⟨d, i⟩ ∧ x = .type name ⟨t, doc, ⟨d, i⟩⟩ := by
  simp only [typeTask, Option.bind_eq_some_iff, Option.ite_none_right_eq_some, Option.some.injEq]
  grind

theorem elementTask_eq_some {doc : Document} {d i : Nat} {e : ElementDecl} {x : Task} :
    elementTask ix doc d (e, i) = some x ↔
      ix.elements.get? e.name = some ⟨d, i⟩ ∧ x = .element ⟨e, doc, ⟨d, i⟩⟩ := by
  simp only [elementTask, Option.ite_none_right_eq_some, Option.some.injEq]
  grind

/-- Exactly the declarations that count are built. -/
theorem mem_tasks_iff {x : Task} : x ∈ tasks ix ↔ x.Counts ix := by
  simp only [tasks, List.mem_flatMap, documentTasks]
  constructor
  · rintro ⟨d, -, hx⟩
    split at hx
    · cases hx
    rename_i doc hdoc
    rcases List.mem_append.1 hx with hx | hx <;> obtain ⟨⟨y, i⟩, hy, hx⟩ := List.mem_filterMap.1 hx
    · obtain ⟨name, hname, hslot, rfl⟩ := typeTask_eq_some.1 hx
      exact ⟨Index.type?_of_slot hslot hdoc (List.mk_mem_zipIdx_iff_getElem?.1 hy), hname⟩
    · obtain ⟨hslot, rfl⟩ := elementTask_eq_some.1 hx
      exact Index.element?_of_slot hslot hdoc (List.mk_mem_zipIdx_iff_getElem?.1 hy)
  · intro hx
    cases x with
    | type name g =>
      obtain ⟨hslot, hdoc, hitem⟩ := Index.slot_of_found hx.1
      refine ⟨g.slot.document, Index.mem_buildOrder (List.getElem?_eq_some_iff.1 hdoc).1, ?_⟩
      simp only [hdoc]
      refine List.mem_append_left _ (List.mem_filterMap.2 ⟨(g.definition, g.slot.item), ?_, ?_⟩)
      · exact List.mk_mem_zipIdx_iff_getElem?.2 hitem
      · exact typeTask_eq_some.2 ⟨name, hx.2, hslot, rfl⟩
    | element g =>
      obtain ⟨hslot, hdoc, hitem⟩ := Index.slot_of_found hx
      refine ⟨g.slot.document, Index.mem_buildOrder (List.getElem?_eq_some_iff.1 hdoc).1, ?_⟩
      simp only [hdoc]
      refine List.mem_append_right _ (List.mem_filterMap.2 ⟨(g.definition, g.slot.item), ?_, ?_⟩)
      · exact List.mk_mem_zipIdx_iff_getElem?.2 hitem
      · exact elementTask_eq_some.2 ⟨hslot, rfl⟩

/-- Where the declaration stands. -/
def Task.slot : Task → Slot
  | .type _ g => g.slot
  | .element g => g.slot

theorem nodup_zipIdx {α : Type} (xs : List α) : xs.zipIdx.Nodup := by
  refine List.Nodup.of_map Prod.snd ?_
  rw [List.zipIdx_map_snd]
  exact List.nodup_range'

theorem nodup_tasks (ix : Index) : (tasks ix).Nodup := by
  have hdocument {d : Nat} {x : Task} (hx : x ∈ documentTasks ix d) : x.slot.document = d := by
    unfold documentTasks at hx
    split at hx
    · cases hx
    rcases List.mem_append.1 hx with hx | hx <;> obtain ⟨⟨y, i⟩, -, hx⟩ := List.mem_filterMap.1 hx
    · obtain ⟨name, -, -, rfl⟩ := typeTask_eq_some.1 hx
      rfl
    · obtain ⟨-, rfl⟩ := elementTask_eq_some.1 hx
      rfl
  refine List.nodup_flatMap.2 ⟨fun d _ => ?_, (Index.nodup_buildOrder ix).imp fun hne => ?_⟩
  · unfold documentTasks
    split
    · exact List.nodup_nil
    refine List.Nodup.append (.filterMap ?_ (nodup_zipIdx _)) (.filterMap ?_ (nodup_zipIdx _)) ?_
    · rintro ⟨t, i⟩ ⟨t', i'⟩ x hx hx'
      obtain ⟨name, -, -, rfl⟩ := typeTask_eq_some.1 hx
      obtain ⟨name', -, -, he⟩ := typeTask_eq_some.1 hx'
      cases he
      rfl
    · rintro ⟨e, i⟩ ⟨e', i'⟩ x hx hx'
      obtain ⟨-, rfl⟩ := elementTask_eq_some.1 hx
      obtain ⟨-, he⟩ := elementTask_eq_some.1 hx'
      cases he
      rfl
    · intro x hx hx'
      obtain ⟨⟨t, i⟩, -, hx⟩ := List.mem_filterMap.1 hx
      obtain ⟨⟨e, i'⟩, -, hx'⟩ := List.mem_filterMap.1 hx'
      obtain ⟨name, -, -, rfl⟩ := typeTask_eq_some.1 hx
      obtain ⟨-, he⟩ := elementTask_eq_some.1 hx'
      cases he
  · intro x hx hx'
    exact hne ((hdocument hx).symm.trans (hdocument hx'))

end XmlTypes.Build
