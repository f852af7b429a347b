import Mathlib.Data.List.Forall2
import XmlTypes.Graph.Basic
/-!
# Shadowed namespaces

A dotted name is taken apart at its points. A name is nested in another one if it has all segments
of that and more behind them, and it shadows that one if the first segment is among those again
(`Shadows`). Names are compared as texts. That comes to the same (`shadows_iff`), since a text that
goes on with a point behind another one has the segments of that text, empty ones included. So the
flags are set of the shadowed namespaces and of no others, and the order in which namespaces were
created does not matter (`ambiguous_iff_shadowed`).
-/

namespace XmlTypes

/-! ## Segments -/

namespace Text

theorem splitOn_eq (p : Char → Bool) (cs : List Char) : splitOn p cs = cs.splitOnP p := by
  induction cs with
  | nil => rfl
  | cons c cs ih =>
    obtain ⟨s, ss, hss⟩ := List.exists_cons_of_ne_nil (List.splitOnP_ne_nil p cs)
    rw [List.splitOnP_cons_eq_if_modifyHead, splitOn, ih, hss]
    rfl

theorem dropHead?_eq_some_iff {head cs rest : List Char} :
    dropHead? head cs = some rest ↔ cs = head ++ rest := by
  induction head generalizing cs with
  | nil => simp [dropHead?]
  | cons h head ih =>
    cases cs with
    | nil => simp [dropHead?]
    | cons c cs =>
      by_cases hc : h = c
      · simp [dropHead?, hc, ih]
      · simp [dropHead?, hc, Ne.symm hc]

end Text

/-- The segments of a name are what stands between its points. -/
def segments (name : String) : List (List Char) := name.toList.splitOn '.'

/-- The name `inner` is nested in `outer`, and among the segments that it has behind those of
`outer` is the first one of `outer` again. -/
def Shadows (inner outer : String) : Prop :=
  ∃ rest, rest ≠ [] ∧ segments inner = segments outer ++ rest ∧
    ∃ first ∈ rest, (segments outer).head? = some first

theorem dottedSegments_eq (cs : List Char) : dottedSegments cs = cs.splitOn '.' := by
  rw [dottedSegments, Text.splitOn_eq, List.splitOn_eq_splitOnP]
  rfl

theorem intercalate_append (c : Char) {front back : List (List Char)} (hfront : front ≠ [])
    (hback : back ≠ []) :
    [c].intercalate (front ++ back) = [c].intercalate front ++ c :: [c].intercalate back := by
  induction front with
  | nil => exact absurd rfl hfront
  | cons s front ih =>
    by_cases hnil : front = []
    · subst hnil
      simp [List.intercalate_cons_of_ne_nil hback]
    · have hne : front ++ back ≠ [] := by simp [hnil]
      rw [List.cons_append, List.intercalate_cons_of_ne_nil hne, ih hnil,
        List.intercalate_cons_of_ne_nil hnil]
      simp only [List.append_assoc]

/-- A text has the segments of another one and more behind them exactly if it goes on behind that
text with a point. -/
theorem splitOn_eq_append_iff {inner outer : List Char} {rest : List (List Char)} :
    rest ≠ [] ∧ inner.splitOn '.' = outer.splitOn '.' ++ rest ↔
      ∃ behind : List Char, inner = outer ++ '.' :: behind ∧ rest = behind.splitOn '.' := by
  constructor
  · rintro ⟨hne, hsegments⟩
    have hinner : inner = outer ++ '.' :: ['.'].intercalate rest :=
      calc inner = ['.'].intercalate (inner.splitOn '.') := (List.intercalate_splitOn '.').symm
        _ = ['.'].intercalate (outer.splitOn '.' ++ rest) := by rw [hsegments]
        _ = ['.'].intercalate (outer.splitOn '.') ++ '.' :: ['.'].intercalate rest :=
          intercalate_append '.' (List.splitOn_ne_nil '.' outer) hne
        _ = outer ++ '.' :: ['.'].intercalate rest := by rw [List.intercalate_splitOn]
    refine ⟨['.'].intercalate rest, hinner, ?_⟩
    rw [hinner, List.splitOn_append_cons_self] at hsegments
    exact (List.append_cancel_left hsegments).symm
  · rintro ⟨behind, rfl, rfl⟩
    exact ⟨List.splitOn_ne_nil '.' behind, List.splitOn_append_cons_self outer behind⟩

/-- Comparing texts tells which names shadow one another by their segments. -/
theorem shadows_iff {outer inner : String} : shadows outer inner = true ↔ Shadows inner outer := by
  obtain ⟨first, others, hfirst⟩ :=
    List.exists_cons_of_ne_nil (List.splitOn_ne_nil '.' outer.toList)
  have hhead : (segments outer).head? = some first := by rw [segments, hfirst]; rfl
  constructor
  · intro h
    unfold shadows at h
    split at h
    · cases h
    · rename_i behind hbehind
      rw [Text.dropHead?_eq_some_iff, List.append_assoc] at hbehind
      obtain ⟨hne, hsegments⟩ := splitOn_eq_append_iff.2 ⟨behind, hbehind, rfl⟩
      rw [dottedSegments_eq, dottedSegments_eq, hfirst] at h
      exact ⟨_, hne, hsegments, first, by simpa using h, hhead⟩
  · rintro ⟨rest, hne, hsegments, first', hmem, hhead'⟩
    obtain rfl : first = first' := Option.some.inj (hhead.symm.trans hhead')
    obtain ⟨behind, hinner, rfl⟩ := splitOn_eq_append_iff.1 ⟨hne, hsegments⟩
    have hdrop : Text.dropHead? (outer.toList ++ ['.']) inner.toList = some behind := by
      rw [Text.dropHead?_eq_some_iff, List.append_assoc]
      exact hinner
    simp only [shadows, hdrop, dottedSegments_eq, hfirst]
    simpa using hmem

theorem isShadowed_iff {names : List String} {outer : String} :
    isShadowed names outer = true ↔ ∃ inner ∈ names, Shadows inner outer := by
  rw [isShadowed, List.any_eq_true]
  exact exists_congr fun inner => and_congr_right fun _ => shadows_iff

/-! ## Marking -/

namespace Graph

/-- What marking makes of the entry `e` of a namespace, among namespaces of the given names: the
flag is set if the namespace is shadowed, and it stays where it was set before. -/
structure MarkedAs (names : List String) (e marked : String × Namespace) : Prop where
  name : marked.1 = e.1
  key : marked.2.key = e.2.key
  types : marked.2.types = e.2.types
  flag : marked.2.isAmbiguous = true ↔
    e.2.isAmbiguous = true ∨ ∃ inner ∈ names, Shadows inner e.1

/-- The entry of a namespace, marked among namespaces of the given names. -/
def markEntry (names : List String) (e : String × Namespace) : String × Namespace :=
  (e.1, { e.2 with isAmbiguous := e.2.isAmbiguous || isShadowed names e.1 })

theorem markEntry_markedAs (names : List String) (e : String × Namespace) :
    MarkedAs names e (markEntry names e) where
  name := rfl
  key := rfl
  types := rfl
  flag := by rw [← isShadowed_iff, ← Bool.or_eq_true]; rfl

theorem entries_markAmbiguous (g : Graph) : g.markAmbiguous.namespaces.entries =
    g.namespaces.entries.map (markEntry g.namespaces.keys) := rfl

theorem isShadowed_of_perm {names names' : List String} (h : names'.Perm names) (outer : String) :
    isShadowed names' outer = isShadowed names outer := by
  rw [Bool.eq_iff_iff, isShadowed_iff, isShadowed_iff]
  exact exists_congr fun inner => and_congr_left fun _ => h.mem_iff

/-- Namespaces that were created in another order are marked alike. -/
theorem perm_markAmbiguous {g g' : Graph}
    (h : g'.namespaces.entries.Perm g.namespaces.entries) :
    g'.markAmbiguous.namespaces.entries.Perm g.markAmbiguous.namespaces.entries := by
  have hkeys : g'.namespaces.keys.Perm g.namespaces.keys := h.map Prod.fst
  have hmark : markEntry g'.namespaces.keys = markEntry g.namespaces.keys := by
    funext e
    simp only [markEntry, isShadowed_of_perm hkeys]
  rw [entries_markAmbiguous, entries_markAmbiguous, hmark]
  exact h.map _

/-- A namespace is flagged if and only if it was so before or one of the namespaces shadows it.
Nothing else changes, and the order of the namespaces does not matter. -/
theorem ambiguous_iff_shadowed (g : Graph) :
    g.markAmbiguous.nodes = g.nodes ∧
      List.Forall₂ (MarkedAs g.namespaces.keys) g.namespaces.entries
        g.markAmbiguous.namespaces.entries ∧
      ∀ g' : Graph, g'.namespaces.entries.Perm g.namespaces.entries →
        g'.markAmbiguous.namespaces.entries.Perm g.markAmbiguous.namespaces.entries := by
  refine ⟨rfl, ?_, fun g' => perm_markAmbiguous⟩
  rw [entries_markAmbiguous, List.forall₂_map_right_iff, List.forall₂_same]
  exact fun e _ => markEntry_markedAs _ e

/-- Namespaces of the given names, created one after the other. -/
def ofNames (names : List String) : Graph :=
  names.foldl (fun g name => g.ensureNamespace name default) {}

/-- Nested and only similar names, some of them with empty segments. -/
def acme : Graph := ofNames ["Acme", "Acme.Billing.Acme", "Acme.Shipping", "Acm", "", ".", ".."]

theorem ambiguous_iff_shadowed_acme :
    let g' := ofNames ["..", ".", "", "Acm", "Acme.Shipping", "Acme.Billing.Acme", "Acme"]
    g'.namespaces.entries.Perm acme.namespaces.entries ∧
      g'.markAmbiguous.namespaces.entries.Perm acme.markAmbiguous.namespaces.entries ∧
      acme.markAmbiguous.namespaces.entries.map (fun e => (e.1, e.2.isAmbiguous)) =
        [("Acme", true), ("Acme.Billing.Acme", false), ("Acme.Shipping", false), ("Acm", false),
          ("", true), (".", true), ("..", false)] := by
  intro g'
  have hperm : g'.namespaces.entries.Perm acme.namespaces.entries := by decide
  exact ⟨hperm, (ambiguous_iff_shadowed acme).2.2 g' hperm, by decide⟩

end Graph

end XmlTypes
