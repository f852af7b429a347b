import Mathlib.Logic.Relation
import XmlTypes.Build.Substitutions
import XmlTypes.Proofs.Mirroring
/-!
# Who may stand in for a head

The search for substitutes follows members of members. Each element is met once, also where groups
are members of one another, so that the search comes to an end (`Substitutions.exists_follows`), and
what is found is everything that is reached and not abstract (`Substitutions.substitutesOf_spec`).
-/

namespace XmlTypes.Build

open Relation

namespace Substitutions

variable {registry : Substitutions}

/-- `n` is a registered member of the group of `head`. -/
def Member (registry : Substitutions) (head n : QName) : Prop :=
  ∃ x ∈ registry.membersOf head, x.member = n

/-- Marks a member as met, and as found unless it is abstract. -/
def Search.meet (r : Search) (registry : Substitutions) (m : Substitute) : Search where
  met := m.member :: r.met
  found := if registry.abstractMembers.contains m.member then r.found else r.found ++ [m]

namespace Search

variable {m : Substitute} {r : Search}

theorem mem_found_meet {x : Substitute} : x ∈ (r.meet registry m).found ↔
    x ∈ r.found ∨ x = m ∧ m.member ∉ registry.abstractMembers := by
  simp only [meet, List.contains_iff_mem]
  split <;> simp_all

/-- A member that was not met before is not found a second time. -/
theorem nodup_found_meet (hnew : m.member ∉ r.met) (hr : ∀ x ∈ r.found, x.member ∈ r.met)
    (hn : (r.found.map (·.member)).Nodup) :
    ((r.meet registry m).found.map (·.member)).Nodup := by
  simp only [meet]
  split
  · exact hn
  · rw [List.map_append, List.nodup_append]
    refine ⟨hn, List.nodup_singleton _, fun a ha b hb => ?_⟩
    obtain ⟨x, hx, rfl⟩ := List.mem_map.1 ha
    obtain rfl := List.mem_singleton.1 hb
    intro (e : x.member = m.member)
    exact hnew (e ▸ hr x hx)

end Search

/-! ## The search ends -/

/-- The number of registered members that are not met. -/
def unmet (registry : Substitutions) (r : Search) : Nat :=
  registry.members.values.flatten.countP fun x => x.member ∉ r.met

theorem mem_values {head : QName} {m : Substitute} (h : m ∈ registry.membersOf head) :
    m ∈ registry.members.values.flatten := by
  unfold membersOf at h
  cases hms : registry.members.get? head with
  | none => simp [hms] at h
  | some ms =>
    rw [hms, Option.getD_some] at h
    exact List.mem_flatten.2 ⟨ms, Table.mem_values_of_get? hms, h⟩

theorem unmet_le {r r' : Search} (h : r.met ⊆ r'.met) : registry.unmet r' ≤ registry.unmet r := by
  refine List.countP_mono_left fun x _ hx => ?_
  simp only [decide_eq_true_eq] at hx ⊢
  exact fun hr => hx (h hr)

theorem unmet_lt {r r' : Search} (h : r.met ⊆ r'.met) {head : QName} {m : Substitute}
    (hm : m ∈ registry.membersOf head) (hnew : m.member ∉ r.met) (hmet : m.member ∈ r'.met) :
    registry.unmet r' < registry.unmet r := by
  refine countP_lt (fun x _ hx => ?_) (mem_values hm) (by simpa using hnew) (by simpa using hmet)
  simp only [decide_eq_true_eq] at hx ⊢
  exact fun hr => hx (h hr)

/-- To follow these members one after the other, the members of each new one before the next, leads
from `r` to `r'` in finitely many steps. -/
inductive Follows (registry : Substitutions) : List Substitute → Search → Search → Prop
  | nil (r : Search) : Follows registry [] r r
  | old {m : Substitute} {ms : List Substitute} {r r' : Search} (hold : m.member ∈ r.met)
    (hrest : Follows registry ms r r') : Follows registry (m :: ms) r r'
  | new {m : Substitute} {ms : List Substitute} {r r₁ r₂ : Search} (hnew : m.member ∉ r.met)
    (hbelow : Follows registry (registry.membersOf m.member) (r.meet registry m) r₁)
    (hrest : Follows registry ms r₁ r₂) : Follows registry (m :: ms) r r₂

namespace Follows

variable {ms : List Substitute} {r r' r'' : Search}

theorem met (h : registry.Follows ms r r') : r.met ⊆ r'.met := by
  induction h with
  | nil => exact List.Subset.refl _
  | old _ _ ih => exact ih
  | new _ _ _ ihbelow ihrest =>
    exact List.Subset.trans (List.subset_cons_self _ _) (List.Subset.trans ihbelow ihrest)

/-- Where it leads is determined. -/
theorem unique (h : registry.Follows ms r r') (h' : registry.Follows ms r r'') : r' = r'' := by
  induction h generalizing r'' with
  | nil =>
    cases h'
    rfl
  | old hold _ ih =>
    cases h' with
    | old _ hrest => exact ih hrest
    | new hnew => exact absurd hold hnew
  | new hnew _ _ ihbelow ihrest =>
    cases h' with
    | old hold => exact absurd hold hnew
    | new _ hbelow hrest =>
      obtain rfl := ihbelow hbelow
      exact ihrest hrest

end Follows

/-- What a search does with one member: what is below it is searched if it is new. -/
def visit (registry : Substitutions) (fuel : Nat) (r : Search) (m : Substitute) : Search :=
  if m.member ∈ r.met then r else registry.search fuel (r.meet registry m) m.member

theorem search_succ (fuel : Nat) (r : Search) (head : QName) :
    registry.search (fuel + 1) r head =
      (registry.membersOf head).foldl (registry.visit fuel) r := by
  rw [search]
  congr 1
  funext r m
  simp only [visit, Search.meet, List.contains_iff_mem]

/-- With fuel for all that is not met the search is followed to its end. -/
theorem search_follows (fuel : Nat) : ∀ (r : Search) (head : QName), registry.unmet r < fuel →
    registry.Follows (registry.membersOf head) r (registry.search fuel r head) := by
  induction fuel with
  | zero => exact fun _ _ h => absurd h (Nat.not_lt_zero _)
  | succ fuel ih =>
    intro r head hr
    have hall (ms : List Substitute) (hms : ms ⊆ registry.membersOf head) (r : Search)
        (hr : registry.unmet r ≤ fuel) :
        registry.Follows ms r (ms.foldl (registry.visit fuel) r) := by
      induction ms generalizing r with
      | nil => exact .nil r
      | cons m ms ihms =>
        have hm : m ∈ registry.membersOf head := hms List.mem_cons_self
        have hsub : ms ⊆ registry.membersOf head := List.subset_of_cons_subset hms
        rw [List.foldl_cons, visit]
        split
        · rename_i hold
          exact .old hold (ihms hsub r hr)
        · rename_i hnew
          have hmeet : r.met ⊆ (r.meet registry m).met := List.subset_cons_self _ _
          have hlt : registry.unmet (r.meet registry m) < fuel :=
            Nat.lt_of_lt_of_le (unmet_lt hmeet hm hnew List.mem_cons_self) hr
          have hbelow := ih (r.meet registry m) m.member hlt
          have hle := Nat.le_trans (unmet_le hbelow.met) (Nat.le_of_lt hlt)
          exact .new hnew hbelow (ihms hsub _ hle)
    rw [search_succ]
    exact hall _ (List.Subset.refl _) r (Nat.le_of_lt_succ hr)

/-- The search for substitutes has one end, and what it has found there are the substitutes. -/
theorem exists_follows (registry : Substitutions) (head : QName) :
    ∃ r, (∀ r', registry.Follows (registry.membersOf head) {} r' ↔ r' = r) ∧
      r.found = registry.substitutesOf head := by
  have hfuel : registry.unmet {} < registry.members.values.flatten.length + 1 :=
    Nat.lt_succ_of_le List.countP_le_length
  have hends := search_follows _ {} head hfuel
  refine ⟨_, fun r' => ⟨fun h => h.unique hends, ?_⟩, rfl⟩
  rintro rfl
  exact hends

/-! ## Only what is reached is found -/

/-- What a search below `head` adds to what is met and found: members that are reached and were
not met before, each found once unless it is abstract. -/
structure Finds (registry : Substitutions) (head : QName) (r r' : Search) : Prop where
  met : r.met ⊆ r'.met
  kept : r.found ⊆ r'.found
  reached : ∀ n ∈ r'.met, n ∈ r.met ∨ TransGen registry.Member head n ∧
    (n ∉ registry.abstractMembers → ∃ x ∈ r'.found, x.member = n)
  found : ∀ x ∈ r'.found, x ∈ r.found ∨ x.member ∈ r'.met ∧ x.member ∉ r.met ∧
    x.member ∉ registry.abstractMembers
  nodup : (∀ x ∈ r.found, x.member ∈ r.met) → (r.found.map (·.member)).Nodup →
    (r'.found.map (·.member)).Nodup

namespace Finds

variable {head : QName} {m : Substitute} {r r' r'' : Search}

theorem refl (r : Search) : registry.Finds head r r :=
  ⟨List.Subset.refl _, List.Subset.refl _, fun _ => .inl, fun _ => .inl, fun _ h => h⟩

theorem found_met (h : registry.Finds head r r') (hr : ∀ x ∈ r.found, x.member ∈ r.met) :
    ∀ x ∈ r'.found, x.member ∈ r'.met := by
  intro x hx
  rcases h.found x hx with hx | hx
  · exact h.met (hr x hx)
  · exact hx.1

theorem trans (h : registry.Finds head r r') (h' : registry.Finds head r' r'') :
    registry.Finds head r r'' where
  met := List.Subset.trans h.met h'.met
  kept := List.Subset.trans h.kept h'.kept
  reached n hn := by
    rcases h'.reached n hn with hn | hn
    · refine (h.reached n hn).imp_right fun ⟨hreach, hfound⟩ => ⟨hreach, fun ha => ?_⟩
      obtain ⟨x, hx, hname⟩ := hfound ha
      exact ⟨x, h'.kept hx, hname⟩
    · exact .inr hn
  found x hx := by
    rcases h'.found x hx with hx | ⟨hmet, hnot, ha⟩
    · exact (h.found x hx).imp_right fun ⟨hmet, hnot⟩ => ⟨h'.met hmet, hnot⟩
    · exact .inr ⟨hmet, fun hr => hnot (h.met hr), ha⟩
  nodup hr hn := h'.nodup (h.found_met hr) (h.nodup hr hn)

/-- What is found below a new member is found below its head, and the member too. -/
theorem meet (hm : m ∈ registry.membersOf head) (hnew : m.member ∉ r.met)
    (h : registry.Finds m.member (r.meet registry m) r') : registry.Finds head r r' := by
  have hhead : registry.Member head m.member := ⟨m, hm, rfl⟩
  refine ⟨fun n hn => h.met (List.mem_cons_of_mem _ hn),
    fun x hx => h.kept (Search.mem_found_meet.2 (.inl hx)), fun n hn => ?_, fun x hx => ?_,
    fun hr hn => h.nodup (fun x hx => ?_) (Search.nodup_found_meet hnew hr hn)⟩
  · rcases h.reached n hn with hn | ⟨hreach, hn⟩
    · rcases List.mem_cons.1 hn with rfl | hn
      · exact .inr ⟨.single hhead, fun ha =>
          ⟨m, h.kept (Search.mem_found_meet.2 (.inr ⟨rfl, ha⟩)), rfl⟩⟩
      · exact .inl hn
    · exact .inr ⟨.head hhead hreach, hn⟩
  · rcases h.found x hx with hx | ⟨hmet, hnot, ha⟩
    · rcases Search.mem_found_meet.1 hx with hx | ⟨rfl, ha⟩
      · exact .inl hx
      · exact .inr ⟨h.met List.mem_cons_self, hnew, ha⟩
    · exact .inr ⟨hmet, fun hr => hnot (List.mem_cons_of_mem _ hr), ha⟩
  · rcases Search.mem_found_meet.1 hx with hx | ⟨rfl, -⟩
    · exact List.mem_cons_of_mem _ (hr x hx)
    · exact List.mem_cons_self

end Finds

/-- What is found on the way is below the head of the members that are followed. -/
theorem Follows.finds {ms : List Substitute} {r r' : Search} (h : registry.Follows ms r r') :
    ∀ {head : QName}, ms ⊆ registry.membersOf head → registry.Finds head r r' := by
  induction h with
  | nil r => exact fun _ => .refl r
  | old _ _ ih => exact fun hms => ih (List.subset_of_cons_subset hms)
  | new hnew _ _ ihbelow ihrest =>
    intro head hms
    have hbelow := Finds.meet (hms List.mem_cons_self) hnew (ihbelow (List.Subset.refl _))
    exact hbelow.trans (ihrest (List.subset_of_cons_subset hms))

/-! ## Nothing is missed -/

/-- Everything new that is met has its own members met. -/
def ClosedFrom (registry : Substitutions) (r r' : Search) : Prop :=
  ∀ n ∈ r'.met, n ∈ r.met ∨ ∀ x ∈ registry.membersOf n, x.member ∈ r'.met

theorem ClosedFrom.trans {r r' r'' : Search} (h : registry.ClosedFrom r r')
    (h' : registry.ClosedFrom r' r'') (hmet : r'.met ⊆ r''.met) : registry.ClosedFrom r r'' := by
  intro n hn
  rcases h' n hn with hn | hn
  · exact (h n hn).imp_right fun hn x hx => hmet (hn x hx)
  · exact .inr hn

theorem ClosedFrom.refl (r : Search) : registry.ClosedFrom r r := fun _ => .inl

/-- The members `ms` were visited on the way from `r` to `r'`, and nothing below them was missed. -/
structure Exhausts (registry : Substitutions) (ms : List Substitute) (r r' : Search) : Prop where
  members : ∀ m ∈ ms, m.member ∈ r'.met
  closed : registry.ClosedFrom r r'

/-- What is new is met and searched. -/
theorem Follows.exhausts {ms : List Substitute} {r r' : Search} (h : registry.Follows ms r r') :
    registry.Exhausts ms r r' := by
  induction h with
  | nil r => exact ⟨nofun, .refl r⟩
  | old hold hrest ih =>
    refine ⟨fun x hx => ?_, ih.closed⟩
    rcases List.mem_cons.1 hx with rfl | hx
    · exact hrest.met hold
    · exact ih.members x hx
  | @new m ms r r₁ r₂ hnew hbelow hrest ihbelow ihrest =>
    have hmet : m.member ∈ r₁.met := hbelow.met List.mem_cons_self
    have hclosed : registry.ClosedFrom r r₁ := by
      intro n hn
      rcases ihbelow.closed n hn with hn | hn
      · rcases List.mem_cons.1 hn with rfl | hn
        · exact .inr ihbelow.members
        · exact .inl hn
      · exact .inr hn
    refine ⟨fun x hx => ?_, hclosed.trans ihrest.closed hrest.met⟩
    rcases List.mem_cons.1 hx with rfl | hx
    · exact hrest.met hmet
    · exact ihrest.members x hx

/-- The substitutes for a head are the members that are reached from it, each once, abstract ones
excepted. -/
theorem substitutesOf_spec (registry : Substitutions) (head : QName) :
    ((registry.substitutesOf head).map (·.member)).Nodup ∧
      ∀ n, (∃ x ∈ registry.substitutesOf head, x.member = n) ↔
        TransGen registry.Member head n ∧ n ∉ registry.abstractMembers := by
  obtain ⟨r, hr, hfound⟩ := registry.exists_follows head
  have hfollows : registry.Follows (registry.membersOf head) {} r := (hr r).2 rfl
  have hfinds : registry.Finds head {} r := hfollows.finds (List.Subset.refl _)
  obtain ⟨hmembers, hclosed⟩ := hfollows.exhausts
  rw [← hfound]
  refine ⟨hfinds.nodup nofun List.nodup_nil, fun n => ⟨?_, ?_⟩⟩
  · rintro ⟨x, hx, rfl⟩
    obtain ⟨hmet, -, ha⟩ := (hfinds.found x hx).resolve_left nofun
    exact ⟨((hfinds.reached _ hmet).resolve_left nofun).1, ha⟩
  · rintro ⟨hreach, ha⟩
    have hmet : n ∈ r.met := by
      clear ha
      induction hreach with
      | single h =>
        obtain ⟨x, hx, rfl⟩ := h
        exact hmembers x hx
      | tail _ h ih =>
        obtain ⟨x, hx, rfl⟩ := h
        exact (hclosed _ ih).resolve_left nofun x hx
    exact ((hfinds.reached n hmet).resolve_left nofun).2 ha

end Substitutions

end XmlTypes.Build
