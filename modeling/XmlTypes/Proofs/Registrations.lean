import XmlTypes.Proofs.Registering
import XmlTypes.Proofs.SubstitutionGroups
/-!
# Registrations and what is found after them

Members are registered one after the other, under several heads, several times or in a circle. The
search for what may stand in for a head ends all the same, since it follows no element twice, and it
finds what can be reached along the registrations, in whatever order they were made.
-/

namespace XmlTypes.Build

open Relation

namespace Substitutions

variable {registry : Substitutions}

/-- What is found in addition is registered with somebody. -/
theorem Follows.mem_found {ms : List Substitute} {r r' : Search} (h : registry.Follows ms r r')
    (hms : ∀ m ∈ ms, ∃ head, m ∈ registry.membersOf head) {x : Substitute} (hx : x ∈ r'.found) :
    x ∈ r.found ∨ ∃ head, x ∈ registry.membersOf head := by
  induction h with
  | nil => exact .inl hx
  | old _ _ ih => exact ih (fun m hm => hms m (List.mem_cons_of_mem _ hm)) hx
  | @new m ms r r₁ r₂ _ _ _ ihbelow ihrest =>
    rcases ihrest (fun m hm => hms m (List.mem_cons_of_mem _ hm)) hx with hx | hx
    · rcases ihbelow (fun m' hm' => ⟨_, hm'⟩) hx with hx | hx
      · rcases Search.mem_found_meet.1 hx with hx | ⟨rfl, -⟩
        · exact .inl hx
        · exact .inr (hms x List.mem_cons_self)
      · exact .inr hx
    · exact .inr hx

theorem mem_membersOf_of_mem_substitutesOf {head : QName} {x : Substitute}
    (hx : x ∈ registry.substitutesOf head) : ∃ head', x ∈ registry.membersOf head' := by
  obtain ⟨r, hends, hfound⟩ := registry.exists_follows head
  rw [← hfound] at hx
  exact (((hends r).2 rfl).mem_found (fun m hm => ⟨head, hm⟩) hx).resolve_left nofun

/-! ## Registrations -/

/-- Members, each with whether it is abstract, registered one after the other. -/
def registerAll (registrations : List (Substitute × Bool)) : Substitutions :=
  registrations.foldl (fun s x => s.register x.1 x.2) {}

/-- `n` is registered with `head`. -/
def RegisteredWith (registrations : List (Substitute × Bool)) (head n : QName) : Prop :=
  ∃ x ∈ registrations, x.1.head = head ∧ x.1.member = n

/-- `n` is registered as abstract at least once. -/
def RegisteredAbstract (registrations : List (Substitute × Bool)) (n : QName) : Prop :=
  ∃ x ∈ registrations, x.1.member = n ∧ x.2 = true

/-- The registry holds what was registered. -/
structure Holds (registry : Substitutions) (registrations : List (Substitute × Bool)) : Prop where
  member : ∀ head n, registry.Member head n ↔ RegisteredWith registrations head n
  abstract : ∀ n, n ∈ registry.abstractMembers ↔ RegisteredAbstract registrations n
  given : ∀ head, ∀ x ∈ registry.membersOf head, ∃ isAbstract, (x, isAbstract) ∈ registrations

theorem registeredWith_concat {registrations : List (Substitute × Bool)} {x : Substitute × Bool}
    {head n : QName} : RegisteredWith (registrations ++ [x]) head n ↔
      RegisteredWith registrations head n ∨ x.1.head = head ∧ x.1.member = n := by
  simp [RegisteredWith, or_and_right, exists_or]

theorem registeredAbstract_concat {registrations : List (Substitute × Bool)}
    {x : Substitute × Bool} {n : QName} : RegisteredAbstract (registrations ++ [x]) n ↔
      RegisteredAbstract registrations n ∨ x.1.member = n ∧ x.2 = true := by
  simp [RegisteredAbstract, or_and_right, exists_or]

/-- A second registration with one head adds no member, and none is lost. -/
theorem member_register {x : Substitute} {isAbstract : Bool} {head n : QName} :
    (registry.register x isAbstract).Member head n ↔
      registry.Member head n ∨ x.head = head ∧ x.member = n := by
  unfold Member
  rw [membersOf_register]
  split
  · rename_i hnew
    obtain ⟨rfl, -⟩ := hnew
    simp [or_and_right, exists_or]
  · rename_i hold
    constructor
    · exact .inl
    · rintro (h | ⟨rfl, rfl⟩)
      · exact h
      · simpa using hold

theorem Holds.register {registrations : List (Substitute × Bool)} (h : registry.Holds registrations)
    (x : Substitute) (isAbstract : Bool) :
    (registry.register x isAbstract).Holds (registrations ++ [(x, isAbstract)]) where
  member head n := by
    rw [member_register, registeredWith_concat, h.member]
  abstract n := by
    rw [mem_abstractMembers_register, registeredAbstract_concat, h.abstract, and_comm,
      eq_comm (a := n)]
  given head y hy := by
    have hold (hy : y ∈ registry.membersOf head) :
        ∃ a, (y, a) ∈ registrations ++ [(x, isAbstract)] :=
      (h.given head y hy).imp fun _ => List.mem_append_left _
    rw [membersOf_register] at hy
    split at hy
    · rcases List.mem_append.1 hy with hy | hy
      · exact hold hy
      · obtain rfl := List.mem_singleton.1 hy
        exact ⟨isAbstract, List.mem_append_right _ List.mem_cons_self⟩
    · exact hold hy

theorem registerAll_holds (registrations : List (Substitute × Bool)) :
    (registerAll registrations).Holds registrations := by
  induction registrations using List.reverseRecOn with
  | nil => exact ⟨fun _ _ => by simp [registerAll, Member, membersOf, Table.get?, RegisteredWith],
      fun _ => by simp [registerAll, RegisteredAbstract],
      fun _ x hx => by simp [registerAll, membersOf, Table.get?] at hx⟩
  | append_singleton registrations x ih =>
    rw [registerAll, List.foldl_append]
    exact ih.register x.1 x.2

/-- After any registrations the search below a head comes to an end. What it finds are the elements
that are reached from the head along one or more registrations and were never registered as
abstract, each once and as it was registered. The same elements are found whenever the same
registrations were made, in whatever order and however often. -/
theorem substitutes_reached (registrations : List (Substitute × Bool)) (head : QName) :
    let registry := registerAll registrations
    let members := fun registry : Substitutions => (registry.substitutesOf head).map (·.member)
    (∃ r, (∀ r', registry.Follows (registry.membersOf head) {} r' ↔ r' = r) ∧
        r.found = registry.substitutesOf head) ∧
      (members registry).Nodup ∧
      (∀ n, n ∈ members registry ↔
        TransGen (RegisteredWith registrations) head n ∧ ¬RegisteredAbstract registrations n) ∧
      (∀ x ∈ registry.substitutesOf head, ∃ isAbstract, (x, isAbstract) ∈ registrations) ∧
      ∀ others, (∀ x, x ∈ others ↔ x ∈ registrations) →
        (members (registerAll others)).Perm (members registry) := by
  intro registry members
  have hnodup (registrations : List (Substitute × Bool)) :
      (members (registerAll registrations)).Nodup := (substitutesOf_spec _ head).1
  have hmem (registrations : List (Substitute × Bool)) (n : QName) :
      n ∈ members (registerAll registrations) ↔
        TransGen (RegisteredWith registrations) head n ∧ ¬RegisteredAbstract registrations n := by
    have hholds := registerAll_holds registrations
    have hrelation : (registerAll registrations).Member = RegisteredWith registrations := by
      funext head n
      exact propext (hholds.member head n)
    rw [List.mem_map, (substitutesOf_spec _ head).2, hrelation, hholds.abstract]
  refine ⟨registry.exists_follows head, hnodup registrations, hmem registrations, fun x hx => ?_,
    fun others h => ?_⟩
  · obtain ⟨head', hx⟩ := mem_membersOf_of_mem_substitutesOf hx
    exact (registerAll_holds registrations).given head' x hx
  · have hrelation : RegisteredWith others = RegisteredWith registrations := by
      funext head n
      simp only [RegisteredWith, h]
    have habstract : RegisteredAbstract others = RegisteredAbstract registrations := by
      funext n
      simp only [RegisteredAbstract, h]
    refine (List.perm_ext_iff_of_nodup (hnodup others) (hnodup registrations)).2 fun n => ?_
    rw [hmem, hmem, hrelation, habstract]

/-- Around a circle the head stands in for itself, and an abstract member is only followed. -/
example (v : ValueType) :
    ((registerAll [(⟨⟨none, "a"⟩, ⟨none, "b"⟩, v⟩, true), (⟨⟨none, "b"⟩, ⟨none, "c"⟩, v⟩, false),
        (⟨⟨none, "c"⟩, ⟨none, "a"⟩, v⟩, false)]).substitutesOf ⟨none, "a"⟩).map (·.member) =
      [⟨none, "c"⟩, ⟨none, "a"⟩] := by rfl

end Substitutions

end XmlTypes.Build
