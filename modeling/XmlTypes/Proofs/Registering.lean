import XmlTypes.Proofs.ClassBuilds
import XmlTypes.Proofs.ElementTypes
/-!
# Registering the members of substitution groups

Each global element that counts joins the group of its head with its type, in whatever order the
documents are built. In the end everything that was opened is filled, and exactly the elements that
name a head are registered with it (`run_registered`).
-/

namespace XmlTypes.Build

open Schema

variable {env : Environment} {resolver : Resolver} {s t : State} {g : Global ElementDecl}
  {id : NodeId} {head : QName}

/-! ## Roots -/

/-- Roots interfere with nothing. -/
theorem rootClass_builds {base : NodeId} {element : QName} {document : Document}
    (hs : Ready env s) (hdoc : document ∈ env.index.documents)
    (h : rootClass env base element document s = .ok ((), t)) :
    Builds env none none s t := by
  rcases rootClass_cases hdoc h with ⟨-, rfl⟩ | ⟨n, s₁, hcreate, -, rfl⟩
  · exact .refl hs nofun
  · have hb : Builds env none none s s₁ :=
      .creation hs hcreate ⟨by rintro _ ⟨⟩ ⟨⟩, by rintro _ ⟨⟩; simp, nofun⟩
    refine hb.ofNew (.setBase hb.ready ?_) (Nat.le_refl _)
    rw [Graph.base?_eq, hcreate.node?, if_pos rfl]
    exact hcreate.blank.base

theorem demote_keeps (n : Node) : n.Keeps ({ n with isAbstractRoot := true, root := none }.mapClass
    fun c => { c with isAbstract := true }) :=
  (roots_decorate (fun _ => none) (fun _ => true) n).1.trans
    (Node.mapClass_keeps _ _ (fun _ => rfl) (fun _ => rfl) (fun _ => rfl) fun _ => rfl)

theorem claimRoot_builds {element : QName} {document : Document} (hs : Ready env s)
    (hdoc : document ∈ env.index.documents)
    (h : claimRoot env id element document s = .ok ((), t)) : Builds env none none s t := by
  cases claimRoot_cases h with
  | further _ hroot => exact rootClass_builds hs hdoc hroot
  | first _ _ ht =>
    have hb := @Builds.modify env s _ id hs fun n => (setRoot_decorates element n).1
    exact ht ▸ hb.trans (.step hb.ready
      ⟨.refl _, fun _ _ hk => hk, fun _ _ hp => hp, List.Subset.refl _⟩
      (hb.ready.toValued.congr rfl rfl) rfl rfl rfl (fun _ _ _ => rfl) fun _ _ => rfl)
  | second _ _ hhome hdemote hfirst hroot =>
    obtain rfl := modifyGraph_ok.1 hdemote
    have hb := @Builds.modify env s _ id hs demote_keeps
    have hb' := hb.trans (rootClass_builds hb.ready (Index.mem_documents_of_document? hhome) hfirst)
    exact hb'.trans (rootClass_builds hb'.ready hdoc hroot)

theorem claimClass_builds {e : ElementDecl} {document : Document} {v : ValueType}
    (hs : Ready env s) (hdoc : document ∈ env.index.documents)
    (h : claimClass env e document v s = .ok ((), t)) :
    Builds env none none s t := by
  cases v with
  | primitive p =>
    obtain ⟨-, rfl⟩ := pure_ok.1 h
    exact .refl hs nofun
  | node id =>
    rw [claimClass, getGraph_bind] at h
    split at h
    · obtain ⟨-, rfl⟩ := pure_ok.1 h
      exact .refl hs nofun
    · split at h
      · rw [modifyGraph_ok.1 h]
        exact .modify hs fun n => (setRoot_decorates e.name n).1
      · exact claimRoot_builds hs hdoc h

/-! ## The registry -/

/-- `v` is what the type of the element comes to. -/
structure ResolvedFor (env : Environment) (s : State) (g : Global ElementDecl) (v : ValueType) :
    Prop extends TypeFor env s g v where
  typed : ∃ type, (Stop.element (.ofGlobal .elements g) true .once .sequence).HasType env s type ∧
    v = type.type

theorem ResolvedFor.mono {v : ValueType} (h : ResolvedFor env s g v) (he : Extends s t) :
    ResolvedFor env t g v where
  toTypeFor := h.toTypeFor.mono he
  typed := by
    obtain ⟨type, htype, hv⟩ := h.typed
    exact ⟨type, htype.mono he, hv⟩

/-- `v` is what the type of the element comes to where it stands. -/
structure KnownFor (env : Environment) (s : State) (g : Global ElementDecl) (v : ValueType) :
    Prop extends ResolvedFor env s g v where
  placed : ∀ r, g.definition.typeRef = some r →
    Placed env s ((Declared.ofGlobal .elements g).part .type r) v

theorem KnownFor.mono {v : ValueType} (h : KnownFor env s g v) (he : Extends s t) :
    KnownFor env t g v where
  toResolvedFor := h.toResolvedFor.mono he
  placed r hr := (h.placed r hr).mono he

/-- The global element of the given name, the one that counts, is a member of the group of
`head`. -/
def Joins (ix : Index) (head : QName) (g : Global ElementDecl) : Prop :=
  ix.element? g.definition.name = some g ∧ g.definition.substitutionGroup = some head

/-- Only members are registered, each once with its head and its type. -/
structure Registered (env : Environment) (s : State) : Prop where
  members : ∀ head, ∀ x ∈ s.context.substitutions.membersOf head, x.head = head ∧
    ∃ g, g.definition.name = x.member ∧ Joins env.index head g ∧ KnownFor env s g x.type
  nodup : ∀ head, ((s.context.substitutions.membersOf head).map (·.member)).Nodup
  abstractMembers : ∀ n ∈ s.context.substitutions.abstractMembers, ∃ g head,
    g.definition.name = n ∧ Joins env.index head g ∧ g.definition.isAbstract = true

/-- The element is registered with its head, if it has one. -/
def Joined (s : State) (g : Global ElementDecl) : Prop :=
  ∀ head, g.definition.substitutionGroup = some head →
    (∃ x ∈ s.context.substitutions.membersOf head, x.member = g.definition.name) ∧
    (g.definition.isAbstract = true →
      g.definition.name ∈ s.context.substitutions.abstractMembers)

theorem Builds.membersOf {h₁ h₂ : Option NodeId} (h : Builds env h₁ h₂ s t) (head : QName) :
    t.context.substitutions.membersOf head = s.context.substitutions.membersOf head := by
  rw [Substitutions.membersOf, Substitutions.membersOf, h.members]

/-- What is built on the way does not matter. -/
theorem Registered.build (h : Registered env s) (hb : Builds env none none s t) :
    Registered env t where
  members head x hx := by
    rw [hb.membersOf] at hx
    obtain ⟨hhead, g, hg, hjoins, htype⟩ := h.members head x hx
    exact ⟨hhead, g, hg, hjoins, htype.mono hb.extend⟩
  nodup head := hb.membersOf head ▸ h.nodup head
  abstractMembers n hn := h.abstractMembers n (hb.abstractMembers ▸ hn)

theorem Joined.build (h : Joined s g) (hb : Builds env none none s t) : Joined t g := by
  intro head hhead
  rw [hb.membersOf, hb.abstractMembers]
  exact h head hhead

/-- The state after an element is registered. -/
def State.joined (s : State) (x : Substitute) (isAbstract : Bool) : State :=
  { s with context := { s.context with
      substitutions := s.context.substitutions.register x isAbstract } }

/-- A member is registered at the end, under its head alone, unless it is there already. -/
theorem Substitutions.membersOf_register (registry : Substitutions) (x : Substitute)
    (isAbstract : Bool) (head : QName) : (registry.register x isAbstract).membersOf head =
      if head = x.head ∧ ∀ y ∈ registry.membersOf head, y.member ≠ x.member then
        registry.membersOf head ++ [x]
      else registry.membersOf head := by
  unfold membersOf register
  rw [Table.get?_update]
  by_cases hhead : head = x.head
  · subst hhead
    rw [if_pos rfl, Option.getD_some]
    by_cases hfound : ∃ y ∈ (registry.members.get? x.head).getD [], y.member = x.member
    · rw [if_pos (by simpa using hfound), if_neg (by simpa using hfound)]
    · rw [if_neg (by simpa using hfound), if_pos (by simpa using hfound)]
  · rw [if_neg hhead, if_neg (by simp [hhead])]

theorem Substitutions.mem_abstractMembers_register {registry : Substitutions} {x : Substitute}
    {isAbstract : Bool} {n : QName} : n ∈ (registry.register x isAbstract).abstractMembers ↔
      n ∈ registry.abstractMembers ∨ isAbstract = true ∧ n = x.member := by
  cases isAbstract <;> simp [register, or_comm]

theorem Extends.joined (s : State) (x : Substitute) (isAbstract : Bool) :
    Extends s (s.joined x isAbstract) :=
  ⟨.refl _, fun _ _ hk => hk, fun _ _ hp => hp, List.Subset.refl _⟩

theorem Registered.join {v : ValueType} (h : Registered env s) (hg : Joins env.index head g)
    (hv : KnownFor env s g v) :
    Registered env (s.joined ⟨head, g.definition.name, v⟩ g.definition.isAbstract) where
  members head' x hx := by
    have he := Extends.joined s ⟨head, g.definition.name, v⟩ g.definition.isAbstract
    have hold (hx : x ∈ s.context.substitutions.membersOf head') : x.head = head' ∧ ∃ g',
        g'.definition.name = x.member ∧ Joins env.index head' g' ∧ KnownFor env
          (s.joined ⟨head, g.definition.name, v⟩ g.definition.isAbstract) g' x.type := by
      obtain ⟨hhead, g', hg', hjoins, htype⟩ := h.members head' x hx
      exact ⟨hhead, g', hg', hjoins, htype.mono he⟩
    rw [State.joined, Substitutions.membersOf_register] at hx
    split at hx
    · rename_i hnew
      rcases List.mem_append.1 hx with hx | hx
      · exact hold hx
      · obtain rfl := List.mem_singleton.1 hx
        obtain rfl := hnew.1
        exact ⟨rfl, g, rfl, hg, hv.mono he⟩
    · exact hold hx
  nodup head' := by
    rw [State.joined, Substitutions.membersOf_register]
    split
    · rename_i hnew
      rw [List.map_append, List.nodup_append]
      refine ⟨h.nodup head', List.nodup_singleton _, fun a ha b hb => ?_⟩
      obtain ⟨y, hy, rfl⟩ := List.mem_map.1 ha
      obtain rfl := List.mem_singleton.1 hb
      exact hnew.2 y hy
    · exact h.nodup head'
  abstractMembers n hn := by
    rcases Substitutions.mem_abstractMembers_register.1 hn with hn | ⟨habstract, rfl⟩
    · exact h.abstractMembers n hn
    · exact ⟨g, head, rfl, hg, habstract⟩

theorem Joined.join {g' : Global ElementDecl} {v : ValueType} (h : Joined s g') :
    Joined (s.joined ⟨head, g.definition.name, v⟩ g.definition.isAbstract) g' := by
  intro head' hhead
  obtain ⟨⟨x, hx, hname⟩, habstract⟩ := h head' hhead
  refine ⟨⟨x, ?_, hname⟩,
    fun ha => Substitutions.mem_abstractMembers_register.2 (.inl (habstract ha))⟩
  rw [State.joined, Substitutions.membersOf_register]
  split
  · exact List.mem_append_left _ hx
  · exact hx

/-- An element that registers with its head is registered. -/
theorem joined_self {v : ValueType} (hg : g.definition.substitutionGroup = some head) :
    Joined (s.joined ⟨head, g.definition.name, v⟩ g.definition.isAbstract) g := by
  intro head' hhead
  obtain rfl := Option.some.inj (hg.symm.trans hhead)
  refine ⟨?_, fun ha => Substitutions.mem_abstractMembers_register.2 (.inr ⟨ha, rfl⟩)⟩
  rw [State.joined, Substitutions.membersOf_register]
  split
  · exact ⟨_, List.mem_append_right _ (List.mem_singleton.2 rfl), rfl⟩
  · rename_i hold
    simp only [true_and, ne_eq, Classical.not_forall, not_not] at hold
    obtain ⟨x, hx, hname⟩ := hold
    exact ⟨x, hx, hname⟩

/-! ## Global declarations -/

/-- A state that a construction comes to between two global declarations. -/
structure Stage (env : Environment) (resolver : Resolver) (s : State) : Prop where
  built : Evolves env none { resolver } s
  ready : Ready env s
  complete : ∀ r ∈ s.journal, Complete env s r
  registered : Registered env s

/-- What a global declaration leaves behind: all that is there, and who is registered. -/
structure Advance (s t : State) : Prop where
  extend : Extends s t
  joined : ∀ g, Joined s g → Joined t g

theorem Advance.refl (s : State) : Advance s s := ⟨.refl s, fun _ h => h⟩

theorem Advance.trans {u : State} (h : Advance s t) (h' : Advance t u) : Advance s u :=
  ⟨h.extend.trans h'.extend, fun g hg => h'.joined g (h.joined g hg)⟩

theorem Stage.build (h : Stage env resolver s) (he : Evolves env none s t)
    (hb : Builds env none none s t) : Stage env resolver t ∧ Advance s t := by
  refine ⟨⟨h.built.trans he, hb.ready, fun r hr => ?_, h.registered.build hb⟩, hb.extend,
    fun g hg => hg.build hb⟩
  rcases hb.journal r hr with hr | ⟨-, -, hc⟩
  · exact hb.complete (h.complete r hr) (h.ready.owners r hr) nofun
  · exact hc

theorem Stage.join {v : ValueType} (h : Stage env resolver s) (hg : Joins env.index head g)
    (hv : KnownFor env s g v) (hvalue : s.graph.IsValue v) :
    Stage env resolver (s.joined ⟨head, g.definition.name, v⟩ g.definition.isAbstract) ∧
      Advance s (s.joined ⟨head, g.definition.name, v⟩ g.definition.isAbstract) := by
  have he := Extends.joined s ⟨head, g.definition.name, v⟩ g.definition.isAbstract
  refine ⟨⟨h.built.trans (.change (.join hg.1 hv.written hvalue) rfl), ?_, fun r hr => ?_,
    h.registered.join hg hv⟩, he, fun g' hg' => hg'.join⟩
  · exact ⟨h.ready.toValued.congr rfl rfl, h.ready.waiting, h.ready.owners⟩
  · exact (h.complete r hr).keep he rfl fun _ => .rfl

theorem topLevelElement_stage (hix : env.index.Lawful) (h : Stage env resolver s)
    (hg : env.index.element? g.definition.name = some g)
    (hrun : topLevelElement env (.ofGlobal .elements g) s = .ok ((), t)) :
    Stage env resolver t ∧ Advance s t ∧ Joined t g ∧ ∃ v, KnownFor env t g v := by
  obtain ⟨resolved, s₁, s₂, htype, hjoin, hrun⟩ := topLevelElement_cases hrun
  obtain ⟨hb, htyped, hplaced⟩ := globalElementType_builds
    (Calls.completes_callsUpTo hix env.limit) hix h.ready hg htype true .once .sequence
  obtain ⟨he, hfor, hvalue⟩ := globalElementType_runs hix h.built hg htype
  obtain ⟨hs₁, ha₁⟩ := h.build he hb
  have hknown : KnownFor env s₁ g resolved.type :=
    ⟨⟨hfor, resolved, htyped, rfl⟩,
      fun r hr => hplaced _ (by simp [Stop.typeRef?, Declared.ofGlobal, hr])⟩
  obtain ⟨hs₂, ha₂, hjoined⟩ : Stage env resolver s₂ ∧ Advance s₁ s₂ ∧ Joined s₂ g := by
    rcases hjoin with ⟨hnone, rfl⟩ | ⟨head, hhead, rfl⟩
    · exact ⟨hs₁, .refl _, fun head hhead => by cases hnone.symm.trans hhead⟩
    · obtain ⟨hs₂, ha₂⟩ := hs₁.join ⟨hg, hhead⟩ hknown hvalue
      exact ⟨hs₂, ha₂, joined_self hhead⟩
  have hdoc := Index.mem_documents_of_element? hg
  obtain ⟨ht, ha⟩ := hs₂.build (claimClass_ok hdoc hrun) (claimClass_builds hs₂.ready hdoc hrun)
  exact ⟨ht, (ha₁.trans ha₂).trans ha, ha.joined g hjoined,
    _, (hknown.mono ha₂.extend).mono ha.extend⟩

/-- A global declaration that is built leaves a stage behind, and an element has joined then. -/
theorem task_stage {x : Task} (hix : env.index.Lawful) (hs : Stage env resolver s)
    (hx : x.Counts env.index) (h : x.run env s = .ok ((), t)) :
    Stage env resolver t ∧ Advance s t ∧
      ∀ g, x = .element g → Joined t g ∧ ∃ v, KnownFor env t g v := by
  cases x with
  | type name g =>
    simp only [Task.run, bind_ok, pure_ok] at h
    obtain ⟨id, s₁, htype, -, rfl⟩ := h
    obtain ⟨he, -⟩ := globalType_ok (Calls.sound_callsUpTo hix env.limit) hix
      hs.built.sound_of_start hx.1 htype
    obtain ⟨ht, ha⟩ := hs.build he
      (globalType_builds (Calls.completes_callsUpTo hix env.limit) hix hs.ready hx.1 htype)
    exact ⟨ht, ha, by rintro _ ⟨⟩⟩
  | element g =>
    obtain ⟨ht, ha, hj⟩ := topLevelElement_stage hix hs hx h
    refine ⟨ht, ha, ?_⟩
    rintro _ ⟨⟩
    exact hj

theorem stage_start (env : Environment) (resolver : Resolver) :
    Stage env resolver { resolver } where
  built := .refl
  ready :=
    { places := fun _ _ h => absurd h.symm (Option.some_ne_none _)
      elements := fun _ _ _ h => absurd h.symm (Option.some_ne_none _)
      attributes := fun _ _ _ h => absurd h.symm (Option.some_ne_none _)
      waiting := fun _ hx => absurd hx List.not_mem_nil
      owners := fun _ hr => absurd hr List.not_mem_nil }
  complete _ hr := absurd hr List.not_mem_nil
  registered :=
    { members := fun _ _ hx => absurd hx List.not_mem_nil
      nodup := fun _ => List.nodup_nil
      abstractMembers := fun _ hn => absurd hn List.not_mem_nil }

/-- In the end everything that was opened is filled, and all members of groups are registered. -/
theorem run_registered (hix : env.index.Lawful) (h : run env resolver = .ok s) :
    Stage env resolver s ∧
      ∀ n g, env.index.element? n = some g → Joined s g ∧ ∃ v, KnownFor env s g v := by
  obtain ⟨-, hs, hall⟩ := forM_ok (R := Advance) (K := Stage env resolver)
    (P := fun x t => ∀ g, x = Task.element g → Joined t g ∧ ∃ v, KnownFor env t g v)
    Advance.refl (fun _ _ _ => .trans)
    (fun x hx s t hs h => by
      obtain ⟨ht, ha, hj⟩ := task_stage hix hs (mem_tasks_iff.1 hx) h
      exact ⟨ha, ht, hj⟩)
    (fun x s t ha hx g hg => (hx g hg).imp (ha.joined g) fun ⟨v, hv⟩ => ⟨v, hv.mono ha.extend⟩)
    (stage_start env resolver) (run_eq h)
  refine ⟨hs, fun n g hg => hall (.element g) (mem_tasks_iff.2 ?_) g rfl⟩
  obtain rfl := hix.elements n g hg
  exact hg

end XmlTypes.Build
