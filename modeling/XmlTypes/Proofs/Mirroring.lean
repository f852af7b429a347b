import XmlTypes.Proofs.Erasure
import XmlTypes.Proofs.Steps
/-!
# Two runs side by side

A run in one environment is compared with a run in another: the second goes through the states of
the first with something left out, and ends with its result or with its failure (`Mirror.Follows`).
What a part of a construction keeps is carried along, and so is how much deeper it may go: it goes
down through doors, the declarations that are remembered once they are entered, and a door that is
passed stays passed.
-/

namespace XmlTypes

/-- The construction went deeper than the schema may lead. -/
def Failure.isBottomless : Failure → Bool
  | .build .bottomless _ _ => true
  | _ => false

namespace Node

/-- What a node says of its name and of root elements: its name in the schema, whether it is given
in place, its root element, whether it is the type of several, and whether it is abstract. -/
def standing (n : Node) : QName × Bool × Option QName × Bool × Option Bool :=
  (n.identity, n.isAnonymous, n.root, n.isAbstractRoot, n.class?.map (·.isAbstract))

/-- No root element is on the node yet. -/
structure Unclaimed (n : Node) : Prop where
  root : n.root = none
  isAbstractRoot : n.isAbstractRoot = false
  isAnonymous : n.isAnonymous = n.identity.isEmpty

/-- The standing says whether a node is claimed. -/
theorem Unclaimed.congr {m n : Node} (hm : m.Unclaimed) (h : n.standing = m.standing) :
    n.Unclaimed := by
  simp only [standing, Prod.mk.injEq] at h
  obtain ⟨hi, ha, hr, hr', -⟩ := h
  exact ⟨hr.trans hm.root, hr'.trans hm.isAbstractRoot, by rw [ha, hi, hm.isAnonymous]⟩

theorem standing_mapClass (n : Node) {f : ClassShape → ClassShape}
    (h : ∀ c, (f c).isAbstract = c.isAbstract) : (n.mapClass f).standing = n.standing := by
  rcases n with ⟨_, _, _, _, _, _, _, k⟩
  cases k <;> simp [mapClass, standing, class?, h]

theorem standing_mapInterface (n : Node) (f : InterfaceShape → InterfaceShape) :
    (n.mapInterface f).standing = n.standing := by
  rcases n with ⟨_, _, _, _, _, _, _, k⟩
  cases k <;> rfl

theorem standing_mapProperties (n : Node) (f : List Property → List Property) :
    (n.mapProperties f).standing = n.standing := by
  rcases n with ⟨_, _, _, _, _, _, _, k⟩
  cases k <;> rfl

end Node

namespace Graph

/-- The nodes are the same up to their members and links. -/
structure Still (g g' : Graph) : Prop where
  size : g'.size = g.size
  standing : ∀ id, (g'.node? id).map Node.standing = (g.node? id).map Node.standing

variable {g g' g'' : Graph}

theorem Still.refl (g : Graph) : g.Still g := ⟨rfl, fun _ => rfl⟩

theorem Still.trans (h : g.Still g') (h' : g'.Still g'') : g.Still g'' :=
  ⟨h'.size.trans h.size, fun id => (h'.standing id).trans (h.standing id)⟩

theorem Still.modify {id : NodeId} {f : Node → Node} (h : ∀ n : Node, (f n).standing = n.standing) :
    g.Still (g.modify id f) :=
  ⟨size_modify _ _, fun _ => map_node?_modify _ fun _ => h⟩

theorem Still.setBase (derived base : NodeId) : g.Still (g.setBase derived base) :=
  (Still.modify fun n => by exact n.standing_mapClass fun _ => rfl).trans
    (.modify fun n => by exact n.standing_mapClass fun _ => rfl)

theorem Still.addImplementer (interface implementer : NodeId) :
    g.Still (g.addImplementer interface implementer) := by
  unfold Graph.addImplementer
  split
  · exact .refl g
  · refine (Still.modify fun n => ?_).trans (.modify fun n => n.standing_mapInterface _)
    exact (Node.standing_mapInterface _ _).trans (n.standing_mapClass fun _ => rfl)

theorem Still.addProperty (p : Property) : g.Still (g.addProperty p).1 := by
  unfold Graph.addProperty
  split
  · exact .refl g
  · exact .modify fun n => n.standing_mapProperties _

end Graph

namespace Build

open Schema

/-! ## What is kept -/

/-- The same groups are being expanded, and what is remembered stays so. -/
structure Steady (s t : State) : Prop where
  active : t.context.active = s.context.active
  cache : ∀ k id, s.context.cache.get? k = some id → t.context.cache.get? k = some id
  inlineTypes : ∀ p id, s.context.inlineType? p = some id → t.context.inlineType? p = some id

/-- Nothing is done about root elements: nodes that are there keep their standing, and new ones
are unclaimed. -/
structure Quiet (s t : State) : Prop extends Steady s t where
  roots : t.context.roots = s.context.roots
  rootKeys : ∀ k, k.kind = .rootElement → t.context.cache.get? k = s.context.cache.get? k
  size : s.graph.size ≤ t.graph.size
  standing : ∀ id, id < s.graph.size →
    (t.graph.node? id).map Node.standing = (s.graph.node? id).map Node.standing
  fresh : ∀ id n, t.graph.node? id = some n → s.graph.size ≤ id → n.Unclaimed

section
variable {s t u : State}

theorem Steady.refl (s : State) : Steady s s := ⟨rfl, fun _ _ => id, fun _ _ => id⟩

theorem Steady.trans (h : Steady s t) (h' : Steady t u) : Steady s u :=
  ⟨h'.active.trans h.active, fun k id hk => h'.cache k id (h.cache k id hk),
    fun p id hp => h'.inlineTypes p id (h.inlineTypes p id hp)⟩

theorem Steady.of_context {c : Context} (ha : c.active = s.context.active)
    (hc : c.cache = s.context.cache) (hi : c.inlineTypes = s.context.inlineTypes) :
    Steady s { s with context := c } :=
  ⟨ha, fun _ _ hk => hc ▸ hk, fun _ _ hp => by rwa [Context.inlineType?, hi]⟩

theorem Steady.of_graph (s : State) (g : Graph) : Steady s { s with graph := g } :=
  ⟨rfl, fun _ _ => id, fun _ _ => id⟩

/-- A change of the graph that leaves the standing of all nodes alone. -/
theorem Quiet.of_still {g : Graph} (h : s.graph.Still g) : Quiet s { s with graph := g } where
  toSteady := ⟨rfl, fun _ _ => id, fun _ _ => id⟩
  roots := rfl
  rootKeys _ _ := rfl
  size := Nat.le_of_eq h.size.symm
  standing id _ := h.standing id
  fresh _ _ hn hid := absurd (h.size ▸ Graph.lt_size_of_node? hn) (Nat.not_lt.2 hid)

theorem Quiet.refl (s : State) : Quiet s s := .of_still (.refl s.graph)

theorem Quiet.trans (h : Quiet s t) (h' : Quiet t u) : Quiet s u where
  toSteady := h.toSteady.trans h'.toSteady
  roots := h'.roots.trans h.roots
  rootKeys k hk := (h'.rootKeys k hk).trans (h.rootKeys k hk)
  size := Nat.le_trans h.size h'.size
  standing id hid :=
    (h'.standing id (Nat.lt_of_lt_of_le hid h.size)).trans (h.standing id hid)
  fresh id n hn hid := by
    rcases Nat.lt_or_ge id t.graph.size with hlt | hge
    · -- A node of the first part keeps its standing in the second.
      have hst := h'.standing id hlt
      obtain ⟨m, hm⟩ := Option.isSome_iff_exists.1 (Graph.node?_isSome.2 hlt)
      rw [hn, hm] at hst
      exact (h.fresh id m hm hid).congr (Option.some.inj hst)
    · exact h'.fresh id n hn hge

/-- A change of the context that is about types, sites or groups. -/
theorem Quiet.of_context {c : Context} (ha : c.active = s.context.active)
    (hc : ∀ k id, s.context.cache.get? k = some id → c.cache.get? k = some id)
    (hi : ∀ p id, s.context.inlineType? p = some id → c.inlineType? p = some id)
    (hr : c.roots = s.context.roots)
    (hk : ∀ k, k.kind = .rootElement → c.cache.get? k = s.context.cache.get? k) :
    Quiet s { s with context := c } where
  toSteady := ⟨ha, hc, hi⟩
  roots := hr
  rootKeys := hk
  size := Nat.le_refl _
  standing _ _ := rfl
  fresh _ _ hn hid := absurd (Graph.lt_size_of_node? hn) (Nat.not_lt.2 hid)

theorem Quiet.noted (s : State) (scope : Scope) (source : Source) :
    Quiet s (s.noted scope source) :=
  ⟨⟨rfl, fun _ _ => id, fun _ _ => id⟩, rfl, fun _ _ => rfl, Nat.le_refl _, fun _ _ => rfl,
    fun _ _ hn hid => absurd (Graph.lt_size_of_node? hn) (Nat.not_lt.2 hid)⟩

theorem Quiet.recordNamed {k : CacheKey} {node : NodeId} (hk : k.kind ≠ .rootElement) :
    Quiet s { s with context := s.context.recordNamed k node } := by
  refine .of_context rfl (fun j b hj => Cache.get?_insert_of_some hj) (fun _ _ => id) rfl ?_
  intro j hj
  cases hb : s.context.cache.get? j with
  | some b => exact Cache.get?_insert_of_some hb
  | none =>
    cases hc : (s.context.recordNamed k node).cache.get? j with
    | none => rfl
    | some c =>
      rcases Cache.of_get?_insert hc with hc | ⟨rfl, -⟩
      · exact hc.symm.trans hb
      · exact absurd hj hk

theorem Quiet.recordInline (s : State) (p : Place) (node : NodeId) :
    Quiet s { s with context := s.context.recordInline p node } :=
  .of_context rfl (fun _ _ => id) (fun _ _ hq => Table.get?_insertNew_of_some hq) rfl fun _ _ => rfl

end

instance : Std.Refl Steady := ⟨Steady.refl⟩

instance : IsTrans State Steady := ⟨fun _ _ _ => Steady.trans⟩

instance : Std.Refl Quiet := ⟨Quiet.refl⟩

instance : IsTrans State Quiet := ⟨fun _ _ _ => Quiet.trans⟩

/-! ## How deep it may go -/

/-- Something that is remembered once it is entered, under a key or for a place. -/
structure Door where
  key : Option CacheKey
  place : Option Place := none
deriving DecidableEq

/-- Whether what is behind the door is remembered. -/
def Door.isPassed (c : Context) (d : Door) : Bool :=
  ((d.key.bind c.cache.get?).orElse fun _ => d.place.bind c.inlineType?).isSome

/-- The doors and groups of a schema, and how deep its declarations nest. -/
structure Bounds where
  doors : List Door
  groups : List QName
  depth : Nat

/-- How much deeper a construction may go: between two doors, or groups, it goes no deeper than
declarations nest. -/
def Bounds.rank (b : Bounds) (c : Context) : Nat :=
  (b.doors.countP (!·.isPassed c) + b.groups.countP (!c.isExpanding ·)) * (b.depth + 2)

/-- A definition whose class is remembered when it is created. -/
structure Bounds.IsDoor (b : Bounds) (d : Declared ComplexType) (key : Option CacheKey) : Prop where
  mem : ⟨key, some d.place⟩ ∈ b.doors
  remembered : (∃ k, key = some k ∧ k.name.isEmpty = false) ∨ d.definition.name = none
  depth : d.definition.depth ≤ b.depth

/-- The key of a complex type that has a name. -/
def typeKey? (d : Declared ComplexType) : Option CacheKey :=
  d.definition.name.map (⟨.complexType, d.location, ·⟩)

/-- A global definition is behind a door, and no deeper than the bound. -/
structure Bounds.Covers (b : Bounds) (ix : Index) : Prop where
  typeDepth : ∀ n g, ix.type? n = some g → g.definition.depth ≤ b.depth
  elementDepth : ∀ n g, ix.element? n = some g → g.definition.depth ≤ b.depth
  attributeDepth : ∀ n g, ix.attribute? n = some g → g.definition.depth ≤ b.depth
  types : ∀ n g t, ix.type? n = some g → g.definition = .complex t →
    b.IsDoor ((Declared.ofGlobal .types g).inPlace t)
      (typeKey? ((Declared.ofGlobal .types g).inPlace t))
  elements : ∀ n g t, ix.element? n = some g → g.definition.typeRef = some (.inline (.complex t)) →
    b.IsDoor ((Declared.ofGlobal .elements g).part .type t)
      (some ⟨.elementType, g.document.location, g.definition.name⟩)
  attributes : ∀ n g t, ix.attribute? n = some g →
    g.definition.typeRef = some (.inline (.complex t)) →
    b.IsDoor ((Declared.ofGlobal .attributes g).part .type t)
      (typeKey? ((Declared.ofGlobal .attributes g).part .type t))
  groups : ∀ n g, ix.group? n = some g → n ∈ b.groups ∧ g.definition.name.isEmpty = false ∧
    ⟨some ⟨.group, g.document.location, g.definition.name⟩, none⟩ ∈ b.doors ∧
    g.definition.group.depth ≤ b.depth
  attributeGroups : ∀ n g, ix.attributeGroup? n = some g →
    n ∈ b.groups ∧ g.definition.name.isEmpty = false ∧
    ⟨some ⟨.attributeGroup, g.document.location, g.definition.name⟩, none⟩ ∈ b.doors ∧
    AttributeItem.depths g.definition.attributes ≤ b.depth

section
variable {s t : State}

theorem isSome_orElse {α : Type} {a b : Option α} :
    (a.orElse fun _ => b).isSome = (a.isSome || b.isSome) := by
  cases a <;> rfl

theorem Door.isPassed_iff {c : Context} {d : Door} : d.isPassed c = true ↔
    (∃ k id, d.key = some k ∧ c.cache.get? k = some id) ∨
      ∃ p id, d.place = some p ∧ c.inlineType? p = some id := by
  rw [isPassed, isSome_orElse, Bool.or_eq_true, Option.isSome_iff_exists,
    Option.isSome_iff_exists]
  simp only [Option.bind_eq_some_iff]
  constructor
  · rintro (⟨id, k, hk, h⟩ | ⟨id, p, hp, h⟩)
    · exact .inl ⟨k, id, hk, h⟩
    · exact .inr ⟨p, id, hp, h⟩
  · rintro (⟨k, id, hk, h⟩ | ⟨p, id, hp, h⟩)
    · exact .inl ⟨id, k, hk, h⟩
    · exact .inr ⟨id, p, hp, h⟩

theorem Steady.isPassed (h : Steady s t) {d : Door} (hd : d.isPassed s.context = true) :
    d.isPassed t.context = true := by
  rw [Door.isPassed_iff] at hd ⊢
  rcases hd with ⟨k, id, hk, hid⟩ | ⟨p, id, hp, hid⟩
  · exact .inl ⟨k, id, hk, h.cache k id hid⟩
  · exact .inr ⟨p, id, hp, h.inlineTypes p id hid⟩

/-- A count falls when it loses a member and gains none. -/
theorem countP_lt {α : Type} {p q : α → Bool} {l : List α} (h : ∀ x ∈ l, p x = true → q x = true)
    {x : α} (hx : x ∈ l) (hq : q x = true) (hp : p x = false) : l.countP p < l.countP q := by
  induction l with
  | nil => cases hx
  | cons y l ih =>
    have hle : l.countP p ≤ l.countP q := List.countP_mono_left fun z hz => h z (by simp [hz])
    rw [List.countP_cons, List.countP_cons]
    rcases List.mem_cons.1 hx with rfl | hx
    · simp only [hp, hq, Bool.false_eq_true, if_false, if_true]
      omega
    · have hlt := ih (fun z hz => h z (by simp [hz])) hx
      have hy := h y (by simp)
      split
      · rename_i hpy
        simp only [hy hpy, if_true]
        omega
      · split <;> omega

variable {b : Bounds}

theorem Bounds.rank_mono (h : Steady s t) : b.rank t.context ≤ b.rank s.context := by
  have hdoors :
      b.doors.countP (!·.isPassed t.context) ≤ b.doors.countP (!·.isPassed s.context) := by
    refine List.countP_mono_left fun d _ hd => ?_
    rw [Bool.not_eq_true', Bool.eq_false_iff] at hd ⊢
    exact fun hs => hd (h.isPassed hs)
  have hgroups : b.groups.countP (!t.context.isExpanding ·) =
      b.groups.countP (!s.context.isExpanding ·) := by
    simp only [Context.isExpanding, h.active]
  unfold rank
  rw [hgroups]
  exact Nat.mul_le_mul_right _ (Nat.add_le_add_right hdoors _)

/-- Behind a door there is a level less to go. -/
theorem Bounds.rank_door (h : Steady s t) {d : Door} (hd : d ∈ b.doors)
    (hs : d.isPassed s.context = false) (ht : d.isPassed t.context = true) :
    b.rank t.context + (b.depth + 2) ≤ b.rank s.context := by
  have hdoors :
      b.doors.countP (!·.isPassed t.context) < b.doors.countP (!·.isPassed s.context) := by
    refine countP_lt (fun x _ hx => ?_) hd (by simpa using hs) (by simpa using ht)
    rw [Bool.not_eq_true', Bool.eq_false_iff] at hx ⊢
    exact fun hs => hx (h.isPassed hs)
  have hgroups : b.groups.countP (!t.context.isExpanding ·) =
      b.groups.countP (!s.context.isExpanding ·) := by
    simp only [Context.isExpanding, h.active]
  unfold rank
  rw [hgroups, ← Nat.succ_mul]
  exact Nat.mul_le_mul_right _ (by omega)

theorem isExpanding_enter (c : Context) (group n : QName) :
    (c.enter group).isExpanding n = (c.isExpanding n || n == group) := by
  simp [Context.isExpanding, Context.enter, Bool.beq_eq_decide_eq]

theorem Bounds.rank_enter_le (c : Context) (group : QName) :
    b.rank (c.enter group) ≤ b.rank c := by
  refine Nat.mul_le_mul_right _ (Nat.add_le_add_left (List.countP_mono_left fun n _ hn => ?_) _)
  simp only [isExpanding_enter, Bool.not_or, Bool.and_eq_true] at hn
  exact hn.1

/-- Inside a group that is entered there is a level less to go. -/
theorem Bounds.rank_enter {c : Context} {group : QName} (hg : group ∈ b.groups)
    (hn : c.isExpanding group = false) :
    b.rank (c.enter group) + (b.depth + 2) ≤ b.rank c := by
  have hgroups : b.groups.countP (!(c.enter group).isExpanding ·) <
      b.groups.countP (!c.isExpanding ·) := by
    refine countP_lt (fun n _ h => ?_) hg (by simpa using hn) (by simp [isExpanding_enter])
    simp only [isExpanding_enter, Bool.not_or, Bool.and_eq_true] at h
    exact h.1
  have hdoors : b.doors.countP (!·.isPassed (c.enter group)) = b.doors.countP (!·.isPassed c) := rfl
  unfold rank
  rw [hdoors, ← Nat.succ_mul]
  exact Nat.mul_le_mul_right _ (by omega)

end

/-! ## Mirrors -/

/-- Two environments for one schema that differ in what is left out, or in how deep a construction
may go. The second may go as deep as the first, and where there are bounds the first goes deep
enough. -/
structure Mirror where
  erasure : Erasure
  env : Environment
  env' : Environment
  bounds : Option Bounds := none
  index : env'.index = env.index
  naming : env'.naming = env.naming
  reserved : env'.reserved = env.reserved
  interfaces : env'.options.generateInterfaces = env.options.generateInterfaces
  ordered : env'.options.emitOrder = (env.options.emitOrder && erasure.ordered)
  unrestricted : erasure.restrictions [] = []
  classify : ∀ document visiting t, (∀ b, bounds = some b → t.depth ≤ b.depth) →
    Build.classify env' document visiting t =
      (Build.classify env document visiting t).map erasure.classification
  settles : ∀ b, bounds = some b → ∀ document visiting t e, t.depth ≤ b.depth →
    Build.classify env document visiting t = .error e → e.isBottomless = false
  limit_le : env.limit ≤ env'.limit
  limit_eq : bounds = none → env'.limit = env.limit
  covers : ∀ b, bounds = some b → b.Covers env.index
  deep : ∀ b, bounds = some b → b.rank {} < env.limit

namespace Mirror

variable (M : Mirror)

/-- There is fuel for `n` more levels, no more than declarations nest. -/
def Room (k n : Nat) (s : State) : Prop :=
  ∀ b, M.bounds = some b → n ≤ b.depth ∧ b.rank s.context + n < k

/-- There is fuel for the class of a definition: for its levels, or it is behind a door. -/
def Enters (k : Nat) (d : Declared ComplexType) (key : Option CacheKey) (s : State) : Prop :=
  ∀ b, M.bounds = some b → d.definition.depth ≤ b.depth ∧
    (b.rank s.context + d.definition.depth < k ∨ b.rank s.context < k ∧ b.IsDoor d key)

/-- The run of `m'` from what is left of a state is what is left of the run of `m`. What is there
before and after is in the relation `R`. -/
structure Follows {α β : Type} (R : State → State → Prop) (f : α → β) (m : Build α) (m' : Build β)
    (s : State) : Prop where
  image : m' (M.erasure.state s) = (m s).map fun r => (f r.1, M.erasure.state r.2)
  settled : M.bounds.isSome → ∀ e, m s = .error e → e.isBottomless = false
  keeps : ∀ a t, m s = .ok (a, t) → R s t

section
variable {M} {k m n : Nat} {s t : State}

theorem Room.mono (h : M.Room k n s) (hm : m ≤ n) : M.Room k m s := fun b hb =>
  ⟨Nat.le_trans hm (h b hb).1, Nat.lt_of_le_of_lt (Nat.add_le_add_left hm _) (h b hb).2⟩

theorem Room.steady (h : M.Room k n s) (hst : Steady s t) : M.Room k n t := fun b hb =>
  ⟨(h b hb).1, Nat.lt_of_le_of_lt (Nat.add_le_add_right (Bounds.rank_mono hst) _) (h b hb).2⟩

/-- Going down takes a level. -/
theorem Room.pred (h : M.Room (k + 1) (n + 1) s) : M.Room k n s := by
  intro b hb
  have := h b hb
  omega

theorem Room.enter_le (h : M.Room k n s) (group : QName) :
    M.Room k n { s with context := s.context.enter group } := fun b hb =>
  ⟨(h b hb).1, Nat.lt_of_le_of_lt (Nat.add_le_add_right (Bounds.rank_enter_le _ _) _) (h b hb).2⟩

/-- Behind a door there is room for a whole declaration. -/
theorem Room.door (h : M.Room k 0 s) (hst : Steady s t)
    (hd : ∀ b, M.bounds = some b → ∃ d ∈ b.doors, d.isPassed s.context = false ∧
      d.isPassed t.context = true ∧ n ≤ b.depth) : M.Room k n t := by
  intro b hb
  obtain ⟨d, hd, hs, ht, hn⟩ := hd b hb
  have := h b hb
  have := Bounds.rank_door hst hd hs ht
  omega

/-- Inside a group that was not being expanded there is room for a whole declaration. -/
theorem Room.enter (h : M.Room k 0 s) {group : QName} (hn : s.context.isExpanding group = false)
    (hg : ∀ b, M.bounds = some b → group ∈ b.groups ∧ n ≤ b.depth) :
    M.Room k n { s with context := s.context.enter group } := by
  intro b hb
  obtain ⟨hg, hle⟩ := hg b hb
  have := h b hb
  have := Bounds.rank_enter hg hn
  refine ⟨hle, ?_⟩
  change b.rank (s.context.enter group) + n < k
  omega

theorem Room.enters {d : Declared ComplexType} {key : Option CacheKey}
    (h : M.Room k d.definition.depth s) : M.Enters k d key s :=
  fun b hb => ⟨(h b hb).1, .inl (h b hb).2⟩

/-- A door is passed with no more than a level. -/
theorem Room.enters_door {d : Declared ComplexType} {key : Option CacheKey} (h : M.Room k 0 s)
    (hd : ∀ b, M.bounds = some b → b.IsDoor d key) : M.Enters k d key s :=
  fun b hb => ⟨(hd b hb).depth, .inr ⟨(h b hb).2, hd b hb⟩⟩

end

/-! ## Steps -/

section
variable {M} {α β γ δ : Type} {R : State → State → Prop} {s : State}

theorem Follows.weaken {R' : State → State → Prop} {f : α → β} {m : Build α} {m' : Build β}
    (h : M.Follows R f m m' s) (hR : ∀ t, R s t → R' s t) : M.Follows R' f m m' s :=
  ⟨h.image, h.settled, fun a t ha => hR t (h.keeps a t ha)⟩

theorem Follows.pure [Std.Refl R] {f : α → β} {a : α} {b : β} (h : b = f a) :
    M.Follows R f (pure a) (pure b) s where
  image := by rw [pure_apply, pure_apply, h]; rfl
  settled _ _ he := by cases he
  keeps b t hb := by
    obtain ⟨-, rfl⟩ := pure_ok.1 hb
    exact Std.Refl.refl s

theorem Follows.bind [IsTrans State R] {f : α → β} {g : γ → δ} {m : Build α} {m' : Build β}
    {k : α → Build γ} {k' : β → Build δ} (h : M.Follows R f m m' s)
    (hk : ∀ a t, m s = .ok (a, t) → R s t → M.Follows R g (k a) (k' (f a)) t) :
    M.Follows R g (m >>= k) (m' >>= k') s := by
  have hbind : (m >>= k) s = (m s >>= fun r => k r.1 r.2) := rfl
  have hbind' : (m' >>= k') (M.erasure.state s) =
      (m' (M.erasure.state s) >>= fun r => k' r.1 r.2) := rfl
  cases hm : m s with
  | error e =>
    have him := h.image
    rw [hm] at him hbind
    refine ⟨?_, fun hb e' he => h.settled hb e' ?_, fun a t ha => ?_⟩
    · rw [hbind', hbind, him]
      rfl
    · rw [hm, Except.error.inj (hbind.symm.trans he)]
    · rw [hbind] at ha
      cases ha
  | ok r =>
    obtain ⟨a, t⟩ := r
    have him := h.image
    rw [hm] at him hbind
    have hnext := hk a t hm (h.keeps a t hm)
    refine ⟨?_, fun hb e he => hnext.settled hb e ?_, fun c u hc => ?_⟩
    · rw [hbind', hbind, him]
      exact hnext.image
    · rw [hbind] at he
      exact he
    · rw [hbind] at hc
      exact IsTrans.trans _ _ _ (h.keeps a t hm) (hnext.keeps c u hc)

theorem Follows.getGraph {g : α → β} {k : Graph → Build α} {k' : Graph → Build β}
    (h : M.Follows R g (k s.graph) (k' (M.erasure.graph s.graph)) s) :
    M.Follows R g (getGraph >>= k) (getGraph >>= k') s :=
  ⟨h.image, h.settled, h.keeps⟩

theorem Follows.getContext {g : α → β} {k : Context → Build α} {k' : Context → Build β}
    (h : M.Follows R g (k s.context) (k' s.context) s) :
    M.Follows R g (getContext >>= k) (getContext >>= k') s :=
  ⟨h.image, h.settled, h.keeps⟩

theorem Follows.modifyGraph {F F' : Graph → Graph}
    (hF : M.erasure.graph (F s.graph) = F' (M.erasure.graph s.graph))
    (hR : R s { s with graph := F s.graph }) :
    M.Follows R id (modifyGraph F) (modifyGraph F') s where
  image := by
    change Except.ok ((), { M.erasure.state s with graph := F' (M.erasure.graph s.graph) }) = _
    rw [← hF]
    rfl
  settled _ _ he := by cases he
  keeps a t ha := by
    rw [modifyGraph_ok.1 ha]
    exact hR

theorem Follows.modifyContext {F : Context → Context} (hR : R s { s with context := F s.context }) :
    M.Follows R id (modifyContext F) (modifyContext F) s where
  image := rfl
  settled _ _ he := by cases he
  keeps a t ha := by
    rw [modifyContext_ok.1 ha]
    exact hR

theorem Follows.lift [Std.Refl R] {f : α → β} {e : Except Failure α} {e' : Except Failure β}
    (h : e' = e.map f) (hs : M.bounds.isSome → ∀ x, e = .error x → x.isBottomless = false) :
    M.Follows R f (liftM e : Build α) (liftM e' : Build β) s := by
  cases e with
  | error x =>
    refine ⟨by rw [h]; rfl, fun hb y hy => hs hb y ?_, nofun⟩
    cases hy
    rfl
  | ok a =>
    refine ⟨by rw [h]; rfl, nofun, fun b t hb => ?_⟩
    obtain ⟨-, rfl⟩ := lift_ok.1 hb
    exact Std.Refl.refl s

theorem Follows.failUnsupported {f : α → β} (construct : Unsupported) :
    M.Follows R f (failUnsupported construct) (failUnsupported construct) s where
  image := rfl
  settled _ e he := by
    cases he
    rfl
  keeps a t ha := absurd ha failUnsupported_ok

theorem Follows.failUnresolved {f : α → β} (reference : Reference) (name : QName)
    (document : Document) :
    M.Follows R f (failUnresolved reference name document)
      (failUnresolved reference name document) s :=
  .failUnsupported _

/-- Where nothing bounds the depth, both fail when they go too deep. -/
theorem Follows.failBottomless {f : α → β} {document : Document} (h : M.bounds = none) :
    M.Follows R f (failBottomless document) (failBottomless document) s where
  image := rfl
  settled hb := by rw [h] at hb; cases hb
  keeps a t ha := absurd ha failBottomless_ok

theorem Follows.foldlM {σ ι : Type} [Std.Refl R] [IsTrans State R] {f : σ → σ}
    {step step' : σ → ι → Build σ} {P : State → Prop} {xs : List ι}
    (hP : ∀ s t, P s → R s t → P t)
    (hstep : ∀ x ∈ xs, ∀ a s, P s → M.Follows R f (step a x) (step' (f a) x) s) :
    ∀ {s : State} {a : σ}, P s → M.Follows R f (xs.foldlM step a) (xs.foldlM step' (f a)) s := by
  induction xs with
  | nil => exact fun _ => .pure rfl
  | cons x xs ih =>
    intro s a hs
    rw [List.foldlM_cons, List.foldlM_cons]
    refine (hstep x (by simp) a s hs).bind fun b t _ hst => ?_
    exact ih (fun y hy => hstep y (by simp [hy])) (hP s t hs hst)

theorem Follows.forM {ι : Type} [Std.Refl R] [IsTrans State R] {step step' : ι → Build Unit}
    {P : State → Prop} {xs : List ι} (hP : ∀ s t, P s → R s t → P t)
    (hstep : ∀ x ∈ xs, ∀ s, P s → M.Follows R id (step x) (step' x) s) (hs : P s) :
    M.Follows R id (xs.forM step) (xs.forM step') s := by
  rw [forM_eq, forM_eq]
  exact Follows.foldlM hP (fun x hx _ s hs => hstep x hx s hs) hs

end

/-! ## What a state is asked and told -/

theorem resolveNamespace_eq (location uri : String) (s : State) :
    resolveNamespace location uri s = (s.resolver.resolve (some location) uri).1.map fun space =>
      (space, { s with resolver := (s.resolver.resolve (some location) uri).2 }) := by
  change (liftM (s.resolver.resolve (some location) uri).1 : Build String)
    { s with resolver := (s.resolver.resolve (some location) uri).2 } = _
  cases (s.resolver.resolve (some location) uri).1 <;> rfl

/-- A resolver declines, and that is all that can go wrong. -/
theorem resolve_error {r : Resolver} {source : Option String} {uri : String} {e : Failure}
    (h : (r.resolve source uri).1 = .error e) : e = .unmapped uri source := by
  unfold Resolver.resolve at h
  split at h
  · cases h
  · dsimp only at h
    split at h
    · cases h
    · split at h
      · exact (Except.error.inj h).symm
      · split at h
        · cases h
        · exact (Except.error.inj h).symm

section
variable {M} {s : State}

theorem resolveNamespace_follows (location uri : String) :
    M.Follows Quiet id (resolveNamespace location uri) (resolveNamespace location uri) s where
  image := by
    rw [resolveNamespace_eq, resolveNamespace_eq]
    change Except.map _ (s.resolver.resolve (some location) uri).1 = _
    cases (s.resolver.resolve (some location) uri).1 <;> rfl
  settled _ e he := by
    rw [resolveNamespace_eq] at he
    cases hr : (s.resolver.resolve (some location) uri).1 with
    | error x =>
      rw [hr] at he
      obtain rfl := Except.error.inj he
      rw [resolve_error hr]
      rfl
    | ok space =>
      rw [hr] at he
      cases he
  keeps space t ht := by
    obtain ⟨resolver, rfl⟩ := resolveNamespace_ok ht
    exact ⟨⟨rfl, fun _ _ => id, fun _ _ => id⟩, rfl, fun _ _ => rfl, Nat.le_refl _, fun _ _ => rfl,
      fun _ _ hn hid => absurd (Graph.lt_size_of_node? hn) (Nat.not_lt.2 hid)⟩

/-- A node that is new is unclaimed. -/
theorem quiet_allocate {n : Node} (hn : n.Unclaimed) :
    Quiet s { s with graph := (s.graph.allocate n).register s.graph.size } := by
  have hnodes : ((s.graph.allocate n).register s.graph.size).nodes = s.graph.nodes.push n :=
    Graph.nodes_register _
  have hnode := fun id => Graph.node?_of_push hnodes id
  refine ⟨⟨rfl, fun _ _ => id, fun _ _ => id⟩, rfl, fun _ _ => rfl, ?_, fun id hid => ?_,
    fun id m hm hid => ?_⟩
  · have hsize : ((s.graph.allocate n).register s.graph.size).size = s.graph.size + 1 := by
      rw [Graph.size, hnodes, Array.size_push, Graph.size]
    exact hsize ▸ Nat.le_succ _
  · change Option.map _ (((s.graph.allocate n).register s.graph.size).node? id) = _
    rw [hnode, if_neg (Nat.ne_of_lt hid)]
  · change ((s.graph.allocate n).register s.graph.size).node? id = some m at hm
    rw [hnode] at hm
    split at hm
    · exact Option.some.inj hm ▸ hn
    · exact absurd (Graph.lt_size_of_node? hm) (Nat.not_lt.2 hid)

theorem newNode_follows {document : Document} {identity : QName} {candidate : String}
    {kind kind' : NodeKind} {documentation : List String} (hk : kind' = M.erasure.kind kind) :
    M.Follows Quiet id (newNode M.env document identity candidate kind documentation)
      (newNode M.env' document identity candidate kind' documentation) s := by
  unfold newNode
  rw [M.reserved]
  refine (resolveNamespace_follows _ _).bind fun space t _ _ => ?_
  refine Follows.bind (.modifyGraph rfl (Quiet.of_still ⟨rfl, fun _ => rfl⟩)) fun _ u _ _ => ?_
  refine Follows.getGraph ?_
  rw [M.erasure.size_graph, M.erasure.uniqueTypeName_graph]
  refine Follows.bind (.modifyGraph ?_ ?_) fun _ _ _ _ => .pure rfl
  · rw [M.erasure.graph_register, M.erasure.graph_allocate, hk]
    rfl
  · exact quiet_allocate ⟨rfl, rfl, rfl⟩

theorem addProperty_follows {p p' : Property} (hp : p' = M.erasure.property p) :
    M.Follows Quiet id (addProperty p) (addProperty p') s where
  image := by
    change Except.ok (((M.erasure.graph s.graph).addProperty p').2,
      { M.erasure.state s with graph := ((M.erasure.graph s.graph).addProperty p').1 }) = _
    rw [hp, M.erasure.addProperty_graph]
    rfl
  settled _ _ he := by cases he
  keeps added t ht := by
    obtain ⟨-, rfl⟩ := addProperty_ok.1 ht
    exact .of_still (.addProperty p)

theorem note_follows (scope : Scope) (source : Source) :
    M.Follows Quiet id (note scope source) (note (M.erasure.scope scope) source) s where
  image := by
    change Except.ok ((), (M.erasure.state s).noted (M.erasure.scope scope) source) =
      Except.ok ((), M.erasure.state (s.noted scope source))
    simp [State.noted, Erasure.state, Erasure.opening]
  settled _ _ he := by cases he
  keeps _ t ht := by
    rw [note_ok.1 ht]
    exact .noted s scope source

theorem setText_follows (owner : NodeId) (v : ValueType) :
    M.Follows Quiet id (setText owner v) (setText owner v) s := by
  refine .modifyGraph (M.erasure.graph_modify_mapClass _ _ ?_) (.of_still (.modify fun n => ?_))
  · exact fun _ => rfl
  · exact n.standing_mapClass fun _ => rfl

theorem recordNamed_follows {key : CacheKey} (hk : key.kind ≠ .rootElement) (node : NodeId)
    {α β : Type} {f : α → β} {a : α} {b : β} (h : b = f a) :
    M.Follows Quiet f (do modifyContext (·.recordNamed key node); return a)
      (do modifyContext (·.recordNamed key node); return b) s :=
  Follows.bind (.modifyContext (.recordNamed hk)) fun _ _ _ _ => .pure h

theorem recordInline_follows (place : Place) (node : NodeId) {α β : Type} {f : α → β} {a : α}
    {b : β} (h : b = f a) :
    M.Follows Quiet f (do modifyContext (·.recordInline place node); return a)
      (do modifyContext (·.recordInline place node); return b) s :=
  Follows.bind (.modifyContext (.recordInline s place node)) fun _ _ _ _ => .pure h

end

end Mirror

end Build

end XmlTypes
