import XmlTypes.Proofs.Closure
/-!
# Pruning

An interface drops what an interface that it reaches declares already. Interfaces that reach one
another are pruned one after the other, each against what the others have left by then, so a pair
of a name and a type is dropped only while another interface still declares it
(`provides_pruneInterface`). In the end each interface declares exactly what it declared before and
no other interface that it reaches declares any more (`pruneDuplicates_keeps_offers`).
-/

namespace XmlTypes

/-- What the duplicates of a property share with it. -/
def Property.signature (p : Property) : String × ValueType := (p.name, p.type)

namespace Node

theorem mapProperties_comp (f f' : List Property → List Property) (n : Node) :
    (n.mapProperties f).mapProperties f' = n.mapProperties (f' ∘ f) := by
  rcases n with ⟨_, _, _, _, _, _, _, k⟩
  cases k <;> rfl

theorem mapProperties_congr {f f' : List Property → List Property} {n : Node}
    (h : f n.properties = f' n.properties) : n.mapProperties f = n.mapProperties f' := by
  rcases n with ⟨_, _, _, _, _, _, _, k⟩
  cases k <;> simp_all [mapProperties, properties]

theorem mapProperties_id (n : Node) : n.mapProperties (fun ps => ps) = n := by
  rcases n with ⟨_, _, _, _, _, _, _, k⟩
  cases k <;> rfl

end Node

namespace Graph

open Relation (TransGen)

variable {g g' g'' : Graph} {id i j : NodeId}

/-! ## What interfaces reach -/

/-- `i` is an interface of `id`, directly or through others. -/
def Extends (g : Graph) : NodeId → NodeId → Prop := TransGen fun a b => b ∈ g.interfaces a

theorem mem_reachableInterfaces : i ∈ g.reachableInterfaces id ↔ i ≠ id ∧ g.Extends id i :=
  mem_reached fun _ => interfaces_eq_nil

theorem Extends.trans {k : NodeId} (h : g.Extends i j) (h' : g.Extends j k) : g.Extends i k :=
  TransGen.trans h h'

theorem Shares.extends_eq (h : g.Shares g') : g'.Extends = g.Extends := by
  have hinterfaces (id : NodeId) : g'.interfaces id = g.interfaces id := by
    rw [interfaces, interfaces, h.map_node? fun _ _ hs => hs.interfaces]
  simp only [Extends, hinterfaces]

/-! ## One interface -/

/-- The pairs of a name and a type that a node declares. -/
def signatures (g : Graph) (id : NodeId) : List (String × ValueType) :=
  (g.properties id).map Property.signature

/-- A node declares the pair, or an interface that it reaches does. -/
def Provides (g : Graph) (id : NodeId) (x : String × ValueType) : Prop :=
  x ∈ g.signatures id ∨ ∃ i, g.Extends id i ∧ x ∈ g.signatures i

/-- Whether none of the other interfaces that a node reaches declares the pair. -/
def isNew (g : Graph) (id : NodeId) (x : String × ValueType) : Bool :=
  (g.reachableInterfaces id).all fun i => !(g.signatures i).contains x

theorem isNew_iff {x : String × ValueType} :
    g.isNew id x = true ↔ ∀ i, i ≠ id → g.Extends id i → x ∉ g.signatures i := by
  simp [isNew, mem_reachableInterfaces]

/-- The properties whose pair satisfies `f`. -/
abbrev keeping (f : String × ValueType → Bool) : List Property → List Property :=
  List.filter fun p => f p.signature

theorem pruneInterface_eq (g : Graph) (i : NodeId) :
    g.pruneInterface i = g.modify i (Node.mapProperties (keeping (g.isNew i))) := by
  unfold pruneInterface
  refine congrArg (fun f => g.modify i (Node.mapProperties f)) (funext fun ps => ?_)
  refine List.filter_congr fun p _ => ?_
  rw [isNew, Bool.eq_iff_iff]
  simp [signatures, Property.signature]
  grind

theorem shares_pruneInterface (g : Graph) (i : NodeId) : g.Shares (g.pruneInterface i) :=
  .modify fun n => n.mapProperties_shares _

theorem node?_pruneInterface (g : Graph) (i j : NodeId) : (g.pruneInterface i).node? j =
    if j = i then (g.node? j).map (Node.mapProperties (keeping (g.isNew i))) else g.node? j := by
  rw [pruneInterface_eq, node?_modify]

/-- Only the interface drops anything, and only what others that it reaches declare. -/
theorem mem_signatures_pruneInterface {x : String × ValueType} :
    x ∈ (g.pruneInterface i).signatures j ↔
      x ∈ g.signatures j ∧ (j = i → g.isNew i x = true) := by
  have hproperties : (g.pruneInterface i).properties j =
      if j = i then keeping (g.isNew i) (g.properties j) else g.properties j := by
    rw [pruneInterface_eq]
    exact properties_modify_mapProperties rfl
  rw [signatures, hproperties, signatures]
  by_cases hj : j = i
  · subst hj
    simp
    grind
  · simp [hj]

/-- The pairs that an interface drops are declared by another one that it reaches, and that is
reached by all that reaches the first. -/
theorem provides_pruneInterface {x : String × ValueType} :
    (g.pruneInterface i).Provides id x ↔ g.Provides id x := by
  unfold Provides
  rw [(shares_pruneInterface g i).extends_eq]
  simp only [mem_signatures_pruneInterface]
  constructor
  · exact Or.imp And.left fun ⟨k, hk, hx⟩ => ⟨k, hk, hx.1⟩
  intro hx
  by_cases hnew : g.isNew i x = true
  · exact hx.imp (⟨·, fun _ => hnew⟩) fun ⟨k, hk, hx⟩ => ⟨k, hk, hx, fun _ => hnew⟩
  · -- Another interface holds the pair, wherever the first one stands.
    obtain ⟨k, hne, hreach, hk⟩ : ∃ k, k ≠ i ∧ g.Extends i k ∧ x ∈ g.signatures k := by
      simpa [isNew_iff] using hnew
    have hkept : x ∈ g.signatures k ∧ (k = i → g.isNew i x = true) := ⟨hk, fun h => absurd h hne⟩
    rcases hx with hx | ⟨j, hj, hx⟩
    · by_cases hid : id = i
      · exact .inr ⟨k, hid ▸ hreach, hkept⟩
      · exact .inl ⟨hx, fun h => absurd h hid⟩
    · by_cases hji : j = i
      · exact .inr ⟨k, hj.trans (hji ▸ hreach), hkept⟩
      · exact .inr ⟨j, hj, hx, fun h => absurd h hji⟩

/-! ## All interfaces -/

/-- What pruning the interfaces `done` of `g` leaves in `g'`. -/
structure Prunes (g : Graph) (done : List NodeId) (g' : Graph) : Prop where
  shares : g.Shares g'
  others : ∀ id ∉ done, g'.node? id = g.node? id
  filtered : ∀ id, ∃ f, g'.node? id = (g.node? id).map (Node.mapProperties (keeping f))
  provides : ∀ id x, g'.Provides id x ↔ g.Provides id x
  /-- A pruned interface declares nothing that it inherits. -/
  apart : ∀ i ∈ done, ∀ x ∈ g'.signatures i, g'.isNew i x = true

theorem prunes_nil (g : Graph) : g.Prunes [] g where
  shares := .refl g
  others _ _ := rfl
  filtered id := by
    have hkeep : keeping (fun _ => true) = fun ps => ps := funext fun ps => List.filter_true ps
    refine ⟨fun _ => true, ?_⟩
    rw [hkeep]
    cases g.node? id with
    | none => rfl
    | some n => rw [Option.map_some, Node.mapProperties_id]
  provides _ _ := .rfl
  apart := nofun

/-- One more interface. What is dropped from it is new to no interface that was pruned before. -/
theorem Prunes.step {done : List NodeId} (h : g.Prunes done g') (i : NodeId) :
    g.Prunes (done ++ [i]) (g'.pruneInterface i) where
  shares := h.shares.trans (shares_pruneInterface g' i)
  others id hid := by
    simp only [List.mem_append, List.mem_singleton, not_or] at hid
    rw [node?_pruneInterface, if_neg hid.2, h.others id hid.1]
  filtered id := by
    obtain ⟨f, hf⟩ := h.filtered id
    rw [node?_pruneInterface, hf]
    split
    · refine ⟨fun x => f x && g'.isNew i x, ?_⟩
      rw [Option.map_map]
      congr 1
      funext n
      simp only [Function.comp_apply, Node.mapProperties_comp]
      congr 1
      funext ps
      simp [List.filter_filter, Bool.and_comm]
    · exact ⟨f, rfl⟩
  provides id x := provides_pruneInterface.trans (h.provides id x)
  apart := by
    -- Fewer pairs are declared than before, so what was new is new.
    have hstays {j : NodeId} {x : String × ValueType} (hx : g'.isNew j x = true) :
        (g'.pruneInterface i).isNew j x = true := by
      rw [isNew_iff, (shares_pruneInterface g' i).extends_eq]
      rw [isNew_iff] at hx
      exact fun k hk hreach hmem => hx k hk hreach (mem_signatures_pruneInterface.1 hmem).1
    intro j hj x hx
    obtain ⟨hx, hnew⟩ := mem_signatures_pruneInterface.1 hx
    rcases List.mem_append.1 hj with hj | hj
    · exact hstays (h.apart j hj x hx)
    · obtain rfl := List.mem_singleton.1 hj
      exact hstays (hnew rfl)

theorem pruneDuplicates_prunes (g : Graph) : g.Prunes g.interfaceIds g.pruneDuplicates := by
  have hfold : ∀ (is done : List NodeId) (g' : Graph), g.Prunes done g' →
      g.Prunes (done ++ is) (is.foldl pruneInterface g') := by
    intro is
    induction is with
    | nil => exact fun done g' h => (List.append_nil done).symm ▸ h
    | cons i is ih =>
      intro done g' h
      have hrest := ih _ _ (h.step i)
      rwa [List.append_assoc] at hrest
  exact hfold g.interfaceIds [] g (prunes_nil g)

/-! ## What is left -/

/-- A pair that is gone from an interface is declared by another one that it reaches. -/
theorem Prunes.mem_signatures_iff {done : List NodeId} (h : g.Prunes done g') (hi : i ∈ done)
    {x : String × ValueType} (hx : x ∈ g.signatures i) :
    x ∈ g'.signatures i ↔ g'.isNew i x = true := by
  refine ⟨h.apart i hi x, fun hnew => ?_⟩
  rcases (h.provides i x).2 (.inl hx) with hx | ⟨j, hj, hx⟩
  · exact hx
  · by_cases hji : j = i
    · exact hji ▸ hx
    · exact absurd hx (isNew_iff.1 hnew j hji hj)

/-- What an interface keeps. -/
theorem Prunes.node?_eq {done : List NodeId} (h : g.Prunes done g') (hi : i ∈ done) :
    g'.node? i = (g.node? i).map (Node.mapProperties (keeping (g'.isNew i))) := by
  obtain ⟨f, hf⟩ := h.filtered i
  cases hn : g.node? i with
  | none => rw [hf, hn]; rfl
  | some n =>
    rw [hn, Option.map_some] at hf
    rw [hf, Option.map_some]
    refine congrArg some (Node.mapProperties_congr (List.filter_congr fun p hp => ?_))
    have hsignatures : g'.signatures i = (keeping f n.properties).map Property.signature := by
      rw [signatures, properties_of_node? hf, Node.properties_mapProperties_of_nil rfl]
    have hmem : p.signature ∈ g.signatures i := by
      rw [signatures, properties_of_node? hn]
      exact List.mem_map_of_mem hp
    rw [Bool.eq_iff_iff, ← h.mem_signatures_iff hi hmem, hsignatures, List.mem_map]
    constructor
    · exact fun hf => ⟨p, List.mem_filter.2 ⟨hp, hf⟩, rfl⟩
    · rintro ⟨q, hq, hqp⟩
      exact hqp ▸ (List.mem_filter.1 hq).2

theorem modify_eq_self {f : Node → Node} (h : ∀ n, g.node? i = some n → f n = n) :
    g.modify i f = g := by
  have hnodes : (g.modify i f).nodes = g.nodes := Array.ext_getElem? fun j => by
    change (g.modify i f).node? j = g.node? j
    rw [node?_modify]
    split
    · rename_i hj
      subst hj
      cases hn : g.node? j with
      | none => rfl
      | some n => rw [Option.map_some, h n hn]
    · rfl
  exact congrArg (fun nodes => { g with nodes }) hnodes

/-- An interface without duplicates is left alone. -/
theorem pruneInterface_eq_self (h : ∀ x ∈ g.signatures i, g.isNew i x = true) :
    g.pruneInterface i = g := by
  rw [pruneInterface_eq]
  refine modify_eq_self fun n hn => ?_
  refine (Node.mapProperties_congr (List.filter_eq_self.2 fun p hp => ?_)).trans n.mapProperties_id
  refine h p.signature ?_
  rw [signatures, properties_of_node? hn]
  exact List.mem_map_of_mem hp

/-- Each interface keeps, in order and unchanged, exactly the properties whose pair of a name and a
type none of the other interfaces that it reaches declares in the end, and nothing else changes. So
no node loses a pair that it or an interface that it reaches declares, also where interfaces reach
one another, and a second run finds nothing to drop. -/
theorem pruneDuplicates_keeps_offers (g : Graph) :
    let g' := g.pruneDuplicates
    (∀ id x, g'.Provides id x ↔ g.Provides id x) ∧
    (∀ i, (g.interface? i).isSome → ∀ j, j ≠ i → g.Extends i j →
      (g'.signatures i).Disjoint (g'.signatures j)) ∧
    (∀ i, (g.interface? i).isSome →
      g'.node? i = (g.node? i).map (Node.mapProperties (keeping (g'.isNew i)))) ∧
    (∀ id, g.interface? id = none → g'.node? id = g.node? id) ∧
    g'.namespaces = g.namespaces ∧ g'.Extends = g.Extends ∧
    g'.pruneDuplicates = g' := by
  intro g'
  have h := pruneDuplicates_prunes g
  refine ⟨h.provides, fun i hi j hj hreach x hx hx' => ?_, fun i hi => ?_, fun id hid => ?_,
    namespaces_pruneDuplicates g, h.shares.extends_eq, ?_⟩
  · have hnew := isNew_iff.1 (h.apart i (mem_interfaceIds.2 hi) x hx) j hj
    exact hnew (h.shares.extends_eq ▸ hreach) hx'
  · exact h.node?_eq (mem_interfaceIds.2 hi)
  · refine h.others id fun hmem => ?_
    rw [mem_interfaceIds, hid] at hmem
    cases hmem
  · refine List.foldlRecOn (motive := (· = g')) _ _ rfl fun g'' hg'' i hi => ?_
    rw [hg'']
    refine pruneInterface_eq_self (h.apart i (mem_interfaceIds.2 ?_))
    rw [← h.shares.isSome_interface?]
    exact mem_interfaceIds.1 hi

/-- Two interfaces that extend one another and declare the same. -/
def circular : Graph :=
  let declared := [Property.make 0 "Id" default default]
  let g : Graph := {
    nodes := #[.make "A" "" default (.interface { properties := declared }),
      .make "B" "" default (.interface { properties := declared })] }
  (g.addImplementer 0 1).addImplementer 1 0

-- The interface that comes first drops what it declares, and the other one keeps it.
example : circular.pruneDuplicates.properties 0 = [] ∧
    circular.pruneDuplicates.properties 1 = circular.properties 1 := by decide

end Graph

end XmlTypes
