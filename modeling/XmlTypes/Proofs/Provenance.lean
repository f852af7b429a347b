import XmlTypes.Proofs.Registering
import XmlTypes.Proofs.Substituting
/-!
# Where properties come from

A property of a finished graph stands for a wildcard, for the first stop with its name along the
opening of its owner, or, where substitutes are separate, for a substitute beside the property for
its head. Where substitutes are merged, the properties for references to heads, and no others, have
the substitutes that are registered.
-/

namespace XmlTypes.Build

open Relation Schema

/-! ## After a construction -/

/-- The state that a construction ends with. -/
structure Completed (env : Environment) (resolver : Resolver) (s : State) : Prop
    extends Stage env resolver s where
  recorded : Recorded env s
  joined : ∀ n g, env.index.element? n = some g → Joined s g
  known : ∀ n g, env.index.element? n = some g → ∃ v, KnownFor env s g v
  listed : ∀ n g head, env.index.element? n = some g → g.definition.substitutionGroup = some head →
    g ∈ env.index.substitutionMembers head

variable {env : Environment} {resolver : Resolver} {s : State} {id : NodeId} {m m' : Stop}
  {p q : Property}

theorem run_completed {set : SchemaSet} {options : Options} {naming : Naming}
    (h : run (.ofSet set options naming) resolver = .ok s) :
    Completed (.ofSet set options naming) resolver s := by
  have hix : (Environment.ofSet set options naming).index.Lawful := Index.lawful_ofSet set
  obtain ⟨hstage, hjoined⟩ := run_registered hix h
  exact ⟨hstage, run_recorded hix h, fun n g hg => (hjoined n g hg).1,
    fun n g hg => (hjoined n g hg).2, fun _ _ _ => Index.mem_substitutionMembers⟩

/-- The stop is the first with its name along the opening of the node, and gives the property. -/
def ComesFrom (env : Environment) (s : State) (id : NodeId) (m : Stop) (p : Property) : Prop :=
  ∃ r ∈ s.journal, r.scope.owner = id ∧ ∃ stops, r.Along env.index stops ∧ Gives env s r stops m p

/-- The property was added for the stop, whatever has become of its name and its substitutes. -/
def AddedFor (env : Environment) (s : State) (id : NodeId) (m : Stop) (p : Property) : Prop :=
  ∃ q, ComesFrom env s id m q ∧ p.bare = q.bare

theorem Property.isWildcard_of_bare (h : p.bare = q.bare) : p.isWildcard = q.isWildcard :=
  congrArg (·.isWildcard) h

theorem ComesFrom.isWildcard (h : ComesFrom env s id m p) : p.isWildcard = false := by
  obtain ⟨r, -, -, stops, -, hgives⟩ := h
  exact hgives.isWildcard

/-- What a property stands for is seen by its name in the schema. -/
theorem ComesFrom.key (h : ComesFrom env s id m p) : (p.schemaName, p.isAttribute) = m.key := by
  obtain ⟨r, -, -, stops, -, hgives⟩ := h
  obtain ⟨type, order, -, rfl⟩ := hgives.property
  exact Prod.ext Stop.schemaName_property Stop.isAttribute_property

theorem AddedFor.key (h : AddedFor env s id m p) : (p.schemaName, p.isAttribute) = m.key := by
  obtain ⟨q, hq, hbare⟩ := h
  rw [← hq.key]
  exact congrArg (fun p => (p.schemaName, p.isAttribute)) hbare

theorem AddedFor.isWildcard (h : AddedFor env s id m p) : p.isWildcard = false := by
  obtain ⟨q, hq, hbare⟩ := h
  rw [Property.isWildcard_of_bare hbare, hq.isWildcard]

/-- A node has one stop for each name. -/
theorem AddedFor.unique (hs : Recorded env s) (h : AddedFor env s id m p)
    (h' : AddedFor env s id m' p) : m = m' := by
  have hkey : m.key = m'.key := h.key.symm.trans h'.key
  obtain ⟨q, ⟨r, hr, hid, stops, halong, hgives⟩, -⟩ := h
  obtain ⟨q', ⟨r', hr', hid', stops', halong', hgives'⟩, -⟩ := h'
  obtain rfl := hs.opening_eq hr hr' (hid'.trans hid.symm)
  obtain rfl := halong.unique halong'
  have hfirst := hgives.first
  rw [hkey, hgives'.first] at hfirst
  exact (Option.some.inj hfirst).symm

theorem ComesFrom.addedFor (h : ComesFrom env s id m p) : AddedFor env s id m p := ⟨p, h, rfl⟩

/-- Where stops have one name, so have their properties. -/
theorem ComesFrom.name_eq {p' : Property} (hs : Recorded env s) (h : ComesFrom env s id m p)
    (h' : ComesFrom env s id m' p') (hkey : m.key = m'.key) : p.name = p'.name := by
  obtain ⟨r, hr, hid, stops, -, hgives⟩ := h
  obtain ⟨r', hr', hid', stops', -, hgives'⟩ := h'
  obtain rfl := hs.opening_eq hr hr' (hid'.trans hid.symm)
  obtain ⟨_, _, -, rfl⟩ := hgives.property
  obtain ⟨_, _, -, rfl⟩ := hgives'.property
  rw [Stop.name_property, Stop.name_property, Stop.propertyName_of_key _ _ hkey]

/-- The property was added for an element that may stand in for the one that a stop refers to,
beside the property for the stop. -/
def AddedBeside (env : Environment) (s : State) (id : NodeId) (m : Stop) (x : Substitute)
    (p : Property) : Prop :=
  ∃ head, ComesFrom env s id m head ∧ m.RefersTo head.schemaName ∧
    x ∈ s.context.substitutions.substitutesOf head.schemaName ∧
    ∃ ownerName, p.bare = (substituteProperty env.naming id ownerName head x).bare

/-! ## Before substitutes are attached -/

/-- What agrees in something that tells the members of a list apart is there once. -/
theorem countP_le_one {α β : Type} {f : α → β} {c : α → Bool} {as : List α}
    (hn : (as.map f).Nodup) (h : ∀ a ∈ as, ∀ b ∈ as, c a = true → c b = true → f a = f b) :
    as.countP c ≤ 1 := by
  induction as with
  | nil => exact Nat.zero_le 1
  | cons a as ih =>
    obtain ⟨hnot, hn⟩ := List.nodup_cons.1 hn
    by_cases ha : c a = true
    · have hrest : as.countP c = 0 := by
        refine List.countP_eq_zero.2 fun b hb hcb => hnot ?_
        rw [h a List.mem_cons_self b (List.mem_cons_of_mem a hb) ha hcb]
        exact List.mem_map_of_mem hb
      rw [List.countP_cons_of_pos ha, hrest]
    · rw [List.countP_cons_of_neg ha]
      exact ih hn fun x hx y hy => h x (List.mem_cons_of_mem a hx) y (List.mem_cons_of_mem a hy)

namespace Completed

variable (hs : Completed env resolver s)

include hs

/-- What is opened has got what its definition says. -/
theorem faithful {r : Opening} (hr : r ∈ s.journal) : Faithful env s r :=
  ((hs.built.faithful nofun r hr).resolve_left nofun).2.2

/-- A property is for a wildcard or for a stop. -/
theorem origin (hp : p ∈ s.graph.properties id) :
    p.isWildcard = true ∧ p.substitutes = [] ∨ ∃ m, ComesFrom env s id m p := by
  obtain ⟨r, hr, rfl, -⟩ := hs.recorded.arises id p hp
  obtain ⟨stops, halong, hfilled⟩ := (hs.complete r hr).filled
  exact (hfilled.arises p hp).imp_right fun ⟨m, hm⟩ => ⟨m, r, hr, rfl, stops, halong, hm⟩

/-- The properties for references to heads wait, and no others. -/
theorem waitsAt_iff (hp : p ∈ s.graph.properties id) :
    WaitsAt s.context.substitutions.sites id p ↔
      ∃ head, env.index.substitutionMembers head ≠ [] ∧
        ∃ m, ComesFrom env s id m p ∧ m.RefersTo head := by
  obtain ⟨r, hr, rfl, -⟩ := hs.recorded.arises id p hp
  obtain ⟨stops, halong, hfilled⟩ := (hs.complete r hr).filled
  have hcomes {m : Stop} {p : Property} (hm : Gives env s r stops m p) :
      ComesFrom env s r.scope.owner m p := ⟨r, hr, rfl, stops, halong, hm⟩
  constructor
  · rintro ⟨helement, hsite⟩
    obtain ⟨hne, p', hp', m', hm', hrefers⟩ := (hfilled.sites p.schemaName).1 hsite
    refine ⟨p.schemaName, hne, ?_⟩
    obtain ⟨hattribute, hwildcard, -⟩ := isElement_iff.1 helement
    -- The property for the reference is this one, since both have the name of the head.
    rcases hfilled.arises p hp with ⟨hw, -⟩ | ⟨m, hm⟩
    · exact absurd (hwildcard.symm.trans hw) Bool.false_ne_true
    · have hkey : m.key = m'.key := by
        rw [← (hcomes hm).key, hrefers.key, hattribute]
      have hfirst := hm.first
      rw [hkey, hm'.first] at hfirst
      exact ⟨m, hcomes hm, Option.some.inj hfirst ▸ hrefers⟩
  · rintro ⟨head, hne, m, hm, hrefers⟩
    have hkey := hm.key.trans hrefers.key
    obtain ⟨hname, hattribute⟩ := Prod.mk.inj hkey
    refine ⟨isElement_iff.2 ⟨hattribute, hm.isWildcard, rfl⟩, hname ▸ ?_⟩
    obtain ⟨r', hr', hid, stops', halong', hgives⟩ := hm
    obtain rfl := hs.recorded.opening_eq hr hr' hid
    obtain rfl := halong.unique halong'
    exact (hfilled.sites head).2 ⟨hne, p, hp, m, hgives, hrefers⟩

theorem substitutes_nil (hp : p ∈ s.graph.properties id) : p.substitutes = [] := by
  rcases hs.origin hp with ⟨-, hnil⟩ | ⟨m, r, -, -, stops, -, hgives⟩
  · exact hnil
  · obtain ⟨type, order, -, rfl⟩ := hgives.property
    exact Stop.substitutes_property

/-- Elements of one name have one property, since it is named after them. -/
theorem soleElements : SoleElements s.graph := by
  intro id name
  have horigin {p : Property} (hp : p ∈ s.graph.properties id) (h : p.isElement name = true) :
      ∃ m, ComesFrom env s id m p ∧ m.key = (name, false) := by
    obtain ⟨hattribute, hwildcard, hname⟩ := isElement_iff.1 h
    rcases hs.origin hp with ⟨hw, -⟩ | ⟨m, hm⟩
    · exact absurd (hwildcard.symm.trans hw) Bool.false_ne_true
    · exact ⟨m, hm, by rw [← hm.key, hname, hattribute]⟩
  refine countP_le_one (hs.recorded.names id) fun p hp p' hp' h h' => ?_
  obtain ⟨m, hm, hkey⟩ := horigin hp h
  obtain ⟨m', hm', hkey'⟩ := horigin hp' h'
  exact hm.name_eq hs.recorded hm' (hkey.trans hkey'.symm)

/-! ### Who is registered -/

theorem member_iff {head n : QName} : s.context.substitutions.Member head n ↔
    ∃ g, g.definition.name = n ∧ Joins env.index head g := by
  constructor
  · rintro ⟨x, hx, rfl⟩
    obtain ⟨-, g, hg, hjoins, -⟩ := hs.registered.members head x hx
    exact ⟨g, hg, hjoins⟩
  · rintro ⟨g, rfl, hjoins⟩
    exact (hs.joined _ g hjoins.1 head hjoins.2).1

/-- Of the members of a group the abstract ones are known to be abstract. -/
theorem mem_abstractMembers_iff {head : QName} {g : Global ElementDecl}
    (hg : Joins env.index head g) :
    g.definition.name ∈ s.context.substitutions.abstractMembers ↔
      g.definition.isAbstract = true := by
  constructor
  · intro h
    obtain ⟨g', _, hname, hjoins, habstract⟩ := hs.registered.abstractMembers _ h
    rw [Joins, hname, hg.1] at hjoins
    exact Option.some.inj hjoins.1 ▸ habstract
  · exact (hs.joined _ g hg.1 head hg.2).2

/-- A head with substitutes has members. -/
theorem substitutionMembers_ne_nil {head : QName}
    (h : s.context.substitutions.substitutesOf head ≠ []) :
    env.index.substitutionMembers head ≠ [] := by
  obtain ⟨x, hx⟩ := List.exists_mem_of_ne_nil _ h
  obtain ⟨hreach, -⟩ := ((s.context.substitutions.substitutesOf_spec head).2 _).1 ⟨x, hx, rfl⟩
  obtain ⟨n, hfirst, -⟩ := TransGen.head'_iff.1 hreach
  obtain ⟨g, -, hjoins⟩ := hs.member_iff.1 hfirst
  exact List.ne_nil_of_mem (hs.listed _ g head hjoins.1 hjoins.2)

/-! ### Afterwards -/

/-- Where substitutes are merged, a property is for a wildcard or for a stop, and has the
substitutes for its head if it is for a reference. -/
theorem merged (hstrategy : env.options.substitutionStrategy = .merge)
    (hq : q ∈ (s.finished env).properties id) :
    q.isWildcard = true ∧ q.substitutes = [] ∨ ∃ m, AddedFor env s id m q ∧
      (∀ head, m.RefersTo head →
        q.substitutes = s.context.substitutions.substitutesOf head) ∧
      ((∀ head, ¬ m.RefersTo head) → q.substitutes = []) := by
  obtain ⟨q', hq', hbare, hsubstitutes⟩ := finished_arises hq
  rw [State.attached, properties_merged hstrategy hs.soleElements] at hq'
  obtain ⟨p, hp, rfl⟩ := List.mem_map.1 hq'
  have hplain : q.bare = p.bare := by
    rw [hbare]
    exact congrArg Property.unnamed (plain_merged _ _ _ p)
  have hnil := hs.substitutes_nil hp
  rcases hs.origin hp with ⟨hw, -⟩ | ⟨m, hm⟩
  · have hno : ¬ WaitsAt s.context.substitutions.sites id p := fun h =>
      Bool.false_ne_true ((isElement_iff.1 h.1).2.1.symm.trans hw)
    rw [hsubstitutes, merged_of_not hno]
    exact .inl ⟨(Property.isWildcard_of_bare hplain).trans hw, hnil⟩
  refine .inr ⟨m, ⟨p, hm, hplain⟩, fun head hrefers => ?_, fun hno => ?_⟩
  · have hname : p.schemaName = head := (Prod.mk.inj (hm.key.trans hrefers.key)).1
    rw [hsubstitutes, Substitutions.merged, hname]
    split
    · rfl
    · rename_i hidle
      rw [hnil]
      by_contra hne
      have hsome := hs.substitutionMembers_ne_nil (Ne.symm hne)
      exact hidle ⟨(hs.waitsAt_iff hp).2 ⟨head, hsome, m, hm, hrefers⟩, Ne.symm hne⟩
  · have hidle : ¬ WaitsAt s.context.substitutions.sites id p := fun h => by
      obtain ⟨head, -, m', hm', hrefers⟩ := (hs.waitsAt_iff hp).1 h
      exact hno head (hm.addedFor.unique hs.recorded hm'.addedFor ▸ hrefers)
    rw [hsubstitutes, merged_of_not hidle, hnil]

/-- The properties that wait are there. -/
theorem isSome_siteProperty? {site : Site} (hsite : site ∈ s.context.substitutions.sites) :
    (siteProperty? s.graph site).isSome := by
  obtain ⟨p, hp⟩ := List.exists_mem_of_ne_nil _ (hs.ready.waiting site hsite)
  obtain ⟨r, hr, hid, -⟩ := hs.recorded.arises site.owner p hp
  obtain ⟨stops, halong, hfilled⟩ := (hs.complete r hr).filled
  obtain ⟨owner, head⟩ := site
  obtain rfl : r.scope.owner = owner := hid
  obtain ⟨-, q, hq, m, hgives, hrefers⟩ := (hfilled.sites head).1 hsite
  have hkey := ComesFrom.key ⟨r, hr, rfl, stops, halong, hgives⟩
  obtain ⟨hname, hattribute⟩ := Prod.mk.inj (hkey.trans hrefers.key)
  exact List.find?_isSome.2 ⟨q, hq, isElement_iff.2 ⟨hattribute, hgives.isWildcard, hname⟩⟩

theorem separates (hstrategy : env.options.substitutionStrategy = .separate) :
    Separates env s.context.substitutions s.graph (s.attached env) :=
  attachSubstitutes_separates (fun _ hsite => hs.isSome_siteProperty? hsite) hstrategy

/-- A property is for a wildcard, for a stop, or for what may stand in for the element of a
stop. -/
theorem finished_origin (hq : q ∈ (s.finished env).properties id) :
    q.isWildcard = true ∨ (∃ m, AddedFor env s id m q) ∨
      env.options.substitutionStrategy = .separate ∧ ∃ m x, AddedBeside env s id m x q := by
  cases hstrategy : env.options.substitutionStrategy with
  | merge =>
    rcases hs.merged hstrategy hq with ⟨hw, -⟩ | ⟨m, hm, -⟩
    · exact .inl hw
    · exact .inr (.inl ⟨m, hm⟩)
  | separate =>
    obtain ⟨q', hq', hbare, -⟩ := finished_arises hq
    rcases (hs.separates hstrategy).added id q' hq' with hp | ⟨head, hhead, hwaits, x, hx, ownerName, rfl⟩
    · rcases hs.origin hp with ⟨hw, -⟩ | ⟨m, hm⟩
      · exact .inl ((Property.isWildcard_of_bare hbare).trans hw)
      · exact .inr (.inl ⟨m, q', hm, hbare⟩)
    · obtain ⟨name, -, m, hm, hrefers⟩ := (hs.waitsAt_iff hhead).1 hwaits
      have hname : head.schemaName = name := (Prod.mk.inj (hm.key.trans hrefers.key)).1
      exact .inr (.inr ⟨rfl, m, x, head, hm, hname ▸ hrefers, hx, ownerName, hbare⟩)

end Completed

end XmlTypes.Build
