import XmlTypes.Proofs.Steps
/-!
# How the parts of a construction nest

The construction of a class lies inside that of whatever needs the class, at any depth. `Evolves`
is this nesting: what is built in between leaves the base and the text of the classes that are
under construction alone (`Evolves.head_unchanged`), and what is opened in between is finished when
it returns (`Evolves.faithful`).
-/

namespace XmlTypes.Build

open Relation Schema

/-- The owner has a property for the member, declared or inherited, or a restriction restates it. -/
def Held (env : Environment) (s : State) (scope : Scope) (m : Member) : Prop :=
  m.key ∈ scope.restated ∨ ∃ p ∈ s.graph.flattenedProperties scope.owner,
    p.name = m.propertyName env.naming scope.ownerName

/-- The owner has a property for a wildcard, or one with the name of such a property, declared or
inherited. -/
def HoldsAny (s : State) (owner : NodeId) (isAttribute : Bool) : Prop :=
  ∃ p ∈ s.graph.flattenedProperties owner,
    p.name = wildcardName isAttribute ∨ p.isWildcard = true ∧ p.isAttribute = isAttribute

/-- The base of the type is the global complex type of the given name. -/
def HasComplexBase (ix : Index) (d : Declared ComplexType) (n : QName) : Prop :=
  (∃ method, d.definition.derivation = some ⟨n, method⟩) ∧ n.isXsd = false ∧
    ∃ g, ix.type? n = some g ∧ g.definition.isComplex = true

/-- An opened class or interface got what its definition says. -/
structure Faithful (env : Environment) (s : State) (r : Opening) : Prop where
  members : ∀ m, r.Has env.index m → Held env s r.scope m
  wildcards : ∀ isAttribute, r.HasAny env.index isAttribute → HoldsAny s r.scope.owner isAttribute
  /-- A base is the node of the type that is named. -/
  base : ∀ d derivation, r.source = .type d → d.definition.derivation = some derivation →
    isBuiltin derivation.base = false → ∃ g, env.index.type? derivation.base = some g ∧
      (g.definition.isComplex = true → ∃ b, s.graph.base? r.scope.owner = some b ∧
        Denotes env s derivation.base (.node b)) ∧
      (g.definition.isComplex = false → d.definition.simpleContent = none →
        ∃ v, s.graph.text? r.scope.owner = some v ∧ Denotes env s derivation.base v)
  baseless : ∀ d, r.source = .type d → (∀ n, ¬ HasComplexBase env.index d n) →
    s.graph.base? r.scope.owner = none
  /-- The text has the type of the simple content. -/
  text : ∀ d content, r.source = .type d → d.definition.simpleContent = some content →
    ∃ v, s.graph.text? r.scope.owner = some v ∧ Written env s (some content) v ∧
      Placed env s (d.part .simpleContent content) v

section
variable {env : Environment} {s t : State}

theorem Held.mono {scope : Scope} {m : Member} (h : Held env s scope m) (he : Extends s t) :
    Held env t scope m :=
  h.imp_right fun ⟨p, hp, hn⟩ => ⟨p, he.graph.flattenedProperties hp, hn⟩

theorem HoldsAny.mono {owner : NodeId} {isAttribute : Bool} (h : HoldsAny s owner isAttribute)
    (he : Extends s t) : HoldsAny t owner isAttribute :=
  h.imp fun _ ⟨hp, hn⟩ => ⟨he.graph.flattenedProperties hp, hn⟩

/-- What a definition says stays true as long as the base and the text of the class are left
alone. -/
theorem Faithful.mono {r : Opening} (h : Faithful env s r) (he : Extends s t)
    (hb : t.graph.base? r.scope.owner = s.graph.base? r.scope.owner)
    (ht : t.graph.text? r.scope.owner = s.graph.text? r.scope.owner) : Faithful env t r where
  members m hm := (h.members m hm).mono he
  wildcards isAttribute hany := (h.wildcards isAttribute hany).mono he
  base d derivation hd hb hx := by
    obtain ⟨g, hg, hcomplex, hsimple⟩ := h.base d derivation hd hb hx
    refine ⟨g, hg, fun hc => ?_, fun hc hs => ?_⟩
    · obtain ⟨b, hb, hn⟩ := hcomplex hc
      exact ⟨b, he.graph.base? hb, hn.mono he⟩
    · obtain ⟨v, hv, hn⟩ := hsimple hc hs
      exact ⟨v, ht ▸ hv, hn.mono he⟩
  baseless d hd hn := hb.trans (h.baseless d hd hn)
  text d content hd hc := by
    obtain ⟨v, hv, hw, hp⟩ := h.text d content hd hc
    exact ⟨v, ht ▸ hv, hw.mono he, hp.mono he⟩

end

/-- The key is that of the name of the type, or of the global element it is given in place for. -/
inductive Keys (ix : Index) (d : Declared ComplexType) : CacheKey → Prop
  | name {name} : d.definition.name = some name → Keys ix d ⟨.complexType, d.location, name⟩
  | element {n g} : ix.element? n = some g → d.place = elementTypePlace g →
      Keys ix d ⟨.elementType, g.document.location, n⟩

section
variable {ix : Index} {d : Declared ComplexType} {k : CacheKey}

theorem Keys.of_name (h : Keys ix d k) (hk : k.kind = .complexType) :
    d.location = k.location ∧ d.definition.name = some k.name := by
  cases h with
  | name hname => exact ⟨rfl, hname⟩
  | element _ _ => cases hk

theorem Keys.of_element (h : Keys ix d k) (hk : k.kind = .elementType) :
    ∃ g, ix.element? k.name = some g ∧ d.place = elementTypePlace g := by
  cases h with
  | name _ => cases hk
  | element hg hplace => exact ⟨_, hg, hplace⟩

end

/-- Classes of complex types are remembered under keys of this kind. -/
def CacheKey.IsOfType (k : CacheKey) : Prop := k.kind = .complexType ∨ k.kind = .elementType

/-- What is remembered under the key or for the place is remembered for the complex type that the
members are those of. -/
structure Source.Fits (ix : Index) (source : Source) (key : Option CacheKey)
    (place : Option Place) : Prop where
  key : ∀ k, key = some k → k.IsOfType → ∃ d, source = .type d ∧ Keys ix d k
  place : ∀ p, place = some p → ∃ d, source = .type d ∧ d.place = p

/-- What a part of a construction does. It may change the base and the text of `head`, and of what
it creates. -/
inductive Evolves (env : Environment) : (head : Option NodeId) → State → State → Prop
  | refl {s} : Evolves env none s s
  | trans {head s t u} : Evolves env head s t → Evolves env head t u → Evolves env head s u
  | nested {head s t} : Evolves env none s t → Evolves env head s t
  | change {head s t} : Change env head s t → t.context.active = s.context.active →
      Evolves env head s t
  /-- A group is expanded. -/
  | expanding {s t} (group : QName) :
      Evolves env none { s with context := s.context.enter group } t →
      Evolves env none s { t with context := t.context.leave }
  /-- A node without members from the schema is created. -/
  | create {s s₁ t n key place} : Creation env s s₁ n key place →
      (∀ k, key = some k → ¬ k.IsOfType) →
      (n.isClass = true → place = none ∧ n.IsRootClass) →
      Evolves env (some s.graph.size) s₁ t → Evolves env none s t
  /-- A class or an interface is created, opened, and given its members. -/
  | collect {s s₁ s₂ t n m key place scope source} : Creation env s s₁ n key place →
      source.Fits env.index key place → scope.owner = s.graph.size →
      Evolves env (some s.graph.size) s₁ s₂ →
      Opens env s₂ m scope source →
      Evolves env (some s.graph.size) (s₂.noted scope source) t →
      Faithful env t ⟨scope, source, s₂.context.active, s₂.graph.inheritedProperties scope.owner⟩ →
      Evolves env none s t

variable {env : Environment} {head : Option NodeId} {s t : State}

theorem Creation.size {n : Node} {key : Option CacheKey} {place : Option Place}
    (h : Creation env s t n key place) : t.graph.size = s.graph.size + 1 := by
  simp [Graph.size, h.nodes]

theorem Creation.lt_size {n : Node} {key : Option CacheKey} {place : Option Place}
    (h : Creation env s t n key place) : s.graph.size < t.graph.size :=
  h.size ▸ Nat.lt_succ_self _

theorem Creation.head_unchanged {n : Node} {key : Option CacheKey} {place : Option Place}
    (h : Creation env s t n key place) {id : NodeId} (hid : id < s.graph.size) :
    t.graph.base? id = s.graph.base? id ∧ t.graph.text? id = s.graph.text? id := by
  have hn : t.graph.node? id = s.graph.node? id := by rw [h.node?, if_neg (Nat.ne_of_lt hid)]
  exact ⟨Graph.base?_congr (by rw [hn]), Graph.text?_congr (by rw [hn])⟩

namespace Evolves

/-! ## As a sequence of steps -/

theorem moves (h : Evolves env head s t) : ReflTransGen (Moves env) s t := by
  induction h with
  | refl => exact .refl
  | trans _ _ ih ih' => exact ih.trans ih'
  | nested _ ih => exact ih
  | change h _ => exact .single (.change h)
  | expanding group _ ih => exact .head (.enter group) (ih.tail (.leave env))
  | create h _ _ _ ih => exact .head (.create h) ih
  | collect h _ _ _ ho _ _ ih ih' => exact .head (.create h) (ih.trans (.head (.opening ho) ih'))

/-- What every step keeps is kept. -/
theorem invariant (h : Evolves env head s t) {P : State → Prop} (hs : P s)
    (hstep : ∀ t u, Moves env t u → P t → P u) : P t := by
  replace h := h.moves
  induction h with
  | refl => exact hs
  | tail _ hm ih => exact hstep _ _ hm ih

theorem extend (h : Evolves env head s t) : Extends s t :=
  h.invariant (.refl s) fun _ _ hm hs => hs.trans hm.extend

theorem sound (h : Evolves env head s t) (hs : Sound env s) : Sound env t :=
  h.invariant hs fun _ _ => Moves.sound

/-- The groups that are being expanded are the same in the end. -/
theorem active (h : Evolves env head s t) : t.context.active = s.context.active := by
  induction h with
  | refl => rfl
  | trans _ _ ih ih' => exact ih'.trans ih
  | nested _ ih => exact ih
  | change _ ha => exact ha
  | expanding group _ ih =>
    simp only [Context.leave, ih, Context.enter, List.dropLast_concat]
  | create h _ _ _ ih => exact ih.trans (h.context ▸ Context.active_remember _ _ _ _)
  | collect h _ _ _ _ _ _ ih ih' =>
    exact ih'.trans (ih.trans (h.context ▸ Context.active_remember _ _ _ _))

/-! ## Frames -/

/-- The base and the text of a class that is there already change only where they may. -/
theorem head_unchanged (h : Evolves env head s t) {id : NodeId} (hid : id < s.graph.size)
    (hh : head ≠ some id) :
    t.graph.base? id = s.graph.base? id ∧ t.graph.text? id = s.graph.text? id := by
  induction h with
  | refl => exact ⟨rfl, rfl⟩
  | trans h _ ih ih' =>
    obtain ⟨hb, ht⟩ := ih hid hh
    obtain ⟨hb', ht'⟩ := ih' (Nat.lt_of_lt_of_le hid h.extend.graph.size) hh
    exact ⟨hb'.trans hb, ht'.trans ht⟩
  | nested _ ih => exact ih hid nofun
  | change h _ => exact h.head_unchanged hh
  | expanding _ _ ih => exact ih hid nofun
  | create h _ _ _ ih =>
    have hlt := Nat.lt_of_lt_of_le hid h.extend.graph.size
    obtain ⟨hb, ht⟩ := ih hlt (by simpa using Nat.ne_of_gt hid)
    exact ⟨hb.trans (h.head_unchanged hid).1, ht.trans (h.head_unchanged hid).2⟩
  | collect h _ _ h₂ _ _ _ ih ih' =>
    have hlt := Nat.lt_of_lt_of_le hid h.extend.graph.size
    obtain ⟨hb, ht⟩ := ih hlt (by simpa using Nat.ne_of_gt hid)
    obtain ⟨hb', ht'⟩ := ih' (Nat.lt_of_lt_of_le hlt h₂.extend.graph.size)
      (by simpa using Nat.ne_of_gt hid)
    exact ⟨hb'.trans (hb.trans (h.head_unchanged hid).1),
      ht'.trans (ht.trans (h.head_unchanged hid).2)⟩

/-! ## Everything opened is finished -/

/-- What is opened in between belongs to a new node, and has got its members by the end. -/
theorem faithful (h : Evolves env head s t) (hh : ∀ id, head = some id → id < s.graph.size) :
    ∀ r ∈ t.journal, r ∈ s.journal ∨
      s.graph.size ≤ r.scope.owner ∧ r.scope.owner < t.graph.size ∧ Faithful env t r := by
  induction h with
  | refl => exact fun r hr => .inl hr
  | @trans head s t u h h' ih ih' =>
    intro r hr
    have hsize := h.extend.graph.size
    rcases ih' (fun id hid => Nat.lt_of_lt_of_le (hh id hid) hsize) r hr with hr | ⟨hl, hu, hf⟩
    · refine (ih hh r hr).imp_right fun ⟨hl, hu, hf⟩ => ?_
      have hhead : head ≠ some r.scope.owner := fun e => absurd (hh _ e) (Nat.not_lt.2 hl)
      exact ⟨hl, Nat.lt_of_lt_of_le hu h'.extend.graph.size,
        hf.mono h'.extend (h'.head_unchanged hu hhead).1 (h'.head_unchanged hu hhead).2⟩
    · exact .inr ⟨Nat.le_trans hsize hl, hu, hf⟩
  | nested _ ih => exact ih nofun
  | change h _ =>
    intro r hr
    exact .inl (h.journal ▸ hr)
  | expanding _ h ih =>
    intro r hr
    exact (ih nofun r hr).imp_right fun ⟨hl, hu, hf⟩ =>
      ⟨hl, hu, hf.mono (Moves.leave env).extend rfl rfl⟩
  | create h _ _ _ ih =>
    intro r hr
    rcases ih (fun id hid => Option.some.inj hid ▸ h.lt_size) r hr with hr | ⟨hl, hu, hf⟩
    · exact .inl (h.journal ▸ hr)
    · exact .inr ⟨Nat.le_trans h.extend.graph.size hl, hu, hf⟩
  | @collect s s₁ s₂ t n m key place scope source h _ ho h₂ hopen h₃ hfaithful ih ih' =>
    intro r hr
    rw [← ho] at ih ih' h₂ h₃
    have hlt : scope.owner < s₁.graph.size := ho ▸ h.lt_size
    have hlt₂ := Nat.lt_of_lt_of_le hlt h₂.extend.graph.size
    have hsize := h.extend.graph.size
    have hnoted : Extends s₂ (s₂.noted scope source) := (Moves.opening hopen).extend
    -- An opening is the one at hand, or is made before or after it.
    rcases ih' (fun id hid => Option.some.inj hid ▸ hlt₂) r hr with hr | ⟨hl, hu, hf⟩
    · rcases List.mem_cons.1 hr with rfl | hr
      · exact .inr ⟨Nat.le_of_eq ho.symm, Nat.lt_of_lt_of_le hlt₂ h₃.extend.graph.size, hfaithful⟩
      · rcases ih (fun id hid => Option.some.inj hid ▸ hlt) r hr with hr | ⟨hl, hu, hf⟩
        · exact .inl (h.journal ▸ hr)
        · have hne : some scope.owner ≠ some r.scope.owner := fun e =>
            absurd hlt (Nat.not_lt.2 (Option.some.inj e ▸ hl))
          exact .inr ⟨Nat.le_trans hsize hl, Nat.lt_of_lt_of_le hu h₃.extend.graph.size,
            hf.mono (hnoted.trans h₃.extend) (h₃.head_unchanged hu hne).1
              (h₃.head_unchanged hu hne).2⟩
    · exact .inr ⟨Nat.le_trans hsize (Nat.le_trans h₂.extend.graph.size hl), hu, hf⟩

/-! ## Every class of a complex type is opened -/

/-- A class is opened for a complex type, or is made for a root element. -/
theorem opened_of_class (h : Evolves env head s t) {n : Node} {id : NodeId}
    (hn : t.graph.node? id = some n) (hclass : n.isClass = true) (hid : s.graph.size ≤ id)
    (hh : ∀ id, head = some id → id < s.graph.size) :
    OpenedFor t id (fun _ => True) ∨ n.IsRootClass := by
  induction h generalizing n with
  | refl => exact absurd (Graph.lt_size_of_node? hn) (Nat.not_lt.2 hid)
  | @trans head s t u h h' ih ih' =>
    have hsize := h.extend.graph.size
    rcases Nat.lt_or_ge id t.graph.size with hlt | hge
    · obtain ⟨m, hm⟩ := Option.isSome_iff_exists.1 (Graph.node?_isSome.2 hlt)
      obtain ⟨n', hn', hgrows⟩ := h'.extend.graph.nodes id m hm
      obtain rfl := Option.some.inj (hn.symm.trans hn')
      rw [Node.isClass_congr hgrows.label] at hclass
      exact (ih hm hclass hid hh).imp (·.mono h'.extend) hgrows.isRootClass.2
    · exact ih' hn hclass hge fun id hid => Nat.lt_of_lt_of_le (hh id hid) hsize
  | nested _ ih => exact ih hn hclass hid nofun
  | change h _ => exact absurd (h.size ▸ Graph.lt_size_of_node? hn) (Nat.not_lt.2 hid)
  | expanding _ _ ih => exact ih hn hclass hid nofun
  | @create s s₁ t m key place h _ hroot h' ih =>
    rcases Nat.eq_or_lt_of_le hid with rfl | hlt
    · obtain ⟨n', hn', hgrows⟩ := h'.extend.graph.nodes s.graph.size m
        (by rw [h.node?, if_pos rfl])
      obtain rfl := Option.some.inj (hn.symm.trans hn')
      rw [Node.isClass_congr hgrows.label] at hclass
      exact .inr (hgrows.isRootClass.2 (hroot hclass).2)
    · exact ih hn hclass (h.size ▸ hlt) fun id hid => Option.some.inj hid ▸ h.lt_size
  | @collect s s₁ s₂ t k m key place scope source h _ howner h₂ hopens h₃ _ ih ih' =>
    have hnoted := (Moves.opening hopens).extend.trans h₃.extend
    have hlt₂ := Nat.lt_of_lt_of_le h.lt_size h₂.extend.graph.size
    rcases Nat.lt_or_ge id s₂.graph.size with hlt | hge
    · obtain ⟨m', hm⟩ := Option.isSome_iff_exists.1 (Graph.node?_isSome.2 hlt)
      obtain ⟨n', hn', hgrows⟩ := hnoted.graph.nodes id m' hm
      obtain rfl := Option.some.inj (hn.symm.trans hn')
      rw [Node.isClass_congr hgrows.label] at hclass
      rcases Nat.eq_or_lt_of_le hid with rfl | hlt
      · -- The class at hand.
        obtain rfl := Option.some.inj (hopens.node.symm.trans (howner ▸ hm))
        obtain ⟨d, hd⟩ := hopens.type hclass
        exact .inl ⟨_, h₃.extend.journal List.mem_cons_self, howner, d, hd, trivial⟩
      · refine (ih hm hclass (h.size ▸ hlt) fun id hid => ?_).imp (·.mono hnoted)
          hgrows.isRootClass.2
        exact Option.some.inj hid ▸ h.lt_size
    · exact ih' hn hclass hge fun id hid => Option.some.inj hid ▸ hlt₂

/-- A class that gets remembered for a complex type by its key is opened for the type. -/
theorem opened_of_key (h : Evolves env head s t) {k : CacheKey} (hkind : k.IsOfType) {id : NodeId}
    (hk : t.context.cache.get? k = some id) : s.context.cache.get? k = some id ∨
      (k.kind = .elementType ∧ ∃ n, t.graph.node? id = some n ∧ n.isClass = false) ∨
        OpenedFor t id (Keys env.index · k) := by
  induction h with
  | refl => exact .inl hk
  | trans _ h' ih ih' =>
    rcases ih' hk with hk | ho
    · exact (ih hk).imp_right (.imp (.imp_right h'.extend.graph.not_class) (·.mono h'.extend))
    · exact .inr ho
  | nested _ ih => exact ih hk
  | change h _ =>
    rcases h.of_get? hk with hk | hk | ⟨hk, -⟩
    · exact .inl hk
    · exact .inr (.inl ⟨hk.1, hk.2.1⟩)
    · rcases hkind with hkind | hkind <;> rw [hk] at hkind <;> cases hkind
  | expanding _ _ ih => exact ih hk
  | create h hkey _ _ ih =>
    refine (ih hk).imp_left fun hk => ?_
    exact (h.of_get? hk).resolve_right fun ⟨he, _⟩ => hkey k he hkind
  | collect h hfits howner _ hopens h₃ _ ih ih' =>
    -- The key is found first after the last part, between creation and opening, or at creation.
    have hnoted := (Moves.opening hopens).extend.trans h₃.extend
    rcases ih' hk with hk | ho
    · rcases ih hk with hk | ho
      · refine (h.of_get? hk).imp_right fun ⟨he, hid⟩ => .inr ?_
        obtain ⟨d, hd⟩ := hfits.key k he hkind
        exact ⟨_, h₃.extend.journal List.mem_cons_self, howner.trans hid.symm, d, hd⟩
      · exact .inr (ho.imp (.imp_right hnoted.graph.not_class) (·.mono hnoted))
    · exact .inr ho

/-- What gets remembered for a type given in place is no class, or is opened for the type. -/
theorem opened_of_place (h : Evolves env head s t) {p : Place} {id : NodeId}
    (hp : t.context.inlineType? p = some id) : s.context.inlineType? p = some id ∨
      (∃ n, t.graph.node? id = some n ∧ n.isClass = false) ∨ OpenedFor t id (·.place = p) := by
  induction h with
  | refl => exact .inl hp
  | trans _ h' ih ih' =>
    rcases ih' hp with hp | ho
    · exact (ih hp).imp_right (.imp h'.extend.graph.not_class (·.mono h'.extend))
    · exact .inr ho
  | nested _ ih => exact ih hp
  | change h _ => exact .inl (h.inlineType? p ▸ hp)
  | expanding _ _ ih => exact ih hp
  | @create s s₁ t n key place h _ hplace h' ih =>
    rcases ih hp with hp | ho
    · refine (h.of_inlineType? hp).imp_right fun ⟨he, hid⟩ => .inl (h'.extend.graph.not_class ?_)
      refine ⟨n, by rw [h.node?, if_pos hid], Bool.eq_false_iff.2 fun hc => ?_⟩
      rw [(hplace hc).1] at he
      cases he
    · exact .inr ho
  | collect h hfits howner _ hopens h₃ _ ih ih' =>
    have hnoted := (Moves.opening hopens).extend.trans h₃.extend
    rcases ih' hp with hp | ho
    · rcases ih hp with hp | ho
      · refine (h.of_inlineType? hp).imp_right fun ⟨he, hid⟩ => .inr ?_
        obtain ⟨d, hd⟩ := hfits.place p he
        exact ⟨_, h₃.extend.journal List.mem_cons_self, howner.trans hid.symm, d, hd⟩
      · exact .inr (ho.imp hnoted.graph.not_class (·.mono hnoted))
    · exact .inr ho

end Evolves

end XmlTypes.Build
