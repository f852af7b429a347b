import XmlTypes.Proofs.Finishing
import XmlTypes.Proofs.RootRuns
/-!
# What classes derive from

In a finished graph links stand at both of their ends. Each class is built for one complex type of
the schema, and derives from the class of the base of that type, or it is made for a root element,
and derives from the class that the element shares with others.
-/

namespace XmlTypes.Build

open Schema

/-- The class is built for a complex type of the schema. -/
def BuiltFor (env : Environment) (s : State) (id : NodeId) (d : Declared ComplexType) : Prop :=
  Belongs env.index (.type d) ∧ OpenedFor s id (· = d)

/-- What each class of a finished graph is there for, and its base. -/
structure Derives (env : Environment) (s : State) (g : Graph) : Prop where
  /-- A class is built for a complex type, or is made for a root element. -/
  classes : ∀ id n, g.node? id = some n → n.isClass = true →
    (∃ d, BuiltFor env s id d) ∨ n.IsRootClass
  /-- It is built for one type only. -/
  unique : ∀ id d d', BuiltFor env s id d → BuiltFor env s id d' → d = d'
  /-- The base is the class of the base of the type. -/
  base : ∀ id d n, BuiltFor env s id d → HasComplexBase env.index d n →
    ∃ b, g.base? id = some b ∧ Denotes env s n (.node b) ∧ OpenedFor s b (DeclaredAs env.index n)
  baseless : ∀ id d, BuiltFor env s id d → (∀ n, ¬ HasComplexBase env.index d n) →
    g.base? id = none
  /-- The base of a class for a root element is the class that the element shares with others. -/
  root : ∀ id n, g.node? id = some n → n.isClass = true → n.IsRootClass →
    ∃ e b, env.index.element? e.definition.name = some e ∧ n.root = some e.definition.name ∧
      NamedFor env s e b ∧ g.base? id = some b ∧
      ∃ m, g.node? b = some m ∧ m.isClass = true ∧ m.isAbstractRoot = true

variable {env : Environment} {resolver : Resolver} {s : State} {id : NodeId}

theorem BuiltFor.unique (hr : Recorded env s) {d d' : Declared ComplexType}
    (h : BuiltFor env s id d) (h' : BuiltFor env s id d') : d = d' := by
  obtain ⟨-, r, hmem, rfl, _, hd, rfl⟩ := h
  obtain ⟨-, r', hmem', howner, _, hd', rfl⟩ := h'
  obtain rfl := hr.opening_eq hmem hmem' howner
  exact Source.type.inj (hd.symm.trans hd')

/-- A class that is opened for a type is built for it. -/
theorem OpenedFor.builtFor (hr : Recorded env s) {kind : Declared ComplexType → Prop}
    (h : OpenedFor s id kind) : ∃ d, BuiltFor env s id d ∧ kind d := by
  obtain ⟨r, hmem, rfl, d, hd, hk⟩ := h
  exact ⟨d, ⟨((hr.openings r hmem).type d hd).2, r, hmem, rfl, d, hd, rfl⟩, hk⟩

theorem finished_base (hix : env.index.Lawful) (h : run env resolver = .ok s)
    {d : Declared ComplexType} {n : QName} (hd : BuiltFor env s id d)
    (hn : HasComplexBase env.index d n) : ∃ b, (s.finished env).base? id = some b ∧
      Denotes env s n (.node b) ∧ OpenedFor s b (DeclaredAs env.index n) := by
  obtain ⟨-, r, hmem, rfl, _, hd, rfl⟩ := hd
  obtain ⟨⟨method, hderivation⟩, hxsd, g, hg, hk⟩ := hn
  have hb : isBuiltin n = false := by simp [isBuiltin, hxsd]
  obtain ⟨g', hg', hcomplex, -⟩ := (run_faithful hix h hmem).base _ _ hd hderivation hb
  obtain rfl := Option.some.inj (hg.symm.trans hg')
  obtain ⟨b, hbase, hdenotes⟩ := hcomplex hk
  have hclass := (run_recorded hix h).linked.isSome_class? hbase
  exact ⟨b, by rw [(s.finished_shares env).base?, hbase], hdenotes,
    hdenotes.opened (run_ok hix h).1 hclass⟩

theorem finished_derives (hix : env.index.Lawful) (h : run env resolver = .ok s) :
    Derives env s (s.finished env) := by
  have hr := run_recorded hix h
  have hshares := s.finished_shares env
  refine ⟨fun id n hn hclass => ?_, fun id d d' => BuiltFor.unique hr,
    fun id d n => finished_base hix h, fun id d hd hno => ?_, fun id n hn hclass hroot => ?_⟩
  · obtain ⟨m, hm, hs⟩ := node?_of_finished hn
    rw [Node.isClass_congr hs.label] at hclass
    rcases (run_ok hix h).1.opened_of_class hm hclass (Nat.zero_le _) nofun with ho | hroot
    · exact .inl ((ho.builtFor hr).imp fun _ => And.left)
    · exact .inr (hs.isRootClass.2 hroot)
  · obtain ⟨-, r, hmem, rfl, _, hd, rfl⟩ := hd
    rw [hshares.base?]
    exact (run_faithful hix h hmem).baseless _ hd hno
  · obtain ⟨m, hm, hs⟩ := node?_of_finished hn
    rw [Node.isClass_congr hs.label] at hclass
    rw [hs.isRootClass] at hroot
    -- The class is made for one of several claims to its base.
    obtain ⟨claims, inPlace, hbetween, -⟩ := run_rooted hix h
    have hrooted := hbetween.rooted
    obtain ⟨-, c, ⟨hc, hshared⟩, hmade⟩ := hrooted.classes.roots id m hm hclass hroot
    obtain ⟨hg, hnamed, hbase⟩ := hrooted.named c hc
    obtain ⟨m', hm', hfor⟩ := hmade.node
    obtain rfl := Option.some.inj (hm.symm.trans hm')
    obtain ⟨k, hk, hkclass⟩ := Graph.class?_isSome.1 hbase
    obtain ⟨k', hk', hks⟩ := hshares.nodes _ k hk
    refine ⟨c.element, c.node, hg, ?_, hnamed, by rw [hshares.base?, hmade.base], k', hk', ?_, ?_⟩
    · rw [hs.root_of_isRootClass hroot]
      exact hfor.root
    · rw [Node.isClass_congr hks.label, hkclass]
    · rw [hks.isAbstractRoot]
      exact (hrooted.claimed _ k hk).isAbstractRoot.2 hshared

/-- In a finished graph a class has another as its base exactly if it is listed there, once, among
the classes that derive from it, and likewise for interfaces; and the base of a class is that of
the type it is built for, or the class that root elements share. -/
theorem links_at_both_ends {set : SchemaSet} {options : Options} {naming : Naming}
    {resolver : Resolver} (h : run (.ofSet set options naming) resolver = .ok s) :
    let env := Environment.ofSet set options naming
    let g := s.finished env
    g.Linked ∧ Derives env s g := by
  intro env g
  have hix : env.index.Lawful := Index.lawful_ofSet set
  exact ⟨(s.finished_shares env).linked (run_recorded hix h).linked, finished_derives hix h⟩

theorem links_at_both_ends_recursive :
    let env := Environment.ofSet (recursiveBase .extension) {} .conventional
    ∃ s, run env oneNamespace = .ok s ∧
      let g := s.finished env
      g.Linked ∧ Derives env s g := by
  obtain ⟨s, h, -⟩ := exists_of_any
    (x := run (.ofSet (recursiveBase .extension) {} .conventional) oneNamespace)
    (p := fun _ => true) (by decide +kernel)
  exact ⟨s, h, links_at_both_ends h⟩

end XmlTypes.Build
