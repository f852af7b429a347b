import XmlTypes.Proofs.StandIns
/-!
# Explicit namespaces

A property tells the namespace of its member where that is not the target namespace of the document
that holds the definition of its owner. A property for a substitute beside that for the head takes
over what the head's property tells.
-/

namespace XmlTypes.Build

open Schema

/-- The name is in the given namespace, and the document of the definition has another target
namespace. -/
def Source.Foreign (source : Source) (name : QName) (uri : String) : Prop :=
  name.uri = some uri ∧ source.targetNamespace ≠ some uri

/-- The property tells the namespace of its name exactly where it is foreign to the definition. -/
def TellsNamespace (source : Source) (p : Property) : Prop :=
  ∀ uri, p.explicitNamespace = some uri ↔ source.Foreign p.schemaName uri

variable {env : Environment} {resolver : Resolver} {s : State} {r : Opening} {id : NodeId}
  {m : Stop} {p : Property} {x : Substitute}

theorem explicitNamespace_iff {scope : Scope} {source : Source} {name : QName} {uri : String}
    (h : scope.targetNamespace = source.targetNamespace) :
    scope.explicitNamespace name = some uri ↔ source.Foreign name uri := by
  rw [Scope.explicitNamespace, Option.filter_eq_some_iff, decide_eq_true_eq, h]
  exact and_congr_right fun _ => ne_comm

/-- A stop gives a property that tells its namespace. -/
theorem Completed.explicitNamespace_of_comesFrom (hs : Completed env resolver s)
    (hr : r ∈ s.journal) (hid : r.scope.owner = id) (h : ComesFrom env s id m p) :
    TellsNamespace r.source p := by
  obtain ⟨r', hr', hid', stops, -, hgives⟩ := h
  obtain rfl := hs.recorded.opening_eq hr hr' (hid'.trans hid.symm)
  obtain ⟨type, order, -, rfl⟩ := hgives.property
  intro uri
  rw [Stop.explicitNamespace_property, Stop.schemaName_property]
  exact explicitNamespace_iff (hs.complete r' hr).target

/-- What a property tells does not depend on its name and its substitutes. -/
theorem TellsNamespace.congr {source : Source} {q : Property} (h : p.bare = q.bare)
    (hq : TellsNamespace source q) : TellsNamespace source p := by
  intro uri
  have hexplicit : p.explicitNamespace = q.explicitNamespace := congrArg (·.explicitNamespace) h
  have hname : p.schemaName = q.schemaName := congrArg (·.schemaName) h
  rw [hexplicit, hname]
  exact hq uri

/-- A property for a substitute tells its namespace exactly if that is told of the head's. -/
theorem Completed.tellsNamespace_beside_iff (hs : Completed env resolver s) (hr : r ∈ s.journal)
    (hid : r.scope.owner = id) (h : AddedBeside env s id m x p) :
    TellsNamespace r.source p ↔
      ∀ uri, r.source.Foreign x.member uri ↔ r.source.Foreign m.key.1 uri := by
  obtain ⟨head, hhead, -, -, ownerName, hbare⟩ := h
  have htells := hs.explicitNamespace_of_comesFrom hr hid hhead
  have hexplicit : p.explicitNamespace = head.explicitNamespace :=
    congrArg (·.explicitNamespace) hbare
  have hmember : p.schemaName = x.member := congrArg (·.schemaName) hbare
  have hname : head.schemaName = m.key.1 := congrArg Prod.fst hhead.key
  unfold TellsNamespace
  rw [hexplicit, hmember]
  refine forall_congr' fun uri => ?_
  rw [htells uri, hname]
  exact Iff.comm

/-- A property tells its namespace where it is foreign, and only there, exactly if this is told of
the head's wherever the property is one for a substitute. So it always does where substitutes are
merged. -/
theorem explicit_namespace_iff {set : SchemaSet} {options : Options} {naming : Naming}
    (h : run (.ofSet set options naming) resolver = .ok s) :
    let env := Environment.ofSet set options naming
    ∀ id, ∀ p ∈ (s.finished env).properties id, p.isWildcard = false →
      ∃ r ∈ s.journal, r.scope.owner = id ∧
        (options.substitutionStrategy = .merge → TellsNamespace r.source p) ∧
        (TellsNamespace r.source p ↔ ∀ m x, AddedBeside env s id m x p →
          ∀ uri, r.source.Foreign x.member uri ↔ r.source.Foreign m.key.1 uri) := by
  intro env id p hp hwildcard
  have hs : Completed env resolver s := run_completed h
  -- What stands for a member belongs to the opening of its owner.
  have hopened {m : Stop} {q : Property} (hq : ComesFrom env s id m q) :
      ∃ r ∈ s.journal, r.scope.owner = id := by
    obtain ⟨r, hr, hid, -⟩ := hq
    exact ⟨r, hr, hid⟩
  rcases hs.finished_origin hp with hw | ⟨m, hm⟩ | ⟨hseparate, m, x, hx⟩
  · exact absurd (hwildcard.symm.trans hw) Bool.false_ne_true
  · obtain ⟨q, hq, hbare⟩ := hm
    obtain ⟨r, hr, hid⟩ := hopened hq
    have htells : TellsNamespace r.source p :=
      (hs.explicitNamespace_of_comesFrom hr hid hq).congr hbare
    exact ⟨r, hr, hid, fun _ => htells, fun _ m' x' hx' =>
      (hs.tellsNamespace_beside_iff hr hid hx').1 htells, fun _ => htells⟩
  · have hcopy := hx
    obtain ⟨head, hhead, -⟩ := hcopy
    obtain ⟨r, hr, hid⟩ := hopened hhead
    refine ⟨r, hr, hid, fun hmerge => ?_, fun htells m' x' hx' =>
      (hs.tellsNamespace_beside_iff hr hid hx').1 htells, fun hsame =>
      (hs.tellsNamespace_beside_iff hr hid hx).2 (hsame m x hx)⟩
    exact absurd (hseparate.symm.trans hmerge) nofun

/-- A type with a reference to an element that has a member in another namespace. -/
def foreignMember : SchemaSet where
  documents :=
    [{ location := "a.xsd"
       targetNamespace := some "urn:t"
       types := [referringType "T" (sampleName "h")]
       elements := [sampleRoot "h" (.named (.xsd "string"))] },
     { location := "b.xsd"
       targetNamespace := some "urn:b"
       imports := ["a.xsd"]
       elements :=
         [{ name := ⟨some "urn:b", "m"⟩, typeRef := some (.named (.xsd "string")),
            substitutionGroup := some (sampleName "h") }] }]

/-- The environment in which the member gets a property of its own. -/
def foreignEnv : Environment :=
  .ofSet foreignMember { substitutionStrategy := .separate } .conventional

theorem explicit_namespace_foreign : ∃ s, run foreignEnv oneNamespace = .ok s ∧
    (∃ id, ∃ p ∈ (s.finished foreignEnv).properties id, p.isWildcard = false) ∧
    ∀ id, ∀ p ∈ (s.finished foreignEnv).properties id, p.isWildcard = false →
      ∃ r ∈ s.journal, r.scope.owner = id ∧
        (foreignEnv.options.substitutionStrategy = .merge → TellsNamespace r.source p) ∧
        (TellsNamespace r.source p ↔ ∀ m x, AddedBeside foreignEnv s id m x p →
          ∀ uri, r.source.Foreign x.member uri ↔ r.source.Foreign m.key.1 uri) := by
  obtain ⟨s, h, hsome⟩ := exists_of_any (x := run foreignEnv oneNamespace)
    (p := fun s => (((s.finished foreignEnv).properties 0)[0]?).any fun p => !p.isWildcard)
    (by decide +kernel)
  obtain ⟨p, hp, hw⟩ := (Option.any_eq_true _ _).1 hsome
  exact ⟨s, h, ⟨0, p, List.mem_of_getElem? hp, by simpa using hw⟩, explicit_namespace_iff h⟩

/-- The property for the member in the other namespace tells no namespace, like that for the
head. -/
theorem foreign_member_tells_nothing : ∃ s, run foreignEnv oneNamespace = .ok s ∧
    ∃ id, ∃ p ∈ (s.finished foreignEnv).properties id, p.isWildcard = false ∧
      ∃ r ∈ s.journal, r.scope.owner = id ∧ r.source.Foreign p.schemaName "urn:b" ∧
        p.explicitNamespace = none := by
  obtain ⟨s, h, hsome⟩ := exists_of_any (x := run foreignEnv oneNamespace)
    (p := fun s => (((s.finished foreignEnv).properties 0)[1]?).any (fun p => !p.isWildcard &&
        p.schemaName.uri = some "urn:b" && p.explicitNamespace = none) &&
      (s.journal[0]?).any fun r => r.scope.owner = 0 && r.source.targetNamespace = some "urn:t")
    (by decide +kernel)
  obtain ⟨hprop, hopen⟩ := Bool.and_eq_true_iff.1 hsome
  obtain ⟨p, hp, hfields⟩ := (Option.any_eq_true _ _).1 hprop
  obtain ⟨r, hr, hid⟩ := (Option.any_eq_true _ _).1 hopen
  simp only [Bool.and_eq_true, Bool.not_eq_true', decide_eq_true_eq] at hfields hid
  refine ⟨s, h, 0, p, List.mem_of_getElem? hp, hfields.1.1, r, List.mem_of_getElem? hr, hid.1,
    ⟨hfields.1.2, ?_⟩, hfields.2⟩
  rw [hid.2]
  decide

end XmlTypes.Build
