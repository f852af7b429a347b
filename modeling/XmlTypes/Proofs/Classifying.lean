import XmlTypes.Proofs.Mirroring
import XmlTypes.Proofs.Depths
/-!
# What a classification depends on

A simple type is classified by the classifications of the types that it is made from
(`classifyContent_map`). The restrictions do not decide anything in it: without them the answer is
the same up to the restrictions. Nor does the fuel, once there is enough for the types that are not
being visited: each name that is followed is visited from then on, and between two names a
reference goes no deeper than declarations nest.
-/

namespace XmlTypes

open Schema

namespace Schema

/-- The types that a simple type is made from. -/
def SimpleContent.parts : SimpleContent → List TypeRef
  | .restriction base _ => [base]
  | .list item => [item]
  | .union members => members

theorem SimpleContent.depth_eq (c : SimpleContent) : c.depth = TypeRef.depths c.parts + 1 := by
  cases c <;> simp [SimpleContent.depth, SimpleContent.parts, TypeRef.depths]

theorem SimpleContent.part_depth_lt {c : SimpleContent} {r : TypeRef} (h : r ∈ c.parts) :
    r.depth < c.depth := by
  rw [c.depth_eq]
  exact Nat.lt_succ_of_le (TypeRef.depth_le_depths h)

end Schema

namespace Build

/-! ## Parts -/

/-- A change of classifications that goes with making one from others, under other options. -/
structure Classification.Commutes (f : Classification → Classification) (o o' : Options) :
    Prop where
  restrict : ∀ base facets, (f base).restrict o'.annotationMode facets =
    f (base.restrict o.annotationMode facets)
  listOf : ∀ item, (f item).listOf = f item.listOf
  unionOf : ∀ members, unionOf o'.widenUnions (members.map f) = f (unionOf o.widenUnions members)

theorem Classification.Commutes.refl (o : Options) : Commutes id o o :=
  ⟨fun _ _ => rfl, fun _ => rfl, fun members => by rw [List.map_id]; rfl⟩

theorem mapM_map_of_eq {α β γ ε : Type} {f : β → γ} {m : α → Except ε β} {m' : α → Except ε γ}
    {xs : List α} (h : ∀ x ∈ xs, m' x = (m x).map f) :
    xs.mapM m' = (xs.mapM m).map (List.map f) := by
  induction xs with
  | nil => rfl
  | cons x xs ih =>
    rw [List.mapM_cons, List.mapM_cons, h x (by simp), ih fun y hy => h y (by simp [hy])]
    cases m x with
    | error e => rfl
    | ok b => cases xs.mapM m <;> rfl

theorem mapM_eq_error {α β ε : Type} {m : α → Except ε β} {xs : List α} {e : ε}
    (h : xs.mapM m = .error e) : ∃ x ∈ xs, m x = .error e := by
  induction xs with
  | nil => cases h
  | cons x xs ih =>
    rw [List.mapM_cons] at h
    cases hx : m x with
    | error e' =>
      rw [hx] at h
      exact ⟨x, by simp, hx.trans (congrArg Except.error (Except.error.inj h))⟩
    | ok b =>
      rw [hx] at h
      cases hxs : xs.mapM m with
      | error e' =>
        rw [hxs] at h
        obtain ⟨y, hy, he⟩ := ih (hxs.trans (congrArg Except.error (Except.error.inj h)))
        exact ⟨y, by simp [hy], he⟩
      | ok bs =>
        rw [hxs] at h
        cases h

theorem mapM_eq_ok {α β ε : Type} [Inhabited β] {m : α → Except ε β} {xs : List α} {ys : List β}
    (h : xs.mapM m = .ok ys) : ∃ f, (∀ x ∈ xs, m x = .ok (f x)) ∧ ys = xs.map f := by
  refine ⟨fun x => (m x).toOption.getD default, ?_⟩
  induction xs generalizing ys with
  | nil =>
    cases h
    exact ⟨nofun, rfl⟩
  | cons x xs ih =>
    rw [List.mapM_cons] at h
    cases hx : m x with
    | error e =>
      rw [hx] at h
      cases h
    | ok y =>
      cases hxs : xs.mapM m with
      | error e =>
        rw [hx, hxs] at h
        cases h
      | ok ys' =>
        rw [hx, hxs] at h
        cases h
        obtain ⟨hall, rfl⟩ := ih hxs
        refine ⟨List.forall_mem_cons.2 ⟨?_, hall⟩, ?_⟩
        · simp [hx, Except.toOption]
        · simp [hx, Except.toOption]

theorem pure_of_ok {α β ε : Type} {x : Except ε α} {f : α → β} {b : β}
    (h : (do return f (← x)) = .ok b) : ∃ a, x = .ok a ∧ f a = b := by
  cases x with
  | error e => cases h
  | ok a => exact ⟨a, rfl, Except.ok.inj h⟩

section
variable {o o' : Options} {refer refer' : TypeRef → Except Failure Classification}
  {c : SimpleContent}

theorem classifyContent_map {f : Classification → Classification}
    (hf : Classification.Commutes f o o') (h : ∀ r ∈ c.parts, refer' r = (refer r).map f) :
    classifyContent o' refer' c = (classifyContent o refer c).map f := by
  unfold classifyContent
  cases c with
  | restriction base facets =>
    dsimp only
    rw [h base (by simp [SimpleContent.parts])]
    cases refer base with
    | error e => rfl
    | ok b => exact congrArg Except.ok (hf.restrict b facets)
  | list item =>
    dsimp only
    rw [h item (by simp [SimpleContent.parts])]
    cases refer item with
    | error e => rfl
    | ok b => exact congrArg Except.ok (hf.listOf b)
  | union members =>
    dsimp only
    have hmembers : members.mapM refer' = (members.mapM refer).map (List.map f) :=
      mapM_map_of_eq h
    rw [hmembers]
    cases members.mapM refer with
    | error e => rfl
    | ok bs => exact congrArg Except.ok (hf.unionOf bs)

theorem classifyContent_congr (h : ∀ r ∈ c.parts, refer' r = refer r) :
    classifyContent o refer' c = classifyContent o refer c := by
  have hmap : classifyContent o refer' c = (classifyContent o refer c).map id :=
    classifyContent_map (.refl o) fun r hr => by rw [h r hr, Except.map_id]; rfl
  rwa [Except.map_id] at hmap

/-- Nothing but a part can fail. -/
theorem classifyContent_error {e : Failure} (h : classifyContent o refer c = .error e) :
    ∃ r ∈ c.parts, refer r = .error e := by
  have hpart {α : Type} {m : Except Failure α} {f : α → Classification}
      (h : (m >>= fun a => pure (f a)) = .error e) : m = .error e := by
    cases m with
    | error e' => exact congrArg Except.error (Except.error.inj h)
    | ok a => cases h
  cases c with
  | restriction base facets => exact ⟨base, by simp [SimpleContent.parts], hpart h⟩
  | list item => exact ⟨item, by simp [SimpleContent.parts], hpart h⟩
  | union members =>
    have hmembers : members.mapM refer = .error e := hpart h
    exact mapM_eq_error hmembers

/-- All parts of what is classified are. -/
theorem classifyContent_part {k : Classification} (h : classifyContent o refer c = .ok k)
    {r : TypeRef} (hr : r ∈ c.parts) : ∃ k, refer r = .ok k := by
  cases c with
  | restriction base facets =>
    obtain ⟨b, hb, -⟩ := pure_of_ok h
    exact ⟨b, List.mem_singleton.1 hr ▸ hb⟩
  | list item =>
    obtain ⟨i, hi, -⟩ := pure_of_ok h
    exact ⟨i, List.mem_singleton.1 hr ▸ hi⟩
  | union members =>
    obtain ⟨cs, hcs, -⟩ := pure_of_ok h
    obtain ⟨f, hall, -⟩ := mapM_eq_ok hcs
    exact ⟨f r, hall r hr⟩

end

/-- The name that is classified is that of a built-in type, or of a simple type that is not being
visited, whose content is classified while it is. -/
theorem classifyRef_named_ok {ix : Index} {o : Options} {fuel : Nat} {document : Document}
    {visiting : List QName} {name : QName} {c : Classification}
    (h : classifyRef ix o (fuel + 1) document visiting (.named name) = .ok c) :
    (name.isXsd = true ∧ ∃ p, Primitive.ofBuiltin? name.name = some p ∧
      c = .value p [] (isListBuiltin name.name)) ∨
    (name.isXsd = false ∧ name ∉ visiting ∧ ∃ g t, ix.type? name = some g ∧
      g.definition = .simple t ∧
      classifyContent o (classifyRef ix o fuel g.document (visiting ++ [name])) t.content =
        .ok c) := by
  rw [classifyRef] at h
  cases hx : name.isXsd with
  | true =>
    simp only [hx, if_true] at h
    split at h
    · rename_i p hp
      exact .inl ⟨rfl, p, hp, (Except.ok.inj h).symm⟩
    · cases h
  | false =>
    simp only [hx, Bool.false_eq_true, if_false] at h
    split at h
    · cases h
    · cases h
    · rename_i t home slot hg
      split at h
      · cases h
      · rename_i hn
        exact .inr ⟨rfl, by simpa using hn, _, t, hg, rfl, h⟩

/-- What holds of built-in types, of a simple type if it holds of its parts, and of a name if it
holds of the declared type, holds of every reference that is classified. -/
theorem classifyRef_induction {ix : Index} {o : Options} {P : TypeRef → Classification → Prop}
    (builtin : ∀ name p, name.isXsd = true → Primitive.ofBuiltin? name.name = some p →
      P (.named name) (.value p [] (isListBuiltin name.name)))
    (declared : ∀ name g t c, name.isXsd = false → ix.type? name = some g →
      g.definition = .simple t → P (.inline (.simple t)) c → P (.named name) c)
    (content : ∀ refer (t : SimpleType) c, (∀ r c, refer r = .ok c → P r c) →
      classifyContent o refer t.content = .ok c → P (.inline (.simple t)) c) :
    ∀ (fuel : Nat) (document : Document) (visiting : List QName) (r : TypeRef) (c : Classification),
      classifyRef ix o fuel document visiting r = .ok c → P r c := by
  intro fuel
  induction fuel with
  | zero => exact fun _ _ _ _ h => nomatch h
  | succ fuel ih =>
    intro document visiting r c h
    cases r with
    | named name =>
      rcases classifyRef_named_ok h with ⟨hx, p, hp, rfl⟩ | ⟨hx, -, g, t, hg, ht, hc⟩
      · exact builtin name p hx hp
      · exact declared name g t c hx hg ht (content _ t c (ih g.document _) hc)
    | inline type =>
      cases type with
      | complex type => cases h
      | simple t => exact content _ t c (ih document visiting) h

/-! ## Restrictions -/

/-- Restrictions decide nothing in a classification. -/
theorem classifyRef_map {f : Classification → Classification} {ix : Index} {o o' : Options}
    (hf : Classification.Commutes f o o')
    (hbuiltin : ∀ type isList, f (.value type [] isList) = .value type [] isList) :
    ∀ (fuel : Nat) (document : Document) (visiting : List QName) (r : TypeRef),
      classifyRef ix o' fuel document visiting r =
        (classifyRef ix o fuel document visiting r).map f := by
  intro fuel
  induction fuel with
  | zero => exact fun _ _ _ => rfl
  | succ fuel ih =>
    intro document visiting r
    unfold classifyRef
    match r with
    | .inline (.complex t) => rfl
    | .inline (.simple t) => exact classifyContent_map hf fun r _ => ih _ _ r
    | .named name =>
      dsimp only
      split
      · cases Primitive.ofBuiltin? name.name with
        | none => rfl
        | some p => exact congrArg Except.ok (hbuiltin p _).symm
      · split
        · rfl
        · rfl
        · split
          · rfl
          · exact classifyContent_map hf fun r _ => ih _ _ r

/-- The restrictions of a type, with something left out at every derivation step. -/
theorem classification_commutes {ε : Erasure} {o o' : Options} (hnil : ε.restrictions [] = [])
    (hwiden : o'.widenUnions = o.widenUnions)
    (hlayer : ∀ inherited facets type,
      layer (ε.restrictions inherited) (restrictionsOf facets type o'.annotationMode) =
        ε.restrictions (layer inherited (restrictionsOf facets type o.annotationMode))) :
    Classification.Commutes ε.classification o o' where
  restrict base facets := by
    cases base with
    | enumeration inherited => rfl
    | value type restrictions isList =>
      simp only [Classification.restrict, Erasure.classification, hlayer]
      split <;> rfl
  listOf item := by
    cases item <;> simp [Classification.listOf, Erasure.classification, Classification.valueType,
      hnil]
  unionOf members := by
    have htype (c : Classification) : (ε.classification c).valueType = c.valueType := by
      cases c <;> rfl
    have hkind (c : Classification) : (ε.classification c).isEnumeration = c.isEnumeration := by
      cases c <;> rfl
    have hfacets (c : Classification) : (ε.classification c).facets = c.facets := by
      cases c <;> rfl
    simp only [Classification.unionOf, hwiden, List.isEmpty_map, List.all_map, Function.comp_def,
      hkind, htype, hfacets, List.map_map, List.flatMap_map]
    split <;> simp [Erasure.classification, hnil]

/-! ## Fuel -/

/-- The number of names of types that are not being visited. -/
def unvisited (ix : Index) (visiting : List QName) : Nat :=
  ix.types.keys.countP (!visiting.contains ·)

theorem unvisited_lt {ix : Index} {visiting : List QName} {name : QName}
    {g : Global TypeDefinition} (hg : ix.type? name = some g)
    (hn : visiting.contains name = false) :
    unvisited ix (visiting ++ [name]) < unvisited ix visiting := by
  obtain ⟨slot, hslot, -⟩ := Option.bind_eq_some_iff.1 hg
  obtain ⟨⟨key, v⟩, he, -⟩ := Option.map_eq_some_iff.1 hslot
  have hkey : key = name := by simpa using List.find?_some he
  refine countP_lt (fun n _ h => ?_) (x := name) ?_ (by simpa using hn) (by simp)
  · simp only [List.contains_append, Bool.not_or, Bool.and_eq_true] at h
    exact h.1
  · exact hkey ▸ List.mem_map_of_mem (List.mem_of_find?_eq_some he)

/-- Once there is fuel for every type that is not being visited, more fuel changes nothing, and the
fuel is not what the classification fails of. -/
theorem classifyRef_settled {ix : Index} {o : Options} {depth : Nat}
    (hdepth : ∀ n g, ix.type? n = some g → g.definition.depth ≤ depth) :
    ∀ (fuel fuel' : Nat) (document : Document) (visiting : List QName) (r : TypeRef),
      fuel ≤ fuel' → unvisited ix visiting * (depth + 2) + r.depth < fuel →
      classifyRef ix o fuel' document visiting r = classifyRef ix o fuel document visiting r ∧
        ∀ e, classifyRef ix o fuel document visiting r = .error e → e.isBottomless = false := by
  intro fuel
  induction fuel with
  | zero => exact fun _ _ _ _ _ h => absurd h (Nat.not_lt_zero _)
  | succ fuel ih =>
    intro fuel' document visiting r hle h
    obtain ⟨fuel', rfl⟩ : ∃ k, fuel' = k + 1 := ⟨fuel' - 1, by omega⟩
    -- What a content comes to follows from what its parts come to.
    have hcontent (home : Document) (visiting : List QName) (c : SimpleContent)
        (hc : unvisited ix visiting * (depth + 2) + c.depth ≤ fuel) :
        classifyContent o (classifyRef ix o fuel' home visiting) c =
            classifyContent o (classifyRef ix o fuel home visiting) c ∧
          ∀ e, classifyContent o (classifyRef ix o fuel home visiting) c = .error e →
            e.isBottomless = false := by
      have hpart (r : TypeRef) (hr : r ∈ c.parts) :
          unvisited ix visiting * (depth + 2) + r.depth < fuel := by
        have := SimpleContent.part_depth_lt hr
        omega
      refine ⟨classifyContent_congr fun r hr => (ih _ _ _ r (by omega) (hpart r hr)).1, ?_⟩
      intro e he
      obtain ⟨r, hr, he⟩ := classifyContent_error he
      exact (ih _ _ _ r (Nat.le_refl _) (hpart r hr)).2 e he
    unfold classifyRef
    match r with
    | .inline (.complex t) =>
      refine ⟨rfl, fun e he => ?_⟩
      cases he
      rfl
    | .inline (.simple t) =>
      refine hcontent _ _ _ ?_
      change _ + (t.depth + 1 + 1) < _ at h
      rw [t.depth_eq] at h
      omega
    | .named name =>
      dsimp only
      split
      · refine ⟨rfl, fun e he => ?_⟩
        cases hp : Primitive.ofBuiltin? name.name with
        | none =>
          rw [hp] at he
          cases he
          rfl
        | some p =>
          rw [hp] at he
          cases he
      · split
        · refine ⟨rfl, fun e he => ?_⟩
          cases he
          rfl
        · refine ⟨rfl, fun e he => ?_⟩
          cases he
          rfl
        · rename_i t home slot hg
          split
          · refine ⟨rfl, fun e he => ?_⟩
            cases he
            rfl
          · rename_i hn
            have hlt := unvisited_lt hg (by simpa using hn)
            have hle : t.depth + 1 ≤ depth := hdepth name _ hg
            have hmul := Nat.mul_le_mul_right (depth + 2) (Nat.succ_le_of_lt hlt)
            rw [Nat.succ_mul] at hmul
            rw [t.depth_eq] at hle
            refine hcontent _ _ _ ?_
            omega

/-- A simple type is classified with fuel for all types. -/
theorem classify_settled {ix : Index} {o : Options} {depth fuel fuel' : Nat} {document : Document}
    {visiting : List QName} {t : SimpleType}
    (hdepth : ∀ n g, ix.type? n = some g → g.definition.depth ≤ depth) (ht : t.depth ≤ depth)
    (hle : fuel ≤ fuel') (hfuel : ix.types.size * (depth + 2) + depth < fuel) :
    classifyContent o (classifyRef ix o fuel' document visiting) t.content =
        classifyContent o (classifyRef ix o fuel document visiting) t.content ∧
      ∀ e, classifyContent o (classifyRef ix o fuel document visiting) t.content = .error e →
        e.isBottomless = false := by
  have hpart (r : TypeRef) (hr : r ∈ t.content.parts) :
      unvisited ix visiting * (depth + 2) + r.depth < fuel := by
    have hcount : unvisited ix visiting ≤ ix.types.size := by
      refine Nat.le_trans List.countP_le_length ?_
      simp [Table.keys, Table.size]
    have hmul := Nat.mul_le_mul_right (depth + 2) hcount
    have hlt := SimpleContent.part_depth_lt hr
    rw [t.depth_eq] at ht
    omega
  refine ⟨classifyContent_congr fun r hr =>
    (classifyRef_settled hdepth _ _ _ _ r hle (hpart r hr)).1, fun e he => ?_⟩
  obtain ⟨r, hr, he⟩ := classifyContent_error he
  exact (classifyRef_settled hdepth _ _ _ _ r (Nat.le_refl _) (hpart r hr)).2 e he

end Build

end XmlTypes
