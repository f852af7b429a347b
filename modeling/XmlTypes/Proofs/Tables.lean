import Mathlib.Data.List.Nodup
import XmlTypes.Table
/-!
# Look-ups in tables

A look-up takes the first entry of a key, and no operation puts a second one in front of it. So a
value, once it is found under a key, is found there again after `insertNew`, and a table made from
entries finds the first one of each key.
-/

namespace XmlTypes

/-- Among items with distinct keys a look-up finds the one with the key. -/
theorem find?_key_iff {κ β : Type} [DecidableEq κ] {key : β → κ} {items : List β}
    (h : (items.map key).Nodup) {k : κ} {b : β} :
    items.find? (fun b => decide (key b = k)) = some b ↔ b ∈ items ∧ key b = k := by
  constructor
  · intro hb
    have hkey := List.find?_some hb
    exact ⟨List.mem_of_find?_eq_some hb, of_decide_eq_true hkey⟩
  · rintro ⟨hb, rfl⟩
    obtain ⟨c, hc⟩ : ∃ c, items.find? (fun c => decide (key c = key b)) = some c := by
      rw [← Option.isSome_iff_exists, List.find?_isSome]
      exact ⟨b, hb, decide_eq_true rfl⟩
    have hkey := List.find?_some hc
    rw [hc, List.inj_on_of_nodup_map h (List.mem_of_find?_eq_some hc) hb (of_decide_eq_true hkey)]

namespace Table

variable {κ α : Type} [DecidableEq κ]

theorem contains_eq (t : Table κ α) (k : κ) : t.contains k = (t.get? k).isSome := by
  rw [contains, get?, Option.isSome_map, List.isSome_find?]

theorem contains_iff {t : Table κ α} {k : κ} : t.contains k = true ↔ ∃ a, t.get? k = some a := by
  rw [contains_eq, Option.isSome_iff_exists]

theorem contains_iff_mem_keys {t : Table κ α} {k : κ} : t.contains k = true ↔ k ∈ t.keys := by
  simp [contains, keys]

theorem get?_push (es : List (κ × α)) (k j : κ) (a : α) :
    (Table.mk (es ++ [(k, a)])).get? j =
      ((Table.mk es).get? j).or (if k = j then some a else none) := by
  simp only [get?, List.find?_append, List.find?_singleton]
  cases es.find? fun e => e.1 = j <;> by_cases h : k = j <;> simp [h]

theorem mem_values_of_get? {t : Table κ α} {k : κ} {a : α} (h : t.get? k = some a) :
    a ∈ t.values := by
  obtain ⟨e, he, rfl⟩ := Option.map_eq_some_iff.1 h
  exact List.mem_map_of_mem (List.mem_of_find?_eq_some he)

/-! ## Insertion -/

theorem get?_insertNew (t : Table κ α) (k j : κ) (a : α) :
    (t.insertNew k a).get? j = (t.get? j).or (if k = j then some a else none) := by
  unfold insertNew
  split
  · rename_i h
    obtain ⟨b, hb⟩ := contains_iff.1 h
    by_cases hk : k = j
    · subst hk; simp [hb]
    · simp [hk]
  · exact get?_push t.entries k j a

/-- The first value stays. -/
theorem get?_insertNew_of_some {t : Table κ α} {k j : κ} {a b : α} (h : t.get? j = some b) :
    (t.insertNew k a).get? j = some b := by
  simp [get?_insertNew, h]

theorem get?_insertNew_self {t : Table κ α} {k : κ} {a : α} (h : t.get? k = none) :
    (t.insertNew k a).get? k = some a := by
  simp [get?_insertNew, h]

/-- What is found after an insertion was there before, or is what was inserted. -/
theorem of_get?_insertNew {t : Table κ α} {k j : κ} {a b : α}
    (h : (t.insertNew k a).get? j = some b) : t.get? j = some b ∨ (j = k ∧ b = a) := by
  rw [get?_insertNew, Option.or_eq_some_iff] at h
  rcases h with h | ⟨-, h⟩
  · exact .inl h
  · split at h
    · rename_i hk
      exact .inr ⟨hk.symm, (Option.some.inj h).symm⟩
    · cases h

/-! ## Change -/

theorem get?_modify (t : Table κ α) (k j : κ) (f : α → α) :
    (t.modify k f).get? j = if j = k then (t.get? j).map f else t.get? j := by
  have hkey : ((fun e : κ × α => decide (e.1 = j)) ∘ fun e => if e.1 = k then (e.1, f e.2) else e) =
      fun e => decide (e.1 = j) := by
    funext e
    simp only [Function.comp]
    split <;> rfl
  simp only [get?, modify, List.find?_map, hkey, Option.map_map]
  cases h : t.entries.find? fun e => decide (e.1 = j) with
  | none => simp
  | some e =>
    have he : e.1 = j := by simpa using List.find?_some h
    by_cases hj : j = k <;> simp [he, hj]

theorem get?_update (t : Table κ α) (k j : κ) (a : α) (f : α → α) :
    (t.update k a f).get? j = if j = k then some (f ((t.get? k).getD a)) else t.get? j := by
  unfold update
  split
  · rename_i h
    obtain ⟨b, hb⟩ := contains_iff.1 h
    rw [get?_modify]
    split
    · rename_i hj
      subst hj
      simp [hb]
    · rfl
  · rename_i h
    have hn : t.get? k = none := by simpa [contains_eq] using h
    rw [get?_push]
    by_cases hj : j = k
    · subst hj
      simp [hn]
    · simp [hj, Ne.symm hj]

theorem get?_insert (t : Table κ α) (k j : κ) (a : α) :
    (t.insert k a).get? j = if j = k then some a else t.get? j :=
  get?_update t k j a fun _ => a

/-! ## Values -/

theorem mem_values_modify {t : Table κ α} {k : κ} {f : α → α} {b : α}
    (h : b ∈ (t.modify k f).values) : b ∈ t.values ∨ ∃ a ∈ t.values, b = f a := by
  obtain ⟨e, he, rfl⟩ := List.mem_map.1 h
  obtain ⟨e', he', rfl⟩ := List.mem_map.1 he
  have hmem : e'.2 ∈ t.values := List.mem_map_of_mem he'
  split
  · exact .inr ⟨e'.2, hmem, rfl⟩
  · exact .inl hmem

omit [DecidableEq κ] in
theorem mem_values_push {t : Table κ α} {k : κ} {a b : α}
    (h : b ∈ (Table.mk (t.entries ++ [(k, a)])).values) : b ∈ t.values ∨ b = a := by
  rw [values, List.map_append, List.mem_append] at h
  exact h.imp_right List.mem_singleton.1

theorem mem_values_insertNew {t : Table κ α} {k : κ} {a b : α}
    (h : b ∈ (t.insertNew k a).values) : b ∈ t.values ∨ b = a := by
  unfold insertNew at h
  split at h
  · exact .inl h
  · exact mem_values_push h

theorem mem_values_insert {t : Table κ α} {k : κ} {a b : α}
    (h : b ∈ (t.insert k a).values) : b ∈ t.values ∨ b = a := by
  unfold insert at h
  split at h
  · exact (mem_values_modify h).imp_right fun ⟨_, _, hb⟩ => hb
  · exact mem_values_push h

theorem mem_values_rename {t : Table κ α} {old new : κ} {a b : α}
    (h : b ∈ (t.rename old new a).values) : b ∈ t.values ∨ b = a := by
  unfold rename at h
  split at h
  · exact .inl h
  · obtain ⟨e, he, rfl⟩ := List.mem_map.1 h
    -- Apart from the new entry all are among those that there are.
    have hold {es : List (κ × α)} {i : Nat} (hsub : es.Sublist
        ((t.entries.eraseIdx i).filter fun e => decide (e.1 ≠ new))) (he : e ∈ es) :
        e.2 ∈ t.values :=
      List.mem_map_of_mem (((hsub.trans List.filter_sublist).trans
        (List.eraseIdx_sublist _ _)).subset he)
    rcases List.mem_append.1 he with he | he
    · exact .inl (hold (List.take_sublist _ _) he)
    · rcases List.mem_cons.1 he with rfl | he
      · exact .inr rfl
      · exact .inl (hold (List.drop_sublist _ _) he)

/-! ## Tables of entries -/

theorem get?_foldl_insertNew (es : List (κ × α)) :
    ∀ (t : Table κ α) (k : κ), (es.foldl (fun t e => t.insertNew e.1 e.2) t).get? k =
      (t.get? k).or ((Table.mk es).get? k) := by
  induction es with
  | nil => simp [get?]
  | cons e es ih =>
    intro t k
    rw [List.foldl_cons, ih, get?_insertNew, Option.or_assoc]
    congr 1
    by_cases h : e.1 = k <;> simp [get?, h]

/-- A table of entries finds the first entry of each key. -/
theorem get?_ofEntries (es : List (κ × α)) (k : κ) :
    (ofEntries es).get? k = (Table.mk es).get? k := by
  rw [ofEntries, get?_foldl_insertNew]
  simp [empty, get?]

theorem size_ofEntries_le (es : List (κ × α)) : (ofEntries es).size ≤ es.length := by
  have hinsert (t : Table κ α) (k : κ) (a : α) : (t.insertNew k a).size ≤ t.size + 1 := by
    unfold insertNew
    split
    · exact Nat.le_succ _
    · simp [size]
  have hfold : ∀ (es : List (κ × α)) (t : Table κ α),
      (es.foldl (fun t e => t.insertNew e.1 e.2) t).size ≤ t.size + es.length := by
    intro es
    induction es with
    | nil => exact fun t => Nat.le_refl _
    | cons e es ih =>
      intro t
      have hrest := ih (t.insertNew e.1 e.2)
      have hfirst := hinsert t e.1 e.2
      rw [List.foldl_cons, List.length_cons]
      omega
  have h := hfold es empty
  simpa [empty, size, ofEntries] using h

theorem mem_of_get?_ofEntries {es : List (κ × α)} {k : κ} {a : α}
    (h : (ofEntries es).get? k = some a) : (k, a) ∈ es := by
  rw [get?_ofEntries, get?, Option.map_eq_some_iff] at h
  obtain ⟨⟨j, b⟩, he, rfl⟩ := h
  have hj : j = k := by simpa using List.find?_some he
  exact hj ▸ List.mem_of_find?_eq_some he

theorem exists_get?_ofEntries {es : List (κ × α)} {k : κ} {a : α} (h : (k, a) ∈ es) :
    ∃ b, (ofEntries es).get? k = some b := by
  rw [get?_ofEntries, get?]
  refine Option.isSome_iff_exists.1 ?_
  rw [Option.isSome_map, List.find?_isSome]
  exact ⟨_, h, decide_eq_true rfl⟩

/-- A table that gathers items under keys has under each key the items that belong to it, in
order. -/
theorem getD_foldl_gather {β : Type} {key : β → Option κ}
    {f : Table κ (List β) → β → Table κ (List β)}
    (hsome : ∀ t x j, key x = some j → f t x = t.update j [] (· ++ [x]))
    (hnone : ∀ t x, key x = none → f t x = t) (items : List β) :
    ∀ (t : Table κ (List β)) (k : κ), ((items.foldl f t).get? k).getD [] =
      (t.get? k).getD [] ++ items.filter fun x => key x = some k := by
  induction items with
  | nil => intro t k; exact (List.append_nil _).symm
  | cons x items ih =>
    intro t k
    rw [List.foldl_cons, ih]
    cases hx : key x with
    | none => simp [hx, hnone]
    | some j =>
      rw [hsome t x j hx, get?_update]
      by_cases hj : j = k
      · subst hj
        simp [hx]
      · simp [hx, hj, Ne.symm hj]

end Table

end XmlTypes
