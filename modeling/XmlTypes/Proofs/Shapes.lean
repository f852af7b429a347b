import Mathlib.Data.List.Basic
import XmlTypes.Files
/-!
# Written members are read back

No key is written twice, so a reader that asks for a key gets what was written for it, and what is
left out is taken to be absent. So a record is read back as soon as each of its members is.
-/

namespace XmlTypes.Json

namespace Members

variable {α : Type} {ms : Members}

theorem filter_of_notMem {key : String} (h : key ∉ ms.map (·.1)) :
    ms.filter (fun m => m.1 == key) = [] := by
  simp only [List.filter_eq_nil_iff, beq_iff_eq]
  intro m hm hkey
  exact h (List.mem_map.2 ⟨m, hm, hkey⟩)

theorem filter_key (key : String) (h : (ms.map (·.1)).Nodup) :
    ms.filter (fun m => m.1 == key) = ((ms.lookup key).map fun v => (key, v)).toList := by
  induction ms with
  | nil => rfl
  | cons m ms ih =>
    obtain ⟨k, v⟩ := m
    rw [List.map_cons, List.nodup_cons] at h
    rw [List.filter_cons, List.lookup_cons]
    by_cases hk : k = key
    · subst hk
      simp [filter_of_notMem h.1]
    · have hkey : (key == k) = false := by simpa using Ne.symm hk
      simp [hk, hkey, ih h.2]

/-- Among distinct keys, the only member with a key is the first one. -/
theorem only?_of_nodup (h : (ms.map (·.1)).Nodup) (key : String) :
    only? ms key = some (ms.lookup key) := by
  rw [only?, filter_key key h]
  cases ms.lookup key <;> rfl

theorem required_of_nodup (h : (ms.map (·.1)).Nodup) (room : Room) (key : String) (s : Shape α) :
    required ms room key s = (ms.lookup key).bind (s room) := by
  rw [required, only?_of_nodup h]
  cases ms.lookup key <;> rfl

theorem withDefault_of_nodup (h : (ms.map (·.1)).Nodup) (room : Room) (key : String) (a : α)
    (s : Shape α) :
    withDefault ms room key a s = (ms.lookup key).elim (some a) (s room) := by
  rw [withDefault, only?_of_nodup h]
  cases ms.lookup key <;> rfl

end Members

/-! ## Fields that may be left out -/

/-- The members for the fields that are not left out. -/
def written (fields : List (String × Option Value)) : Members :=
  fields.filterMap fun f => f.2.map (f.1, ·)

@[simp]
theorem written_nil : written [] = [] := rfl

@[simp]
theorem written_cons_some (key : String) (v : Value) (fields : List (String × Option Value)) :
    written ((key, some v) :: fields) = (key, v) :: written fields := rfl

section written

variable {α : Type} {fields : List (String × Option Value)}

theorem keys_written (fields : List (String × Option Value)) :
    ((written fields).map (·.1)).Sublist (fields.map (·.1)) := by
  induction fields with
  | nil => simp
  | cons f fields ih =>
    obtain ⟨k, _ | v⟩ := f
    · exact ih.cons k
    · exact ih.cons_cons k

theorem lookup_written (h : (fields.map (·.1)).Nodup) (key : String) :
    (written fields).lookup key = (fields.lookup key).join := by
  induction fields with
  | nil => rfl
  | cons f fields ih =>
    obtain ⟨k, o⟩ := f
    rw [List.map_cons, List.nodup_cons] at h
    by_cases hk : key = k
    · subst hk
      cases o with
      | none =>
        -- What is left out under a key is not written under it further on.
        have hnone : (written fields).lookup key = none := by
          rw [List.lookup_eq_none_iff]
          intro m hm
          have hmem := (keys_written fields).subset (List.mem_map_of_mem hm)
          exact bne_iff_ne.2 fun heq => h.1 (heq ▸ hmem)
        simpa [written] using hnone
      | some v => simp
    · have hkey : (key == k) = false := by simpa using hk
      cases o with
      | none => rw [List.lookup_cons, hkey]; exact ih h.2
      | some v => simp only [written_cons_some, List.lookup_cons, hkey, ih h.2]

/-- A reader gets what the field of the key holds. -/
theorem Members.required_written (h : (fields.map (·.1)).Nodup) (room : Room) (key : String)
    (s : Shape α) :
    required (written fields) room key s = (fields.lookup key).join.bind (s room) := by
  rw [required_of_nodup (h.sublist (keys_written fields)), lookup_written h]

theorem Members.withDefault_written (h : (fields.map (·.1)).Nodup) (room : Room) (key : String)
    (a : α) (s : Shape α) :
    withDefault (written fields) room key a s =
      (fields.lookup key).join.elim (some a) (s room) := by
  rw [withDefault_of_nodup (h.sublist (keys_written fields)), lookup_written h]

end written

/-- What is left out when it is absent. -/
def textField : Option String → Option Value := Option.map .string

@[simp]
theorem elim_textField (room : Room) (o : Option String) :
    (textField o).elim (some none) (Shape.text.orNull room) = some o := by
  cases o <;> rfl

/-! ## Values -/

namespace Shape

variable {α : Type} {levels : Nat} {held : Bool}

@[simp]
theorem text_string (room : Room) (s : String) : text room (.string s) = some s := rfl

@[simp]
theorem bool_bool (room : Room) (b : Bool) : bool room (.bool b) = some b := rfl

theorem natBelow_ofNat {n bound : Nat} (h : n < bound) (room : Room) :
    natBelow bound room (.ofNat n) = some n := by
  simp [natBelow, Value.ofNat, h]

theorem nat32_ofNat {n : Nat} (h : n < Nat.pow 2 32) (room : Room) :
    nat32 room (.ofNat n) = some n :=
  natBelow_ofNat h room

theorem nat64_ofNat {n : Nat} (h : n < Nat.pow 2 64) (room : Room) :
    nat64 room (.ofNat n) = some n :=
  natBelow_ofNat h room

theorem orNull_of_ne_null {s : Shape α} {room : Room} {v : Value} (h : v ≠ .null) :
    s.orNull room v = (s room v).map some := by
  cases v <;> first | rfl | exact absurd rfl h

@[simp]
theorem orNull_text (room : Room) (o : Option String) :
    text.orNull room (.stringOrNull o) = some o := by
  cases o <;> rfl

/-- An object is read from its members, with one level less. -/
theorem object_object (r : Record α) (ms : Members) :
    object r ⟨levels + 1, held⟩ (.object ms) = r.read ⟨levels, held⟩ ms := rfl

theorem mapM_encode {read : Value → Option α} {encode : α → Value} {xs : List α}
    (h : ∀ x ∈ xs, read (encode x) = some x) : (xs.map encode).mapM read = some xs := by
  induction xs with
  | nil => rfl
  | cons x xs ih =>
    rw [List.map_cons, List.mapM_cons, h x (by simp), ih fun y hy => h y (by simp [hy])]
    rfl

/-- A list is read back when each of its items is, with one level less. -/
theorem items_map {s : Shape α} {encode : α → Value} {xs : List α}
    (h : ∀ x ∈ xs, s ⟨levels, held⟩ (encode x) = some x) :
    items s ⟨levels + 1, held⟩ (.array (xs.map encode)) = some xs :=
  mapM_encode h

@[simp]
theorem items_ofTexts (ss : List String) : text.items ⟨levels + 1, held⟩ (.ofTexts ss) = some ss :=
  items_map fun s _ => text_string _ s

/-- A value that may be null is read back when it is never written as null otherwise. -/
theorem orNull_elim {s : Shape α} {encode : α → Value} {room : Room} {o : Option α}
    (hnull : ∀ a, encode a ≠ .null) (h : ∀ a ∈ o, s room (encode a) = some a) :
    s.orNull room (o.elim .null encode) = some o := by
  cases o with
  | none => rfl
  | some a => rw [Option.elim_some, orNull_of_ne_null (hnull a), h a rfl, Option.map_some]

/-- A text is read as what the value in it is read as. -/
theorem readText_of_read? {s : Shape α} {text : String} {v : Value} {a : α}
    (hread : Value.read? text = some v) (hshape : s .whole v = some a) :
    s.readText text = .ok a := by
  simp only [readText, hread, read, hshape]

end Shape

end XmlTypes.Json
