/-!
# Tables in order of insertion

A table maps keys to values and remembers the order in which its keys first appeared. It is a list
of entries whose keys are met in that order; a look-up takes the first entry of a key.
-/

namespace XmlTypes

/-- Entries in order of insertion. -/
structure Table (κ α : Type) where
  entries : List (κ × α) := []
deriving DecidableEq, Repr, Inhabited

namespace Table

variable {κ α : Type} [DecidableEq κ]

/-- The table without entries. -/
def empty : Table κ α := {}

/-- The value of `k`. -/
def get? (t : Table κ α) (k : κ) : Option α :=
  (t.entries.find? fun e => e.1 = k).map (·.2)

/-- Whether `k` has a value. -/
def contains (t : Table κ α) (k : κ) : Bool := t.entries.any fun e => e.1 = k

/-- The keys, in order. -/
def keys (t : Table κ α) : List κ := t.entries.map (·.1)

/-- The values, in order of their keys. -/
def values (t : Table κ α) : List α := t.entries.map (·.2)

/-- The number of entries. -/
def size (t : Table κ α) : Nat := t.entries.length

/-- Changes the value of `k` where there is one. -/
def modify (t : Table κ α) (k : κ) (f : α → α) : Table κ α :=
  ⟨t.entries.map fun e => if e.1 = k then (e.1, f e.2) else e⟩

/-- Gives `k` the value `a`; a key that is already there keeps its place. -/
def insert (t : Table κ α) (k : κ) (a : α) : Table κ α :=
  if t.contains k then t.modify k fun _ => a else ⟨t.entries ++ [(k, a)]⟩

/-- Gives `k` the value `a` unless it has one already. -/
def insertNew (t : Table κ α) (k : κ) (a : α) : Table κ α :=
  if t.contains k then t else ⟨t.entries ++ [(k, a)]⟩

/-- Changes the value of `k`, which is `a` before if there is none. -/
def update (t : Table κ α) (k : κ) (a : α) (f : α → α) : Table κ α :=
  if t.contains k then t.modify k f else ⟨t.entries ++ [(k, f a)]⟩

/-- Puts the entry `(new, a)` in the place of the entry of `old`, if there is one. Another entry
of `new` gives way. -/
def rename (t : Table κ α) (old new : κ) (a : α) : Table κ α :=
  match t.entries.findIdx? fun e => e.1 = old with
  | none => t
  | some i =>
    let others := (t.entries.eraseIdx i).filter fun e => e.1 ≠ new
    ⟨others.take i ++ (new, a) :: others.drop i⟩

/-- The table with the first entry of each key. -/
def ofEntries (es : List (κ × α)) : Table κ α :=
  es.foldl (fun t e => t.insertNew e.1 e.2) empty

end Table

end XmlTypes
