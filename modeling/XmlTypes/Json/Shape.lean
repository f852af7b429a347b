import XmlTypes.Json.Value
/-!
# Shapes of values

Reading data out of a JSON value. A reader gives none when the value does not have its shape. What
a reader does not look at is passed over, however deep it nests; what it looks at may nest only as
deep as the `Room` it is given allows.

In place of an object, an array may give the values of its members in their order.

An object that tells its alternative by a member `kind` is looked at as a whole: everything in it
must be sound, and it is *held* from there on. Within a held object the alternatives may also be
told by their positions.
-/

namespace XmlTypes.Json

/-- How a value is looked at: how many levels of arrays and objects may follow, and whether it
lies within a held object. -/
structure Room where
  levels : Nat
  held : Bool
deriving DecidableEq, Repr, Inhabited

/-- The room for a whole text. -/
def Room.whole : Room := ⟨127, false⟩

/-- A way to read values of type `α`. -/
abbrev Shape (α : Type) := Room → Value → Option α

/-- A way to read data from members, whose keys are given in order. -/
structure Record (α : Type) where
  keys : List String
  read : Room → Members → Option α

/-- The same members, read as something else. -/
def Record.map {α β : Type} (r : Record α) (f : α → β) : Record β :=
  ⟨r.keys, fun room ms => (r.read room ms).map f⟩

/-- The members that a value gives: those of an object, or the items of an array in the order of
the keys. An array may end early, but has no items to spare. -/
def membersOf? (keys : List String) : Value → Option Members
  | .object ms => some ms
  | .array vs => if vs.length ≤ keys.length then some (keys.zip vs) else none
  | _ => none

namespace Shape

variable {α : Type}

/-- A string. -/
def text : Shape String
  | _, .string s => some s
  | _, _ => none

/-- A truth value. -/
def bool : Shape Bool
  | _, .bool b => some b
  | _, _ => none

/-- A natural number below `bound`. -/
def natBelow (bound : Nat) : Shape Nat
  | _, .integer n => if 0 ≤ n ∧ n < bound then some n.toNat else none
  | _, _ => none

/-- A natural number of 32 bits. -/
def nat32 : Shape Nat := natBelow (Nat.pow 2 32)

/-- A natural number of 64 bits. -/
def nat64 : Shape Nat := natBelow (Nat.pow 2 64)

/-- Null for none. -/
def orNull (s : Shape α) : Shape (Option α)
  | _, .null => some none
  | room, v => (s room v).map some

/-- The room within an array or object, if there is any. -/
def enter? (room : Room) : Option Room :=
  match room.levels with
  | 0 => none
  | n + 1 => some { room with levels := n }

/-- An array of items. -/
def items (s : Shape α) : Shape (List α)
  | room, .array vs => do
    let inner ← enter? room
    vs.mapM (s inner)
  | _, _ => none

/-- An object, read from its members. -/
def object (r : Record α) : Shape α := fun room v => do
  let ms ← membersOf? r.keys v
  let inner ← enter? room
  r.read inner ms

/-- An object with a single member, read from its key and value. -/
def single (read : Room → String → Value → Option α) : Shape α
  | room, .object [(key, v)] => do
    let inner ← enter? room
    read inner key v
  | _, _ => none

/-- A word, or an object with the word as its only key. -/
def word (words : List (String × α)) : Shape α
  | _, .string s => (words.find? fun w => w.1 == s).map (·.2)
  | room, .object [(s, v)] => do
    let _ ← enter? room
    match v with
    | .null => (words.find? fun w => w.1 == s).map (·.2)
    | .object [] => if room.held then (words.find? fun w => w.1 == s).map (·.2) else none
    | _ => none
  | _, _ => none

end Shape

namespace Members

variable {α : Type}

/-- The only member with the given key: none if there are several, and none within if there is no
such member. -/
def only? (ms : Members) (key : String) : Option (Option Value) :=
  match ms.filter fun m => m.1 == key with
  | [] => some none
  | [m] => some (some m.2)
  | _ => none

/-- A member that must be there. -/
def required (ms : Members) (room : Room) (key : String) (s : Shape α) : Option α := do
  match ← only? ms key with
  | some v => s room v
  | none => none

/-- A member that is `a` when it is absent. -/
def withDefault (ms : Members) (room : Room) (key : String) (a : α) (s : Shape α) : Option α := do
  match ← only? ms key with
  | some v => s room v
  | none => return a

/-- A member that may be absent or null. -/
def optional (ms : Members) (room : Room) (key : String) (s : Shape α) : Option (Option α) :=
  withDefault ms room key none s.orNull

/-- A list that is empty when it is absent. -/
def list (ms : Members) (room : Room) (key : String) (s : Shape α) : Option (List α) :=
  withDefault ms room key [] s.items

end Members

/-- The member that tells the alternative of an object. -/
def tagKey : String := "kind"

namespace Shape

variable {α : Type}

/-- The alternative that a tag names, or, within a held object, the one at its position. -/
def tag? (held : Bool) (alternatives : List (String × α)) : Value → Option α
  | .string s => (alternatives.find? fun a => a.1 == s).map (·.2)
  | .integer n => if held && 0 ≤ n then (alternatives[n.toNat]?).map (·.2) else none
  | _ => none

/-- Parts an object into its tag and the rest of it. In an array the tag comes first. -/
def splitTag? : Value → Option (Value × Value)
  | .object ms => do
    let tag ← ← Members.only? ms tagKey
    return (tag, .object (ms.filter fun m => m.1 != tagKey))
  | .array (tag :: vs) => some (tag, .array vs)
  | _ => none

/-- An object whose member `kind` names one of the alternatives, each of which reads the other
members. -/
def tagged (alternatives : List (String × Record α)) : Shape α := fun room v => do
  if !room.held && !v.isSound room.levels then none
  let inner ← enter? room
  let (tag, rest) ← splitTag? v
  let r ← tag? room.held alternatives tag
  r.read { inner with held := true } (← membersOf? r.keys rest)

end Shape

end XmlTypes.Json
