import XmlTypes.Schema.Index
/-!
# The order of documents

Documents in an order in which each follows everything it depends on, as far as dependencies are
not circular: a walk along includes and imports lists a document after its dependencies, and
passes over a document that it has entered before.
-/

namespace XmlTypes.Schema

/-- The documents entered by a walk, and those it has left, in order. -/
structure Walk where
  entered : List Nat := []
  left : List Nat := []
deriving DecidableEq, Repr, Inhabited

/-- Enters document `i` unless it was entered before, at most `fuel` documents deep. -/
def Walk.visit (dependencies : Nat → List Nat) : (fuel : Nat) → Walk → Nat → Walk
  | 0, w, _ => w
  | fuel + 1, w, i =>
    if w.entered.contains i then w
    else
      let w := (dependencies i).foldl (visit dependencies fuel)
        { w with entered := i :: w.entered }
      { w with left := w.left ++ [i] }

namespace Index

/-- The documents that document `i` depends on, as far as they belong to the schema. -/
def dependencies (ix : Index) (i : Nat) : List Nat :=
  match ix.documents[i]? with
  | none => []
  | some doc => doc.dependencies.filterMap ix.locations.get?

/-- The positions of all documents, dependencies first. -/
def buildOrder (ix : Index) : List Nat :=
  let n := ix.documents.length
  ((List.range n).foldl (Walk.visit ix.dependencies (n + 1)) {}).left

/-- The locations of all documents, dependencies first. -/
def buildOrderLocations (ix : Index) : List String :=
  ix.buildOrder.filterMap fun i => (ix.documents[i]?).map (·.location)

end Index

end XmlTypes.Schema
