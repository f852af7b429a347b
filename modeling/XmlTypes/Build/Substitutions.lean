import XmlTypes.Graph.Node
import XmlTypes.Table
/-!
# Substitution groups

Elements register as members of the group of their head. Who may stand in for a head is found by
following members of members; an abstract member is followed, but does not stand in itself.
Properties that refer to a head are remembered until all members are known.
-/

namespace XmlTypes.Build

/-- A node with a property for a head. -/
structure Site where
  owner : NodeId
  head : QName
deriving DecidableEq, Repr, Inhabited

/-- The members of substitution groups by head, and the properties that wait for them. -/
structure Substitutions where
  members : Table QName (List Substitute) := {}
  abstractMembers : List QName := []
  sites : List Site := []
deriving DecidableEq, Repr, Inhabited

namespace Substitutions

/-- Registers a member under its head, unless it is registered there. -/
def register (s : Substitutions) (m : Substitute) (isAbstract : Bool) : Substitutions :=
  { s with
    abstractMembers := if isAbstract then m.member :: s.abstractMembers else s.abstractMembers
    members := s.members.update m.head [] fun ms =>
      if ms.any (·.member = m.member) then ms else ms ++ [m] }

/-- The registered members of a head. -/
def membersOf (s : Substitutions) (head : QName) : List Substitute :=
  (s.members.get? head).getD []

/-- The members met by a search, and those that may stand in, in order. -/
structure Search where
  met : List QName := []
  found : List Substitute := []
deriving DecidableEq, Repr, Inhabited

/-- Meets the members of `head` that are new, each followed by its own, at most `fuel` members
deep. -/
def search (s : Substitutions) : (fuel : Nat) → Search → QName → Search
  | 0, r, _ => r
  | fuel + 1, r, head =>
    (s.membersOf head).foldl (fun r m =>
      if r.met.contains m.member then r
      else
        search s fuel
          { met := m.member :: r.met
            found := if s.abstractMembers.contains m.member then r.found else r.found ++ [m] }
          m.member) r

/-- All elements that may stand in for `head`, each once. No search is deeper than there are
members. -/
def substitutesOf (s : Substitutions) (head : QName) : List Substitute :=
  (s.search (s.members.values.flatten.length + 1) {} head).found

/-- Remembers a property that waits for the members of `head`. -/
def addSite (s : Substitutions) (owner : NodeId) (head : QName) : Substitutions :=
  if s.sites.contains ⟨owner, head⟩ then s else { s with sites := s.sites ++ [⟨owner, head⟩] }

/-- Forgets the properties that wait. -/
def clearSites (s : Substitutions) : Substitutions := { s with sites := [] }

end Substitutions

end XmlTypes.Build
