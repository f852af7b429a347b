import XmlTypes.Naming
import XmlTypes.Schema.Document
/-!
# Reserved names

The names that global types, and groups where they give interfaces, will take. A type given in
place must not take one of them, in whatever case, even if the global is built later.
-/

namespace XmlTypes.Build

open Schema

/-- Reserved names in lower case, each with the namespace of its construct. -/
structure Reserved where
  names : List (String × String) := []
deriving DecidableEq, Repr, Inhabited

namespace Reserved

/-- The reservation of an output name for the construct `q`. -/
def entry (q : QName) (output : String) : String × String := (q.uriText, Text.lower output)

/-- The reservations for a global type. A simple type may turn out to be an enumeration. -/
def ofType (naming : Naming) : TypeDefinition → List (String × String)
  | .complex t => t.name.toList.map fun q => entry q (naming.complexType q "")
  | .simple t => t.name.toList.flatMap fun q =>
    [entry q (naming.simpleType q ""), entry q (naming.enumeration q "")]

/-- The reservations for the groups of a document. -/
def ofGroups (naming : Naming) (d : Document) : List (String × String) :=
  d.groups.map (fun g => entry g.name (naming.group g.name ""))
    ++ d.attributeGroups.map fun g => entry g.name (naming.attributeGroup g.name "")

/-- The reservations for a schema. -/
def ofSet (set : SchemaSet) (naming : Naming) (interfaces : Bool) : Reserved :=
  ⟨set.documents.flatMap fun d =>
    d.types.flatMap (ofType naming) ++ if interfaces then ofGroups naming d else []⟩

/-- Whether a name is reserved for a construct of the namespace, in whatever case. -/
def contains (r : Reserved) (uri : Option String) (name : String) : Bool :=
  r.names.contains (uri.getD "", Text.lower name)

end Reserved

end XmlTypes.Build
