import XmlTypes.Uri.Path
/-!
# Keys of namespaces

Where a construct comes from: its document and its XML namespace. A key that leaves one of them
out stands for every one.
-/

namespace XmlTypes

/-- A document and an XML namespace, each of which may be left open. -/
structure NamespaceKey where
  source : Option String := none
  uri : Option String := none
deriving DecidableEq, Repr, Inhabited

namespace NamespaceKey

/-- Every namespace of a document. -/
def ofSource (source : String) : NamespaceKey := ⟨some source, none⟩

/-- A namespace in every document. -/
def ofUri (uri : String) : NamespaceKey := ⟨none, some uri⟩

/-- Everything. -/
def any : NamespaceKey := {}

/-- The document reduced to the last segment of its path. -/
def fileName? (k : NamespaceKey) : Option String := k.source.bind Uri.fileName?

/-- The key in parentheses, with a star for what is open. -/
def toText (k : NamespaceKey) : String :=
  "(" ++ k.source.getD "*" ++ ", " ++ k.uri.getD "*" ++ ")"

end NamespaceKey

end XmlTypes
