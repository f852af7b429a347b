import XmlTypes.QName
/-!
# Failures

Everything that can stop the construction of a type graph, and the message of each. A failure is
final: the first one ends the construction.
-/

namespace XmlTypes

/-- What a reference refers to. -/
inductive Reference
  | type | baseType | element | attribute | group | attributeGroup
deriving DecidableEq, Repr, Inhabited

/-- The kind of reference in words. -/
def Reference.toText : Reference → String
  | .type => "type"
  | .baseType => "base type"
  | .element => "element"
  | .attribute => "attribute"
  | .group => "group"
  | .attributeGroup => "attribute group"

/-- A construct that is not handled. -/
inductive Unsupported
  /-- A name that is reserved for built-in constructs and is none. -/
  | construct (name : QName)
  /-- A reference, in the document at `location`, to something that is not declared. -/
  | unresolved (reference : Reference) (name : QName) (location : String)
  /-- A simple type is made from a complex type given in place. -/
  | inlineComplexType
  /-- A complex type without a name is no type that is given in place. -/
  | namelessComplexType
  /-- A global simple type has no name. -/
  | namelessSimpleType
deriving DecidableEq, Repr, Inhabited

/-- The construct in words. -/
def Unsupported.toText : Unsupported → String
  | construct name => name.toText
  | unresolved reference name location =>
    "unresolved " ++ reference.toText ++ " reference " ++ name.toText ++ " in '" ++ location ++ "'"
  | inlineComplexType => "anonymous complex type in a simple type derivation"
  | namelessComplexType => "anonymous complex type without a declaration"
  | namelessSimpleType => "global simple type without a name"

/-- What is wrong with a construct. -/
inductive Complaint
  | derivedFromComplex
  | circularDerivation
  | rootDocumentMissing
  /-- The construction nests deeper than the declarations allow. -/
  | bottomless
  | stated (text : String)
deriving DecidableEq, Repr, Inhabited

/-- The complaint in words. -/
def Complaint.toText : Complaint → String
  | derivedFromComplex => "simple type derived from a complex type"
  | circularDerivation => "circular simple type derivation"
  | rootDocumentMissing => "root element document not in the schema set"
  | bottomless => "unbounded nesting of definitions"
  | stated text => text

/-- Why no type graph is built. -/
inductive Failure
  /-- No output namespace is known for a namespace, referred to from a document. -/
  | unmapped (uri : String) (document : Option String)
  | unsupported (construct : Unsupported)
  | build (complaint : Complaint) (construct location : Option String)
  /-- A text is no JSON, or does not have the shape that is expected. -/
  | malformed
  /-- A file cannot be read. -/
  | unreadable
deriving DecidableEq, Repr, Inhabited

namespace Failure

/-- A reference to something that is not declared. -/
def unresolved (reference : Reference) (name : QName) (location : String) : Failure :=
  unsupported (.unresolved reference name location)

/-- A complaint about a named construct of a document. -/
def about (complaint : Complaint) (name : QName) (location : String) : Failure :=
  build complaint (some name.toText) (some location)

/-- A labelled paragraph of a message, if there is something to say. -/
def paragraph (label : String) : Option String → String
  | none => ""
  | some text => "\n\n" ++ label ++ ": " ++ text

/-- The message of the failure. -/
def message : Failure → String
  | unmapped uri document =>
    "configuration error: no output namespace mapped for '" ++ uri ++ "'" ++
      match document with
      | some d => " (referenced from '" ++ d ++ "')"
      | none => ""
  | unsupported construct => "unsupported construct: " ++ construct.toText
  | build complaint construct location =>
    "build error: " ++ complaint.toText ++ paragraph "Construct" construct
      ++ paragraph "Location" location
  | malformed => "JSON error"
  | unreadable => "I/O error"

end Failure

end XmlTypes
