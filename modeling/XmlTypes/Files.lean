import XmlTypes.Configuration
import XmlTypes.Json.Reader
import XmlTypes.Schema.Decode
/-!
# Texts and files

Reading data from the text of a file. A text that is no JSON, or not of the shape expected, is
malformed; a file that is not there is unreadable.
-/

namespace XmlTypes

open Json (Value Shape Room)

/-- Reads a value of the given shape. -/
def Json.Shape.read {α : Type} (s : Shape α) (v : Value) : Except Failure α :=
  match s .whole v with
  | some a => .ok a
  | none => .error .malformed

/-- Reads a text of the given shape. -/
def Json.Shape.readText {α : Type} (s : Shape α) (text : String) : Except Failure α :=
  match Value.read? text with
  | some v => s.read v
  | none => .error .malformed

/-- Reads the content of a file, if there is one, of the given shape. -/
def Json.Shape.readContent {α : Type} (s : Shape α) : Option String → Except Failure α
  | some text => s.readText text
  | none => .error .unreadable

/-- Reads a schema set. -/
def Schema.SchemaSet.ofJson (text : String) : Except Failure SchemaSet :=
  SchemaSet.shape.readText text

/-- Reads a configuration. -/
def Configuration.ofJson (text : String) : Except Failure Configuration :=
  Configuration.shape.readText text

end XmlTypes
