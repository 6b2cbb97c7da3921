import StateMachine.Document.Codec
import StateMachine.Document.Resolve
import StateMachine.Document.Shape
import StateMachine.Json.Reader
import StateMachine.Text.Path

/-!
Loading models from text and from files.
-/

set_option autoImplicit false

namespace StateMachine

abbrev Storage := String → Except String ByteArray

def Storage.text (storage : Storage) (path : String) : Except String String := do
  let bytes ← storage path
  match String.fromUTF8? bytes with
  | some content => return content
  | none => throw "the file does not hold UTF-8 text"

namespace Format

/-- Files are read as JSON unless their extension says YAML, in letters of either case. -/
def ofPath (path : String) : Format :=
  match (Path.extension? path).map fun extension => extension.map Char.toLower with
  | some "yaml" | some "yml" => .yaml
  | _ => .json

end Format

namespace Document

def datumOfText? (format : Format) (text : String) : Option Datum :=
  match format with
  | .json => Json.parse? text
  | .yaml => Yaml.read? shape text

def ofText? (format : Format) (text : String) : Option Document :=
  (datumOfText? format text).bind ofDatum?

end Document

namespace Machine

def ofDocumentDatum (format : Format) (datum : Datum) : Except LoadFailure Machine :=
  match Document.ofDatum? datum with
  | some document => document.resolve
  | none => .error (.malformed format)

def ofText (format : Format) (text : String) : Except LoadFailure Machine :=
  match Document.ofText? format text with
  | some document => document.resolve
  | none => .error (.malformed format)

def load (storage : Storage) (path : String) : Except LoadFailure Machine := do
  let text ← (storage.text path).mapError LoadFailure.unavailable
  ofText (Format.ofPath path) text

end Machine

end StateMachine
