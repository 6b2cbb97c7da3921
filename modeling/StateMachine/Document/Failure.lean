import StateMachine.Expr.Parser
import StateMachine.Machine.Mention

/-!
Why a model cannot be loaded.
-/

set_option autoImplicit false

namespace StateMachine

inductive Format where
  | json
  | yaml
deriving DecidableEq, Repr

inductive LoadFailure where
  /-- The file is missing, is no file or holds no text. -/
  | unavailable (reason : String)
  | malformed (format : Format)
  | syntaxError (error : SyntaxError)
  | unresolved (mentions : List Mention)
  | unsupportedType (name : String)
deriving DecidableEq, Repr

def Format.label : Format → String
  | .json => "JSON"
  | .yaml => "YAML"

namespace LoadFailure

def message : LoadFailure → String
  | .unavailable reason => "I/O error: " ++ reason
  | .malformed format => format.label ++ " error: not a model document"
  | .syntaxError error => error.message
  | .unresolved mentions =>
      "unresolved references: " ++ ", ".intercalate (mentions.map Mention.text)
  | .unsupportedType name => "unsupported attribute type: '" ++ name ++ "'"

def code : LoadFailure → String
  | .unavailable _ => "IO_ERROR"
  | .malformed _ => "BAD_DOCUMENT"
  | .syntaxError _ => "SYNTAX_ERROR"
  | .unresolved _ => "UNRESOLVED_REFERENCE"
  | .unsupportedType _ => "UNSUPPORTED_ATTRIBUTE_TYPE"

end LoadFailure

end StateMachine
