import StateMachine.Machine.Basic
import StateMachine.Expr.Fault

/-!
Findings about a model: what was found, where, and how it is put into words.
-/

set_option autoImplicit false

namespace StateMachine

inductive Severity where
  | error
  | warning
deriving DecidableEq, Repr

/-- The part of a model a finding is about. Positions count from zero. -/
inductive Site where
  | machine
  | state (name : String)
  | event (name : String)
  | command (name : String)
  | owner (name : String)
  | transition (state : String) (position : Nat)
  | transitionAction (state : String) (position action : Nat)
  | entryAction (state : String) (action : Nat)
deriving DecidableEq, Repr

inductive Finding where
  | duplicateName (name : String)
  | duplicateCommand (name : String)
  | reservedName (name : String)
  | stateNamedAsMachine (name : String)
  | undeclaredInitial (name : String)
  | stateNameCase
  | defaultMismatch (default : Expr) (found : Ty) (owner : String) (declared : Ty)
  | undeclaredEvent (name : String)
  | undeclaredTarget (name : String)
  | undeclaredAttribute (name : String)
  | undeclaredCommand (name : String)
  /-- An earlier transition of the state handles the same event. -/
  | shadowed (state event : String)
  | guardNotBoolean (guard : Expr) (found : Ty)
  | assignmentMismatch (found : Ty) (value : Expr) (declared : Ty) (target : String)
  | invalid (fault : Fault)
deriving DecidableEq, Repr

structure Diagnostic where
  site : Site
  finding : Finding
deriving DecidableEq, Repr

namespace Severity

def text : Severity → String
  | .error => "error"
  | .warning => "warning"

end Severity

namespace Site

/-- The words for a site; positions count from one. -/
def text : Site → String
  | .machine => "statemachine"
  | .state name => "state '" ++ name ++ "'"
  | .event name => "event '" ++ name ++ "'"
  | .command name => "command '" ++ name ++ "'"
  | .owner name => "attribute '" ++ name ++ "'"
  | .transition name position =>
      "state '" ++ name ++ "' transition #" ++ toString (position + 1)
  | .transitionAction name position action =>
      "state '" ++ name ++ "' transition #" ++ toString (position + 1) ++ " action #" ++
        toString (action + 1)
  | .entryAction name action =>
      "state '" ++ name ++ "' entry action #" ++ toString (action + 1)

end Site

namespace Finding

def severity : Finding → Severity
  | .reservedName _ | .stateNamedAsMachine _ | .stateNameCase | .shadowed _ _ => .warning
  | _ => .error

/-- Stable identifier of the kind of finding. A fault of a model's expression is classified like
the same fault at run time, except that a name without declaration is an unresolved reference. -/
def code : Finding → String
  | .duplicateName _ | .duplicateCommand _ => "DUPLICATE_IDENTIFIER"
  | .reservedName _ | .stateNamedAsMachine _ => "RESERVED_IDENTIFIER"
  | .undeclaredInitial _ => "UNDECLARED_INITIAL_STATE"
  | .stateNameCase => "STATE_NAME_CASE"
  | .defaultMismatch _ _ _ _ | .assignmentMismatch _ _ _ _ => "TYPE_MISMATCH"
  | .undeclaredEvent _ | .undeclaredTarget _ | .undeclaredAttribute _ | .undeclaredCommand _ =>
      "UNRESOLVED_REFERENCE"
  | .shadowed _ _ => "UNREACHABLE_TRANSITION"
  | .guardNotBoolean _ _ => "GUARD_NOT_BOOLEAN"
  | .invalid (.unbound _) => "UNRESOLVED_REFERENCE"
  | .invalid fault => fault.code

def message : Finding → String
  | .duplicateName name => "Duplicate identifier name: " ++ name
  | .duplicateCommand name => "Duplicate command name: " ++ name
  | .reservedName name =>
      "Name '" ++ name ++ "' is a C++ keyword or an identifier used by the generated code."
  | .stateNamedAsMachine name =>
      "State '" ++ name ++
        "' has the same name as the statemachine; the generated classes will clash."
  | .undeclaredInitial name => "Initial state '" ++ name ++ "' is not declared."
  | .stateNameCase => "State name should start with a capital letter."
  | .defaultMismatch default found owner declared =>
      "Default value '" ++ default.text ++ "' has type " ++ found.name ++ ", but '" ++ owner ++
        "' is declared " ++ declared.name ++ "."
  | .undeclaredEvent name => "Event '" ++ name ++ "' is not declared."
  | .undeclaredTarget name => "Target state '" ++ name ++ "' is not declared."
  | .undeclaredAttribute name => "Attribute '" ++ name ++ "' is not declared."
  | .undeclaredCommand name => "Command '" ++ name ++ "' is not declared."
  | .shadowed state event =>
      "An earlier transition of '" ++ state ++ "' already handles '" ++ event ++
        "'; this one never fires."
  | .guardNotBoolean guard found =>
      "Guard '" ++ guard.text ++ "' has type " ++ found.name ++ ", expected bool."
  | .assignmentMismatch found value declared target =>
      "Cannot assign " ++ found.name ++ " value '" ++ value.text ++ "' to " ++ declared.name ++
        " attribute '" ++ target ++ "'."
  | .invalid fault => fault.message

end Finding

namespace Diagnostic

def isError (diagnostic : Diagnostic) : Bool := diagnostic.finding.severity == .error

def text (diagnostic : Diagnostic) : String :=
  diagnostic.finding.severity.text ++ "[" ++ diagnostic.finding.code ++ "] " ++
    diagnostic.site.text ++ ": " ++ diagnostic.finding.message

end Diagnostic

def reportText (diagnostics : List Diagnostic) : String :=
  "\n".intercalate (diagnostics.map Diagnostic.text)

end StateMachine
