import StateMachine.Expr.Fault

/-!
Why a machine cannot be run or turned into a program.
-/

set_option autoImplicit false

namespace StateMachine

inductive Failure where
  | evaluation (fault : Fault)
  | undeclaredInitial (state : String)
  | guardNotBoolean (state event : String) (found : Ty)
  | unsupportedType (name : String)
  | unknownState (state : String)
  | unknownAttribute (name : String)
  | unknownEvents (events : List String)
  /-- The default of an attribute has no value that could be written as a constant. -/
  | unfoldable (owner : String) (fault : Fault)
deriving DecidableEq, Repr

namespace Failure

def message : Failure → String
  | .evaluation fault => "evaluation failed: " ++ fault.message
  | .undeclaredInitial state => "initial state '" ++ state ++ "' is not declared"
  | .guardNotBoolean state event found =>
      "guard of transition '" ++ state ++ "' on '" ++ event ++ "' evaluated to " ++ found.name ++
        ", expected bool"
  | .unsupportedType name => "unsupported attribute type: '" ++ name ++ "'"
  | .unknownState state => "state not found: " ++ state
  | .unknownAttribute name => "attribute not found: " ++ name
  | .unknownEvents events => "events not declared by the machine: " ++ ", ".intercalate events
  | .unfoldable owner fault =>
      "cannot fold default value of '" ++ owner ++ "': " ++ fault.message

def code : Failure → String
  | .evaluation fault => fault.code
  | .undeclaredInitial _ => "UNDECLARED_INITIAL_STATE"
  | .guardNotBoolean _ _ _ => "GUARD_NOT_BOOLEAN"
  | .unsupportedType _ => "UNSUPPORTED_ATTRIBUTE_TYPE"
  | .unknownState _ => "STATE_NOT_FOUND"
  | .unknownAttribute _ => "ATTRIBUTE_NOT_FOUND"
  | .unknownEvents _ => "UNKNOWN_EVENTS"
  | .unfoldable _ _ => "TRANSLATION_ERROR"

end Failure

end StateMachine
