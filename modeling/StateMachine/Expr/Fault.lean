import StateMachine.Expr.Operator

/-!
Why an expression has no value or no type. Evaluation and type inference share these causes, so
that the two classify a bad expression alike.
-/

set_option autoImplicit false

namespace StateMachine

/-- The place whose type is not the one required there. -/
inductive Place where
  | operands (operator : Operator)
  | negated
  | inverted
  | default (owner : String)
  | assignment (target : String)
deriving DecidableEq, Repr

/-- The arithmetic step whose exact result does not fit into a word. -/
inductive Step where
  | binary (operator : Operator)
  | negation
deriving DecidableEq, Repr

inductive Fault where
  | unbound (name : String)
  /-- The default of `owner` mentions a name that is not declared before it. -/
  | outOfScope (name owner : String)
  | mismatch (place : Place) (expected found : Ty)
  | divisionByZero
  /-- The operator takes no operands of this type. -/
  | unsupported (operator : Operator) (operand : Ty)
  | overflow (step : Step)
deriving DecidableEq, Repr

def Place.text : Place → String
  | .operands operator => "operands of '" ++ operator.symbol ++ "'"
  | .negated => "operand of '-'"
  | .inverted => "operand of '!'"
  | .default owner => "default value of '" ++ owner ++ "'"
  | .assignment target => "assignment to '" ++ target ++ "'"

def Step.symbol : Step → String
  | .binary operator => operator.symbol
  | .negation => "-"

namespace Fault

def message : Fault → String
  | .unbound name => "unbound reference '" ++ name ++ "'"
  | .outOfScope name owner =>
      "'" ++ name ++ "' cannot be referenced by the default value of '" ++ owner ++
        "': it is not declared before it"
  | .mismatch place expected found =>
      "type mismatch in " ++ place.text ++ ": expected " ++ expected.name ++ ", found " ++
        found.name
  | .divisionByZero => "division by zero"
  | .unsupported operator operand =>
      "operator '" ++ operator.symbol ++ "' cannot be applied to " ++ operand.name ++ " operands"
  | .overflow step => "integer overflow in '" ++ step.symbol ++ "'"

def code : Fault → String
  | .unbound _ => "UNBOUND_REFERENCE"
  | .outOfScope _ _ => "OUT_OF_SCOPE_REFERENCE"
  | .mismatch _ _ _ => "TYPE_MISMATCH"
  | .divisionByZero => "DIVISION_BY_ZERO"
  | .unsupported _ _ => "UNRECOGNIZED_OPERATOR"
  | .overflow _ => "INTEGER_OVERFLOW"

/-- Holds for the faults that depend on the values met, not on names and types. -/
def isArithmetic : Fault → Bool
  | .divisionByZero | .overflow _ => true
  | _ => false

end Fault

end StateMachine
