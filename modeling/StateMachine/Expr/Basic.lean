import StateMachine.Expr.Operator

/-!
Expressions over attributes. `Expr.text` writes an expression the way a model's author would; it
adds no parentheses, so only the groups of the tree show.
-/

set_option autoImplicit false

namespace StateMachine

inductive Expr where
  | literal (value : Value)
  | reference (name : String)
  | binary (operator : Operator) (left right : Expr)
  | negate (operand : Expr)
  | not (operand : Expr)
  /-- Parentheses of the source text, kept so that the author's shape survives. -/
  | group (inner : Expr)
deriving DecidableEq, Repr

namespace Expr

def isConstant : Expr → Bool
  | .literal _ => true
  | .reference _ => false
  | .binary _ left right => left.isConstant && right.isConstant
  | .negate operand | .not operand => operand.isConstant
  | .group inner => inner.isConstant

/-- Names of the referenced attributes, from left to right, repetitions included. -/
def references : Expr → List String
  | .literal _ => []
  | .reference name => [name]
  | .binary _ left right => left.references ++ right.references
  | .negate operand | .not operand => operand.references
  | .group inner => inner.references

def text : Expr → String
  | .literal value => value.text
  | .reference name => name
  | .binary operator left right => left.text ++ " " ++ operator.symbol ++ " " ++ right.text
  | .negate operand => "-" ++ operand.text
  | .not operand => "!" ++ operand.text
  | .group inner => "(" ++ inner.text ++ ")"

end Expr

end StateMachine
