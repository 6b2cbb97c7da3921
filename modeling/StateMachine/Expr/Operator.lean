import StateMachine.Value

/-!
Binary operators, the family that fixes their operand and result types, and how tightly they bind.
-/

set_option autoImplicit false

namespace StateMachine

inductive Operator where
  | add | sub | mul | div
  | lt | gt | le | ge
  | eq | ne
  | and | or
deriving DecidableEq, Repr

namespace Operator

inductive Family where
  /-- Two integers give an integer. -/
  | arithmetic
  /-- Two integers give a truth value. -/
  | relational
  /-- Two values of one type give a truth value. -/
  | equality
  /-- Two truth values give a truth value. -/
  | logical
deriving DecidableEq, Repr

def all : List Operator := [.add, .sub, .mul, .div, .lt, .gt, .le, .ge, .eq, .ne, .and, .or]

def symbol : Operator → String
  | .add => "+"
  | .sub => "-"
  | .mul => "*"
  | .div => "/"
  | .lt => "<"
  | .gt => ">"
  | .le => "<="
  | .ge => ">="
  | .eq => "=="
  | .ne => "!="
  | .and => "&&"
  | .or => "||"

def ofSymbol? (text : String) : Option Operator :=
  all.find? fun operator => operator.symbol == text

def family : Operator → Family
  | .add | .sub | .mul | .div => .arithmetic
  | .lt | .gt | .le | .ge => .relational
  | .eq | .ne => .equality
  | .and | .or => .logical

/-- Binding strength of the operator in source text; a greater number binds tighter. -/
def level : Operator → Nat
  | .or => 0
  | .and => 1
  | .eq | .ne => 2
  | .lt | .gt | .le | .ge => 3
  | .add | .sub => 4
  | .mul | .div => 5

/-- Result type for two operands of type `operand`, when the operator takes them. -/
def resultTy? (operator : Operator) (operand : Ty) : Option Ty :=
  match operator.family, operand with
  | .arithmetic, .int => some .int
  | .relational, .int => some .bool
  | .equality, _ => some .bool
  | .logical, .bool => some .bool
  | _, _ => none

@[simp] theorem of_symbol_symbol (operator : Operator) :
    ofSymbol? operator.symbol = some operator := by
  cases operator <;> rfl

end Operator

end StateMachine
