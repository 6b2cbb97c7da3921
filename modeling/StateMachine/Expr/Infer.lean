import StateMachine.Expr.Eval
import StateMachine.Machine.Basic

/-!
Types of expressions without their values. One value is computed on the way: a constant divisor,
so that a division that must fail is refused.
-/

set_option autoImplicit false

namespace StateMachine

structure Scope where
  declared : List Attribute
  /-- The attribute whose default is looked at, if any. -/
  owner : Option String

namespace Scope

def ofAll (declared : List Attribute) : Scope := ⟨declared, none⟩

/-- The default of `owner` sees the attributes before the first declaration of that name, and all
of them when there is none. -/
def forDefault (declared : List Attribute) (owner : String) : Scope := ⟨declared, some owner⟩

def visible (scope : Scope) : List Attribute :=
  match scope.owner with
  | none => scope.declared
  | some owner => scope.declared.takeWhile fun declared => !(declared.name == owner)

def lookup (scope : Scope) (name : String) : Except Fault Ty :=
  match scope.visible.find? (fun declared => declared.name == name), scope.owner with
  | some declared, _ => .ok declared.ty
  | none, none => .error (.unbound name)
  | none, some owner =>
      if scope.declared.any (fun declared => declared.name == name) then
        .error (.outOfScope name owner)
      else .error (.unbound name)

end Scope

/-- Refuses a constant divisor that is zero or has no value. -/
def Expr.checkDivisor (divisor : Expr) : Except Fault Unit := do
  let value ← divisor.evaluate Environment.empty
  if value = .int Word.zero then .error .divisionByZero else .ok ()

def Operator.infer (operator : Operator) (left right : Ty) : Except Fault Ty :=
  if left = right then
    match operator.resultTy? left with
    | some result => .ok result
    | none => .error (.unsupported operator left)
  else .error (.mismatch (.operands operator) left right)

def Expr.infer (scope : Scope) : Expr → Except Fault Ty
  | .literal value => .ok value.ty
  | .reference name => scope.lookup name
  | .binary operator left right => do
      let leftTy ← infer scope left
      let rightTy ← infer scope right
      let result ← operator.infer leftTy rightTy
      if operator = .div && right.isConstant then right.checkDivisor
      return result
  | .negate operand => do
      match ← infer scope operand with
      | .int => return .int
      | .bool => throw (.mismatch .negated .int .bool)
  | .not operand => do
      match ← infer scope operand with
      | .bool => return .bool
      | .int => throw (.mismatch .inverted .bool .int)
  | .group inner => infer scope inner

end StateMachine
