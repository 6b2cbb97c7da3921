import StateMachine.Environment
import StateMachine.Expr.Basic
import StateMachine.Expr.Fault

/-!
Strict evaluation: the left operand, then the right operand, then the operator. Integer results are
exact or an overflow fault.
-/

set_option autoImplicit false

namespace StateMachine

def Step.exact (step : Step) (result : Int) : Except Fault Value :=
  match Word.ofInt? result with
  | some word => .ok (.int word)
  | none => .error (.overflow step)

namespace Operator

/-- Division truncates toward zero; the logical operators take no integers. -/
def applyInts (operator : Operator) (left right : Word) : Except Fault Value :=
  match operator with
  | .add => (Step.binary .add).exact (left.val + right.val)
  | .sub => (Step.binary .sub).exact (left.val - right.val)
  | .mul => (Step.binary .mul).exact (left.val * right.val)
  | .div =>
      if right.val = 0 then .error .divisionByZero
      else (Step.binary .div).exact (left.val.tdiv right.val)
  | .lt => .ok (.bool (decide (left.val < right.val)))
  | .gt => .ok (.bool (decide (left.val > right.val)))
  | .le => .ok (.bool (decide (left.val ≤ right.val)))
  | .ge => .ok (.bool (decide (left.val ≥ right.val)))
  | .eq => .ok (.bool (left == right))
  | .ne => .ok (.bool (left != right))
  | .and | .or => .error (.unsupported operator .int)

def applyFlags (operator : Operator) (left right : Bool) : Except Fault Value :=
  match operator with
  | .eq => .ok (.bool (left == right))
  | .ne => .ok (.bool (left != right))
  | .and => .ok (.bool (left && right))
  | .or => .ok (.bool (left || right))
  | .add | .sub | .mul | .div | .lt | .gt | .le | .ge => .error (.unsupported operator .bool)

/-- Applies the operator to two values. Operands of different types are a mismatch whatever the
operator. -/
def apply (operator : Operator) : Value → Value → Except Fault Value
  | .int left, .int right => operator.applyInts left right
  | .bool left, .bool right => operator.applyFlags left right
  | left, right => .error (.mismatch (.operands operator) left.ty right.ty)

end Operator

namespace Value

def negate : Value → Except Fault Value
  | .int word => Step.negation.exact (-word.val)
  | .bool _ => .error (.mismatch .negated .int .bool)

def not : Value → Except Fault Value
  | .bool flag => .ok (.bool (!flag))
  | .int _ => .error (.mismatch .inverted .bool .int)

end Value

namespace Expr

def evaluate (environment : Environment) : Expr → Except Fault Value
  | .literal value => .ok value
  | .reference name =>
      match environment.get? name with
      | some value => .ok value
      | none => .error (.unbound name)
  | .binary operator left right => do
      let leftValue ← evaluate environment left
      let rightValue ← evaluate environment right
      operator.apply leftValue rightValue
  | .negate operand => do
      let value ← evaluate environment operand
      value.negate
  | .not operand => do
      let value ← evaluate environment operand
      value.not
  | .group inner => evaluate environment inner

end Expr

inductive Verdict where
  | decided (allowed : Bool)
  /-- The guard has a value, but not a truth value. -/
  | notBoolean (found : Ty)
deriving DecidableEq, Repr

def Value.verdict : Value → Verdict
  | .bool flag => .decided flag
  | .int _ => .notBoolean .int

/-- A missing guard allows its transition. -/
def judge (environment : Environment) : Option Expr → Except Fault Verdict
  | none => .ok (.decided true)
  | some guard => do
      let value ← guard.evaluate environment
      return value.verdict

end StateMachine
