import StateMachine.Expr.Operator
import StateMachine.Proofs.Environment.Binding

/-!
C++ expressions over variables and what they mean. A literal without a suffix has 32 bits when it
fits, operands are brought to the wider of their types, and a result that its type cannot hold is
undefined.
-/

set_option autoImplicit false

namespace StateMachine.Cpp

inductive Term where
  | flag (held : Bool)
  /-- A decimal literal; with a suffix, `LL`, it has 64 bits however small it is. -/
  | number (magnitude : Nat) (isSuffixed : Bool)
  | named (name : String)
  | binary (operator : Operator) (left right : Term)
  | negate (operand : Term)
  | invert (operand : Term)
deriving DecidableEq, Repr

inductive Width where
  | narrow
  | wide
deriving DecidableEq, Repr

namespace Width

def Fits : Width → Int → Prop
  | .narrow, number => -2147483648 ≤ number ∧ number ≤ 2147483647
  | .wide, number => -9223372036854775808 ≤ number ∧ number ≤ 9223372036854775807

instance : (width : Width) → (number : Int) → Decidable (width.Fits number)
  | .narrow, number => inferInstanceAs (Decidable (-2147483648 ≤ number ∧ number ≤ 2147483647))
  | .wide, number =>
      inferInstanceAs (Decidable (-9223372036854775808 ≤ number ∧ number ≤ 9223372036854775807))

def join : Width → Width → Width
  | .narrow, .narrow => .narrow
  | _, _ => .wide

end Width

inductive Quantity where
  | flag (held : Bool)
  | number (width : Width) (held : Int)
deriving DecidableEq, Repr

namespace Quantity

/-- A flag counts as the 32-bit number zero or one where a number is asked for. -/
def width : Quantity → Width
  | .flag _ => .narrow
  | .number width _ => width

def integer : Quantity → Int
  | .flag held => if held then 1 else 0
  | .number _ held => held

def truth : Quantity → Bool
  | .flag held => held
  | .number _ held => held != 0

end Quantity

def Width.exact (width : Width) (result : Int) : Option Quantity :=
  if width.Fits result then some (.number width result) else none

/-- Holds when a left operand of this truth leaves nothing for the right one to decide. -/
def isDecidedBy : Operator → Bool → Bool
  | .and, truth => !truth
  | .or, truth => truth
  | _, _ => false

/-- An operator on two operands of one width. A logical operator comes here only when its left
operand has left it open. -/
def compute (width : Width) (operator : Operator) (left right : Int) : Option Quantity :=
  match operator with
  | .add => width.exact (left + right)
  | .sub => width.exact (left - right)
  | .mul => width.exact (left * right)
  | .div => if right = 0 then none else width.exact (left.tdiv right)
  | .lt => some (.flag (decide (left < right)))
  | .gt => some (.flag (decide (left > right)))
  | .le => some (.flag (decide (left ≤ right)))
  | .ge => some (.flag (decide (left ≥ right)))
  | .eq => some (.flag (decide (left = right)))
  | .ne => some (.flag (decide (left ≠ right)))
  | .and | .or => some (.flag (decide (right ≠ 0)))

/-- A literal without a suffix has 32 bits when they hold it. -/
def Width.ofMagnitude (magnitude : Nat) : Width :=
  if magnitude ≤ 2147483647 then .narrow else .wide

def literal? (magnitude : Nat) (isSuffixed : Bool) : Option Quantity :=
  (if isSuffixed then Width.wide else Width.ofMagnitude magnitude).exact magnitude

namespace Term

/-- The value of a term, where there is one that C++ defines. -/
def value? (memory : String → Option Quantity) : Term → Option Quantity
  | .flag held => some (.flag held)
  | .number magnitude isSuffixed => literal? magnitude isSuffixed
  | .named name => memory name
  | .negate operand => do
      let quantity ← value? memory operand
      quantity.width.exact (-quantity.integer)
  | .invert operand => do
      let quantity ← value? memory operand
      return .flag (!quantity.truth)
  | .binary operator left right => do
      let first ← value? memory left
      if isDecidedBy operator first.truth then return .flag first.truth
      let second ← value? memory right
      compute (first.width.join second.width) operator first.integer second.integer

variable (memory : String → Option Quantity)

theorem value_binary (operator : Operator) (left right : Term) :
    (binary operator left right).value? memory =
      (left.value? memory).bind fun first =>
        if isDecidedBy operator first.truth then some (.flag first.truth)
        else (right.value? memory).bind fun second =>
          compute (first.width.join second.width) operator first.integer second.integer := rfl

theorem value_negate (operand : Term) :
    (negate operand).value? memory =
      (operand.value? memory).bind fun quantity => quantity.width.exact (-quantity.integer) := rfl

theorem value_invert (operand : Term) :
    (invert operand).value? memory =
      (operand.value? memory).bind fun quantity => some (.flag (!quantity.truth)) := rfl

end Term

end StateMachine.Cpp

namespace StateMachine

/-- A value as C++ holds it; the fields of a machine have 64 bits. -/
def Value.quantity (width : Cpp.Width) : Value → Cpp.Quantity
  | .bool flag => .flag flag
  | .int word => .number width word.val

def Environment.memory (environment : Environment) (path name : String) : Option Cpp.Quantity :=
  ((environment.bindings.map fun (bound, value) => (path ++ bound, value)).lookup name).map
    (Value.quantity .wide)

theorem Environment.memory_path (environment : Environment) (path name : String) :
    environment.memory path (path ++ name) =
      (environment.get? name).map (Value.quantity .wide) := by
  rw [memory, ← environment.lookup_bindings]
  congr 1
  induction environment.bindings with
  | nil => rfl
  | cons binding rest induction =>
      obtain ⟨bound, value⟩ := binding
      have same : (path ++ name == path ++ bound) = (name == bound) := by
        rw [Bool.eq_iff_iff, beq_iff_eq, beq_iff_eq, String.append_right_inj]
      simp only [List.map_cons, List.lookup_cons, same, induction]

end StateMachine
