import StateMachine.Word

/-!
The two types an attribute can have and the values it can hold.
-/

set_option autoImplicit false

namespace StateMachine

inductive Ty where
  | int
  | bool
deriving DecidableEq, Repr

inductive Value where
  | int (word : Word)
  | bool (flag : Bool)
deriving DecidableEq, Repr

def flagText (flag : Bool) : String := if flag then "true" else "false"

namespace Ty

def name : Ty → String
  | .int => "int"
  | .bool => "bool"

/-- Reads a type's name; case and surrounding blanks count. -/
def ofName? (text : String) : Option Ty :=
  if text = "int" then some .int else if text = "bool" then some .bool else none

/-- The value an attribute of this type holds when it has no default. -/
def zero : Ty → Value
  | .int => .int Word.zero
  | .bool => .bool false

@[simp] theorem of_name_name (ty : Ty) : ofName? ty.name = some ty := by
  cases ty <;> rfl

end Ty

namespace Value

def ty : Value → Ty
  | .int _ => .int
  | .bool _ => .bool

def text : Value → String
  | .int word => word.text
  | .bool flag => flagText flag

end Value

@[simp] theorem Ty.zero_ty (ty : Ty) : ty.zero.ty = ty := by
  cases ty <;> rfl

end StateMachine
