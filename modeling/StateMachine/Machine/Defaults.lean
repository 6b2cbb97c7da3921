import StateMachine.Expr.Eval
import StateMachine.Machine.Basic

/-!
Initial values of attributes. A default is evaluated in the environment of the attributes declared
before it, so it can see no other.
-/

set_option autoImplicit false

namespace StateMachine

def Attribute.initialValue (environment : Environment) (owner : Attribute) :
    Except Fault Value :=
  match owner.default with
  | none => .ok owner.ty.zero
  | some default => do
      let value ← default.evaluate environment
      if value.ty = owner.ty then .ok value
      else .error (.mismatch (.default owner.name) owner.ty value.ty)

namespace Environment

def initFrom (environment : Environment) : List Attribute → Except Fault Environment
  | [] => .ok environment
  | owner :: rest => do
      let value ← owner.initialValue environment
      initFrom (environment.set owner.name value) rest

def init (attributes : List Attribute) : Except Fault Environment :=
  initFrom empty attributes

end Environment

end StateMachine
