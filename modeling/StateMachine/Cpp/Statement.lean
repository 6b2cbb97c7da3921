import StateMachine.Machine.Basic
import StateMachine.Text.Quoted

/-!
Expressions and actions in C++. Every operator is written with parentheses of its own, so that the
meaning never hangs on how tightly C++ binds.
-/

set_option autoImplicit false

namespace StateMachine

/-- A constant. The least word has no literal of its own. -/
def Value.cpp : Value → String
  | .bool flag => flagText flag
  | .int word =>
      if word.val = -9223372036854775808 then "(-9223372036854775807LL - 1)"
      else if word.val < 0 then "(" ++ word.text ++ ")"
      else word.text

/-- An expression; `path` leads to the attributes. -/
def Expr.cpp (path : String) : Expr → String
  | .literal value => value.cpp
  | .reference name => path ++ name
  | .binary operator left right =>
      "(" ++ left.cpp path ++ " " ++ operator.symbol ++ " " ++ right.cpp path ++ ")"
  | .negate operand => "(-" ++ operand.cpp path ++ ")"
  | .not operand => "(!" ++ operand.cpp path ++ ")"
  | .group inner => "(" ++ inner.cpp path ++ ")"

def Printed.cpp (path : String) : Printed → String
  | .text content => Text.Quoted.encode content
  | .value expr => expr.cpp path

/-- The statements of an action. A command only announces itself. -/
def Action.cpp (path : String) : Action → List String
  | .assign target value => [path ++ target ++ " = " ++ value.cpp path ++ ";"]
  | .print parts =>
      ["std::cout" ++ String.join (parts.map fun part => " << " ++ part.cpp path) ++
        " << std::endl;"]
  | .timeout millis =>
      ["std::cout << \"Delaying transition for " ++ toString millis.toNat ++
        " milliseconds...\" << std::endl;",
        "std::this_thread::sleep_for(std::chrono::milliseconds(" ++ toString millis.toNat ++ "));"]
  | .run command =>
      ["std::cout << " ++ Text.Quoted.encode ("Run Command: " ++ command ++ "()") ++
        " << std::endl;"]

def Ty.cpp : Ty → String
  | .int => "long long"
  | .bool => "bool"

end StateMachine
