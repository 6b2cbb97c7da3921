import StateMachine.Command.Basic
import StateMachine.Command.Misuse

/-!
What a program leaves behind: its exit code, the texts of its two output streams and new files.
-/

set_option autoImplicit false

namespace StateMachine

structure Screen where
  exitCode : Nat
  output : String
  errors : String
  file : Option NewFile
deriving DecidableEq, Repr

namespace Screen

def misuse : Nat := 2

def failure : Nat := 1

def shows (output : String) : Screen := ⟨0, output, "", none⟩

def fails (message : String) : Screen := ⟨failure, "", "Error: " ++ message ++ "\n", none⟩

def refuses (rejection : Rejection) : Screen := ⟨misuse, "", rejection.text, none⟩

def unwritten (screen : Screen) (reason : String) : Screen :=
  let failed := fails reason
  { failed with errors := screen.errors ++ failed.errors }

def after (screen : Screen) (output : String) : Screen :=
  { screen with output := output ++ screen.output }

def warned (screen : Screen) (warnings : List Diagnostic) : Screen :=
  if warnings.isEmpty then screen
  else { screen with errors := reportText warnings ++ "\n" ++ screen.errors }

end Screen

end StateMachine
