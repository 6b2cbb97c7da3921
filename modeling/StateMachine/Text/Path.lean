import StateMachine.Text.Split

/-!
Paths as text, with slashes between their components.
-/

set_option autoImplicit false

namespace StateMachine.Path

/-- The components of a path; repeated slashes and single dots do not count. -/
def components (path : String) : List (List Char) :=
  (Text.splitAt (· == '/') path.toList).filter fun part => !part.isEmpty && part != ['.']

/-- What follows the last dot of the last component. A dot at the component's start begins no
extension, and two dots alone are no name. -/
def extension? (path : String) : Option String :=
  match (components path).getLast? with
  | none | some ['.', '.'] => none
  | some name =>
      let pieces := Text.splitAt (· == '.') name
      match pieces.getLast? with
      | some last => if last.length + 1 < name.length then some (String.ofList last) else none
      | none => none

/-- A name inside a directory. An absolute name stands for itself. -/
def join (directory name : String) : String :=
  if name.toList.head? = some '/' then name
  else if directory = "" then name
  else
    match directory.toList.getLast? with
    | some '/' => directory ++ name
    | _ => directory ++ "/" ++ name

end StateMachine.Path
