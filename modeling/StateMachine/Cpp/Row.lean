/-!
Rows of generated source text, with their depth of indentation.
-/

set_option autoImplicit false

namespace StateMachine.Cpp

inductive Row where
  | blank
  | line (depth : Nat) (text : String)
deriving DecidableEq, Repr

namespace Row

def deeper : Row → Row
  | .blank => .blank
  | .line depth text => .line (depth + 1) text

/-- A row as it is written: four blanks for each level, and none on a blank row. -/
def text : Row → String
  | .blank => ""
  | .line depth text => String.ofList (List.replicate (4 * depth) ' ') ++ text

end Row

def line (text : String) : Row := .line 0 text

def flat (texts : List String) : List Row := texts.map line

def deeper (rows : List Row) : List Row := rows.map Row.deeper

def braced (heading : String) (body : List Row) (closing : String) : List Row :=
  line (heading ++ " \x7b") :: deeper body ++ [line ("\x7d" ++ closing)]

def spaced (parts : List (List Row)) : List Row := [Row.blank].intercalate parts

def rowsText (rows : List Row) : String := String.join (rows.map fun row => row.text ++ "\n")

end StateMachine.Cpp
