import StateMachine.Yaml.Form

/-!
Writing records as YAML, one part below the other, the parts of inner records two blanks deeper.
-/

set_option autoImplicit false

namespace StateMachine.Yaml

def blanks (count : Nat) : List Char := List.replicate count ' '

def datumText (depth : Nat) : Datum → List Char
  | .text content => scalarText (blanks (depth + 2)) content
  | .flag holds => (if holds then "true" else "false").toList
  | .integer number => (toString number).toList
  | .record [] => ['\x7b', '\x7d']
  | _ => "null".toList

/-- Ends the line, unless the text has done so. -/
def endLine (text : List Char) : List Char :=
  if text.getLast?.any isBreak then text else text ++ ['\n']

mutual

def partText (depth : Nat) (name : String) : Datum → List Char
  | .record (first :: rest) =>
      blanks depth ++ nameText name ++ [':', '\n'] ++ partsText (depth + 2) (first :: rest)
  | datum =>
      endLine (blanks depth ++ nameText name ++ [':', ' '] ++ datumText depth datum)

def partsText (depth : Nat) : List (String × Datum) → List Char
  | [] => []
  | (name, part) :: rest => partText depth name part ++ partsText depth rest

end

/-- A record of scalars and of such records. Parts of other kinds are written as null. -/
def recordText (fields : List (String × Datum)) : String := String.ofList (partsText 0 fields)

end StateMachine.Yaml
