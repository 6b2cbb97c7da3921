import StateMachine.Datum.Basic

/-!
Writing data as JSON, on one line or indented by two blanks. Characters outside ASCII are written
as they are; of the rest only quotes, backslashes and control characters are escaped. Data that
have no value are written as null.
-/

set_option autoImplicit false

namespace StateMachine.Json

def hexDigit (number : Nat) : Char := (Nat.toDigits 16 number).head?.getD '0'

def escape (character : Char) : List Char :=
  match character with
  | '"' => ['\\', '"']
  | '\\' => ['\\', '\\']
  | '\x08' => ['\\', 'b']
  | '\x0c' => ['\\', 'f']
  | '\n' => ['\\', 'n']
  | '\r' => ['\\', 'r']
  | '\t' => ['\\', 't']
  | _ =>
      if character.toNat < 0x20 then
        ['\\', 'u', '0', '0', hexDigit (character.toNat / 16), hexDigit (character.toNat % 16)]
      else [character]

def quoted (content : String) : String :=
  "\"" ++ String.ofList (content.toList.flatMap escape) ++ "\""

def scalar : Datum → String
  | .flag true => "true"
  | .flag false => "false"
  | .integer number => toString number
  | .text content => quoted content
  | _ => "null"

mutual

def compact : Datum → String
  | .list items => "[" ++ ",".intercalate (compactItems items) ++ "]"
  | .record fields => "\x7b" ++ ",".intercalate (compactFields fields) ++ "\x7d"
  | datum => scalar datum

def compactItems : List Datum → List String
  | [] => []
  | item :: rest => compact item :: compactItems rest

def compactFields : List (String × Datum) → List String
  | [] => []
  | (name, part) :: rest => (quoted name ++ ":" ++ compact part) :: compactFields rest

end

def indent (depth : Nat) : String := String.ofList (List.replicate (2 * depth) ' ')

def block (opening closing : String) (depth : Nat) (lines : List String) : String :=
  if lines.isEmpty then opening ++ closing
  else
    opening ++ "\n" ++ ",\n".intercalate (lines.map (indent (depth + 1) ++ ·)) ++ "\n" ++
      indent depth ++ closing

mutual

def prettyAt (depth : Nat) : Datum → String
  | .list items => block "[" "]" depth (prettyItems (depth + 1) items)
  | .record fields => block "\x7b" "\x7d" depth (prettyFields (depth + 1) fields)
  | datum => scalar datum

def prettyItems (depth : Nat) : List Datum → List String
  | [] => []
  | item :: rest => prettyAt depth item :: prettyItems depth rest

def prettyFields (depth : Nat) : List (String × Datum) → List String
  | [] => []
  | (name, part) :: rest => (quoted name ++ ": " ++ prettyAt depth part) :: prettyFields depth rest

end

def pretty (datum : Datum) : String := prettyAt 0 datum

end StateMachine.Json
