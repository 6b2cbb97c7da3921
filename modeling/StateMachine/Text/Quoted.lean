/-!
Texts in double quotes. The writer escapes the quote, the backslash and the three control characters
that have a letter, so that a written text stands on one line; the reader takes any escaped
character.
-/

set_option autoImplicit false

namespace StateMachine.Text.Quoted

def escape (character : Char) : List Char :=
  match character with
  | '\\' => ['\\', '\\']
  | '"' => ['\\', '"']
  | '\n' => ['\\', 'n']
  | '\r' => ['\\', 'r']
  | '\t' => ['\\', 't']
  | _ => [character]

def encode (content : String) : String :=
  "\"" ++ String.ofList (content.toList.flatMap escape) ++ "\""

/-- The character that stands after a backslash in the source means this one. -/
def unescape (letter : Char) : Char :=
  match letter with
  | 'n' => '\n'
  | 't' => '\t'
  | 'r' => '\r'
  | _ => letter

inductive Unfinished where
  | escape
  | text
deriving DecidableEq, Repr

/-- Reads a text after its opening quote. Gives the text and what follows the closing quote. -/
def decode : List Char → Except Unfinished (List Char × List Char)
  | [] => .error .text
  | '"' :: rest => .ok ([], rest)
  | ['\\'] => .error .escape
  | '\\' :: letter :: rest => do
      let (content, after) ← decode rest
      return (unescape letter :: content, after)
  | character :: rest => do
      let (content, after) ← decode rest
      return (character :: content, after)

end StateMachine.Text.Quoted
