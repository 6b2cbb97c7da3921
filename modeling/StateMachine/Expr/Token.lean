import StateMachine.Expr.Operator
import StateMachine.Text.Decimal
import StateMachine.Text.Split

/-!
Tokens of the expression syntax. The longest token wins; white space separates tokens and is dropped.
A character that starts no token becomes a token of its own, for the parser to refuse in its turn.
-/

set_option autoImplicit false

namespace StateMachine

inductive Token where
  /-- ASCII digits, leading zeros included. -/
  | number (digits : List Char)
  | word (name : List Char)
  | opening
  | closing
  | bang
  /-- The minus sign is the operator `sub` also where it negates. -/
  | operator (operator : Operator)
  | unknown (character : Char)
deriving DecidableEq, Repr

namespace Token

def startsWord (character : Char) : Bool := Text.isLetter character || character == '_'

def continuesWord (character : Char) : Bool := Text.isAlphanumeric character || character == '_'

def pair (next : Char) (long short : Token) (rest : List Char) : Token × List Char :=
  match rest with
  | character :: after => if character = next then (long, after) else (short, rest)
  | [] => (short, rest)

def scan (first : Char) (rest : List Char) : Token × List Char :=
  match first with
  | '(' => (.opening, rest)
  | ')' => (.closing, rest)
  | '+' => (.operator .add, rest)
  | '-' => (.operator .sub, rest)
  | '*' => (.operator .mul, rest)
  | '/' => (.operator .div, rest)
  | '<' => pair '=' (.operator .le) (.operator .lt) rest
  | '>' => pair '=' (.operator .ge) (.operator .gt) rest
  | '=' => pair '=' (.operator .eq) (.unknown '=') rest
  | '!' => pair '=' (.operator .ne) .bang rest
  | '&' => pair '&' (.operator .and) (.unknown '&') rest
  | '|' => pair '|' (.operator .or) (.unknown '|') rest
  | _ =>
      if Decimal.isDigit first then
        (.number (first :: rest.takeWhile Decimal.isDigit), rest.dropWhile Decimal.isDigit)
      else if startsWord first then
        (.word (first :: rest.takeWhile continuesWord), rest.dropWhile continuesWord)
      else (.unknown first, rest)

theorem pair_length (next : Char) (long short : Token) (rest : List Char) :
    (pair next long short rest).2.length ≤ rest.length := by
  unfold pair
  split
  · split <;> simp
  · simp

theorem scan_length (first : Char) (rest : List Char) :
    (scan first rest).2.length ≤ rest.length := by
  unfold scan
  split <;> first
    | exact pair_length _ _ _ _
    | exact Nat.le_refl _
    | skip
  split
  · exact (List.dropWhile_sublist _).length_le
  · split
    · exact (List.dropWhile_sublist _).length_le
    · exact Nat.le_refl _

end Token

structure Lexeme where
  token : Token
  source : List Char
deriving DecidableEq, Repr

def lexemes (text : List Char) : List Lexeme :=
  match _cut : Text.skipWhite text with
  | [] => []
  | first :: rest => ⟨(Token.scan first rest).1, first :: rest⟩ :: lexemes (Token.scan first rest).2
termination_by text.length
decreasing_by
  have scanned := Token.scan_length first rest
  have skipped : (Text.skipWhite text).length ≤ text.length :=
    (List.dropWhile_sublist _).length_le
  rw [_cut, List.length_cons] at skipped
  omega

end StateMachine
