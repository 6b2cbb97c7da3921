import StateMachine.Text.Char

/-!
Cutting text at white space and at line ends, and measuring it in bytes.
-/

set_option autoImplicit false

namespace StateMachine.Text

/-- Bytes that a text takes in UTF-8. -/
def byteLength : List Char → Nat
  | [] => 0
  | character :: rest => character.utf8Size + byteLength rest

def skipWhite (text : List Char) : List Char := text.dropWhile isWhite

def trim (text : List Char) : List Char :=
  (skipWhite (skipWhite text).reverse).reverse

/-- Cuts a list at every element that satisfies the test; the cutting elements are dropped. There
is always one piece more than there are cuts. -/
def splitAt {α : Type} (cut : α → Bool) : List α → List (List α)
  | [] => [[]]
  | element :: rest =>
      if cut element then [] :: splitAt cut rest
      else
        match splitAt cut rest with
        | [] => [[element]]
        | piece :: pieces => (element :: piece) :: pieces

def words (text : List Char) : List (List Char) :=
  (splitAt isWhite text).filter fun word => !word.isEmpty

/-- The lines of an input: what stands before each line feed, and what follows the last one unless
it is empty. -/
def lines {α : Type} [BEq α] (feed : α) (input : List α) : List (List α) :=
  let pieces := splitAt (· == feed) input
  match pieces.getLast? with
  | some [] => pieces.dropLast
  | _ => pieces

/-- The lines of a text, as they are shown: cut at every line feed. -/
def rows (text : String) : List String := (splitAt (· == '\n') text.toList).map String.ofList

end StateMachine.Text
