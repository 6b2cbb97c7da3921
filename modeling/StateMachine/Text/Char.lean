import StateMachine.Text.Alphabetic
import StateMachine.Text.Numeric
import StateMachine.Text.Uppercase

/-!
Classes of characters. Each is the Unicode property of its name, decided without the tables for
ASCII.
-/

set_option autoImplicit false

namespace StateMachine.Text

def inRanges (ranges : List (Nat × Nat)) (code : Nat) : Bool :=
  ranges.any fun (first, last) => first ≤ code && code ≤ last

/-- The property White_Space. -/
def isWhite (character : Char) : Bool :=
  let code := character.toNat
  (9 ≤ code && code ≤ 13) || code == 0x20 || code == 0x85 || code == 0xA0 || code == 0x1680 ||
    (0x2000 ≤ code && code ≤ 0x200A) || code == 0x2028 || code == 0x2029 || code == 0x202F ||
    code == 0x205F || code == 0x3000

/-- The property Alphabetic. -/
def isLetter (character : Char) : Bool :=
  if character.toNat < 0x80 then character.isAlpha
  else inRanges alphabeticRanges character.toNat

/-- A letter, or a number of any script. -/
def isAlphanumeric (character : Char) : Bool :=
  if character.toNat < 0x80 then character.isAlphanum
  else isLetter character || inRanges numericRanges character.toNat

/-- The property Uppercase. -/
def isCapital (character : Char) : Bool :=
  if character.toNat < 0x80 then character.isUpper
  else uppercaseRuns.any fun (first, last, stride) =>
    first ≤ character.toNat && character.toNat ≤ last && (character.toNat - first) % stride == 0

end StateMachine.Text
