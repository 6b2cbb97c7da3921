/-!
Numbers written in a base up to 36.
-/

set_option autoImplicit false

namespace StateMachine.Radix

/-- The value of a digit below `base`; letters of either case count from ten. -/
def digit? (base : Nat) (character : Char) : Option Nat :=
  let value :=
    if character.isDigit then some (character.toNat - '0'.toNat)
    else if character.isLower then some (character.toNat - 'a'.toNat + 10)
    else if character.isUpper then some (character.toNat - 'A'.toNat + 10)
    else none
  value.filter (· < base)

def number? (base : Nat) (digits : List Char) : Option Nat :=
  if digits.isEmpty then none
  else digits.foldlM (fun total next => (digit? base next).map (base * total + ·)) 0

end StateMachine.Radix
