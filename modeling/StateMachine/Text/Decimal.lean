/-!
Decimal numerals: their digits, the number they stand for, and whether a numeral with a fraction or
an exponent lies within the range of double precision.
-/

set_option autoImplicit false

namespace StateMachine.Decimal

/-- An ASCII digit; digits of other scripts do not count. -/
def isDigit (character : Char) : Bool := character.isDigit

def number (digits : List Char) : Nat := Nat.ofDigitChars 10 digits 0

def digits (number : Nat) : List Char := Nat.toDigits 10 number

theorem number_digits (count : Nat) : number (digits count) = count :=
  Nat.ofDigitChars_ten_toDigits

def spanDigits (text : List Char) : List Char × List Char :=
  (text.takeWhile isDigit, text.dropWhile isDigit)

/-- From here on a number rounds to infinity in double precision. -/
def overflowBound : Nat := Nat.pow 2 1024 - Nat.pow 2 970

/-- Holds when `mantissa * 10 ^ exponent` rounds to a finite double. The comparison is exact; the
two outer tests only keep the powers small. -/
def isFinite (mantissa : Nat) (exponent : Int) : Bool :=
  if mantissa = 0 then true
  else
    let length : Int := (digits mantissa).length
    if length + exponent ≤ 308 then true
    else if length + exponent > 310 then false
    else if 0 ≤ exponent then mantissa * Nat.pow 10 exponent.toNat < overflowBound
    else mantissa < overflowBound * Nat.pow 10 (-exponent).toNat

/-- The nearest number with 53 significant bits, or of two equally near ones the even one. -/
def roundBits (number : Nat) : Nat :=
  let unit := Nat.pow 2 (Nat.log2 number - 52)
  let quotient := number / unit
  let remainder := number % unit
  let isUp := unit < 2 * remainder || (unit == 2 * remainder && quotient % 2 == 1)
  (if isUp then quotient + 1 else quotient) * unit

/-- Holds when a significand times a power of ten is finite in double precision, where both factors
are rounded before their product. Negative exponents divide, so nothing can become too great. -/
def isFiniteProduct (significand : Nat) (exponent : Int) : Bool :=
  significand == 0 || exponent < 0 ||
    (exponent ≤ 308 &&
      roundBits significand * roundBits (Nat.pow 10 exponent.toNat) < overflowBound)

/-- Appends digits to a significand as long as it fits into 64 bits; gives the number of digits that
are left, too. -/
def extendSignificand (significand : Nat) : List Char → Nat × Nat
  | [] => (significand, 0)
  | digit :: rest =>
      let extended := 10 * significand + (digit.toNat - '0'.toNat)
      if extended < 18446744073709551616 then extendSignificand extended rest
      else (significand, rest.length + 1)

/-- The exponent that follows the letter `e`: an optional sign and at least one digit. -/
def readExponent? (text : List Char) : Option (Int × List Char) :=
  let unsigned (sign : Int) (rest : List Char) : Option (Int × List Char) :=
    match spanDigits rest with
    | ([], _) => none
    | (found, after) => some (sign * number found, after)
  match text with
  | '+' :: rest => unsigned 1 rest
  | '-' :: rest => unsigned (-1) rest
  | rest => unsigned 1 rest

end StateMachine.Decimal
