import StateMachine.Datum.Basic
import StateMachine.Text.Decimal
import StateMachine.Text.Radix

/-!
What the text of a scalar stands for where the place does not say it: nothing, a truth value, a number,
or else the text itself.
-/

set_option autoImplicit false

namespace StateMachine.Yaml.Plain

def isNull (content : String) : Bool := ["~", "null", "Null", "NULL"].contains content

def flag? (content : String) : Option Bool :=
  if ["true", "True", "TRUE"].contains content then some true
  else if ["false", "False", "FALSE"].contains content then some false
  else none

/-- A decimal without superfluous zeros, or a number in base 16, 8 or 2 behind its mark. -/
def magnitude? : List Char → Option Nat
  | '0' :: 'x' :: rest => Radix.number? 16 rest
  | '0' :: 'o' :: rest => Radix.number? 8 rest
  | '0' :: 'b' :: rest => Radix.number? 2 rest
  | ['0'] => some 0
  | '0' :: _ => none
  | characters => Radix.number? 10 characters

def signed? : List Char → Option Int
  | '+' :: rest => (magnitude? rest).map Int.ofNat
  | '-' :: rest => (magnitude? rest).map fun magnitude => -(magnitude : Int)
  | rest => (magnitude? rest).map Int.ofNat

def isInteger (number : Int) : Bool :=
  -9223372036854775808 ≤ number && number < 18446744073709551616

def isWideInteger (number : Int) : Bool :=
  -170141183460469231731687303715884105728 ≤ number &&
    number < 340282366920938463463374607431768211456

def integer? (content : String) : Option Int := (signed? content.toList).filter isInteger

/-- A decimal with a finite value in double precision: digits, a point among or beside them, and an
exponent. -/
def isDecimal (characters : List Char) : Bool :=
  let (whole, afterWhole) := Decimal.spanDigits characters
  let (fraction, rest) :=
    match afterWhole with
    | '.' :: after => Decimal.spanDigits after
    | _ => ([], afterWhole)
  let exponent? : Option Int :=
    match rest with
    | [] => some 0
    | letter :: after =>
        if letter = 'e' ∨ letter = 'E' then
          match Decimal.readExponent? after with
          | some (exponent, []) => some exponent
          | _ => none
        else none
  match exponent? with
  | none => false
  | some exponent =>
      !(whole ++ fraction).isEmpty &&
        Decimal.isFinite (Decimal.number (whole ++ fraction)) (exponent - (fraction.length : Int))

def unsigned : List Char → List Char
  | '+' :: rest | '-' :: rest => rest
  | characters => characters

/-- More than one digit, the first of them a zero. -/
def isPadded (content : String) : Bool :=
  match unsigned content.toList with
  | '0' :: second :: rest => (second :: rest).all Decimal.isDigit
  | _ => false

/-- A finite decimal, an infinity, or no number at all. -/
def isReal (content : String) : Bool :=
  [".nan", ".NaN", ".NAN"].contains content ||
    [".inf", ".Inf", ".INF"].contains (String.ofList (unsigned content.toList)) ||
    isDecimal (unsigned content.toList)

def settleReal (content : String) : Datum :=
  if !isPadded content && isReal content then .real else .text content

/-- Settles an unquoted scalar by its form. An integer beyond 64 bits that fits into 128 cannot be
read at all; a longer one is no integer any more. -/
def settle? (content : String) : Option Datum :=
  if content.isEmpty || isNull content then some .null
  else
    match flag? content, signed? content.toList with
    | some holds, _ => some (.flag holds)
    | none, some number =>
        if isInteger number then some (.integer number)
        else if isWideInteger number then none
        else some (settleReal content)
    | none, none => some (settleReal content)

end StateMachine.Yaml.Plain
