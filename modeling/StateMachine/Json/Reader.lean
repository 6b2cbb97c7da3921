import StateMachine.Datum.Basic
import StateMachine.Text.Decimal
import StateMachine.Text.Radix

/-!
Reading JSON text, strictly: no comments, no trailing commas, no byte order mark. Parts that are
well formed but have no value (a lone surrogate, a number beyond double precision, a nesting that
is too deep) become unreadable data instead of errors, since they may stand where nothing is read.
-/

set_option autoImplicit false

namespace StateMachine.Json

def isBlank (character : Char) : Bool :=
  character == ' ' || character == '\t' || character == '\n' || character == '\r'

def skipBlanks (text : List Char) : List Char := text.dropWhile isBlank

def isHighSurrogate (unit : Nat) : Bool := 0xD800 ≤ unit && unit ≤ 0xDBFF

def isLowSurrogate (unit : Nat) : Bool := 0xDC00 ≤ unit && unit ≤ 0xDFFF

def pairedChar (high low : Nat) : Char :=
  Char.ofNat (0x10000 + (high - 0xD800) * 0x400 + (low - 0xDC00))

def escapedChar? : Char → Option Char
  | '"' => some '"'
  | '\\' => some '\\'
  | '/' => some '/'
  | 'b' => some '\x08'
  | 'f' => some '\x0c'
  | 'n' => some '\n'
  | 'r' => some '\r'
  | 't' => some '\t'
  | _ => none

abbrev Content := Option (List Char)

def Content.push (character : Char) : Content × List Char → Content × List Char
  | (content, rest) => (content.map (character :: ·), rest)

def Content.spoil : Content × List Char → Content × List Char
  | (_, rest) => (none, rest)

def readString? : List Char → Option (Content × List Char)
  | [] => none
  | '"' :: rest => some (some [], rest)
  | '\\' :: 'u' :: a :: b :: c :: d :: rest =>
      match Radix.number? 16 [a, b, c, d] with
      | none => none
      | some unit =>
          if isHighSurrogate unit then
            match rest with
            | '\\' :: 'u' :: e :: f :: g :: h :: after =>
                match Radix.number? 16 [e, f, g, h] with
                | none => none
                | some low =>
                    if isLowSurrogate low then
                      (readString? after).map (Content.push (pairedChar unit low))
                    else (readString? after).map Content.spoil
            | rest => (readString? rest).map Content.spoil
          else if isLowSurrogate unit then (readString? rest).map Content.spoil
          else (readString? rest).map (Content.push (Char.ofNat unit))
  | '\\' :: letter :: rest =>
      match escapedChar? letter with
      | none => none
      | some character => (readString? rest).map (Content.push character)
  | character :: rest =>
      if character.toNat < 0x20 ∨ character = '\\' then none
      else (readString? rest).map (Content.push character)
termination_by text => text.length
decreasing_by all_goals simp_wf <;> omega

/-- An integer that is written without fraction or exponent and fits into 64 bits. Negative zero is
not one. -/
def integer? (negative : Bool) (digits : List Char) : Option Int :=
  let magnitude := Decimal.number digits
  if negative then
    if 0 < magnitude ∧ magnitude ≤ 9223372036854775808 then some (-(magnitude : Int)) else none
  else if magnitude < 18446744073709551616 then some magnitude else none

/-- Holds when a number is finite in double precision. Of its digits only the leading ones that fit
into 64 bits count; the others of the integer part stand for zeros. -/
def isFinite (digits decimals : List Char) (exponent : Int) : Bool :=
  let (whole, dropped) := Decimal.extendSignificand 0 digits
  let (significand, cut) := Decimal.extendSignificand whole decimals
  Decimal.isFiniteProduct significand
    (exponent + (dropped : Int) - ((decimals.length - cut : Nat) : Int))

def finishNumber? (negative : Bool) (digits rest : List Char) : Option (Datum × List Char) := do
  let (fraction, afterFraction) ←
    match rest with
    | '.' :: after =>
        match Decimal.spanDigits after with
        | ([], _) => none
        | (found, remaining) => some (some found, remaining)
    | _ => some (none, rest)
  let (exponent, afterExponent) ←
    match afterFraction with
    | letter :: after =>
        if letter = 'e' ∨ letter = 'E' then
          (Decimal.readExponent? after).map fun (found, remaining) => (some found, remaining)
        else some (none, afterFraction)
    | [] => some (none, [])
  let decimals := fraction.getD []
  let value : Datum :=
    match fraction, exponent, integer? negative digits with
    | none, none, some number => .integer number
    | _, _, _ =>
        if isFinite digits decimals (exponent.getD 0) then .real else .unreadable
  some (value, afterExponent)

def readNumber? (text : List Char) : Option (Datum × List Char) :=
  let unsigned (negative : Bool) (rest : List Char) : Option (Datum × List Char) :=
    match Decimal.spanDigits rest with
    | ([], _) => none
    | (digits, after) =>
        if digits.head? = some '0' ∧ 1 < digits.length then none
        else finishNumber? negative digits after
  match text with
  | '-' :: rest => unsigned true rest
  | rest => unsigned false rest

def readWord? (word : List Char) (text : List Char) : Option (List Char) :=
  if word.isPrefixOf text then some (text.drop word.length) else none

def atDepth (room : Nat) (value : Datum) : Datum := if room = 0 then .unreadable else value

def Content.toDatum : Content → Datum
  | some characters => .text (String.ofList characters)
  | none => .unreadable

/-- Gathers the fields of an object; a name without text spoils the whole object. -/
def gatherFields (fields : List (Content × Datum)) : Datum :=
  match fields.mapM fun (name, value) => name.map fun characters => (String.ofList characters, value) with
  | some named => .record named
  | none => .unreadable

mutual

/-- Reads one value. `room` counts the containers that may still be opened inside one another;
`fuel` bounds the number of steps and is never spent when it is at least the length of the text. -/
def readValue? : Nat → Nat → List Char → Option (Datum × List Char)
  | 0, _, _ => none
  | fuel + 1, room, text =>
      match skipBlanks text with
      | '"' :: rest => (readString? rest).map fun (content, after) => (content.toDatum, after)
      | '[' :: rest =>
          match skipBlanks rest with
          | ']' :: after => some (atDepth room (.list []), after)
          | _ =>
              (readItems? fuel (room - 1) rest).map fun (items, after) =>
                (atDepth room (.list items), after)
      | '\x7b' :: rest =>
          match skipBlanks rest with
          | '\x7d' :: after => some (atDepth room (.record []), after)
          | _ =>
              (readFields? fuel (room - 1) rest).map fun (fields, after) =>
                (atDepth room (gatherFields fields), after)
      | 't' :: rest => (readWord? ['r', 'u', 'e'] rest).map (Datum.flag true, ·)
      | 'f' :: rest => (readWord? ['a', 'l', 's', 'e'] rest).map (Datum.flag false, ·)
      | 'n' :: rest => (readWord? ['u', 'l', 'l'] rest).map (Datum.null, ·)
      | rest => readNumber? rest

def readItems? : Nat → Nat → List Char → Option (List Datum × List Char)
  | 0, _, _ => none
  | fuel + 1, room, text =>
      match readValue? fuel room text with
      | none => none
      | some (item, rest) =>
          match skipBlanks rest with
          | ',' :: after =>
              (readItems? fuel room after).map fun (items, remaining) => (item :: items, remaining)
          | ']' :: after => some ([item], after)
          | _ => none

def readFields? : Nat → Nat → List Char → Option (List (Content × Datum) × List Char)
  | 0, _, _ => none
  | fuel + 1, room, text =>
      match skipBlanks text with
      | '"' :: afterQuote =>
          match readString? afterQuote with
          | none => none
          | some (name, afterName) =>
              match skipBlanks afterName with
              | ':' :: afterColon =>
                  match readValue? fuel room afterColon with
                  | none => none
                  | some (value, rest) =>
                      match skipBlanks rest with
                      | ',' :: after =>
                          (readFields? fuel room after).map fun (fields, remaining) =>
                            ((name, value) :: fields, remaining)
                      | '\x7d' :: after => some ([(name, value)], after)
                      | _ => none
              | _ => none
      | _ => none

end

def depthLimit : Nat := 127

def parse? (text : String) : Option Datum :=
  let characters := text.toList
  match readValue? (characters.length + 1) depthLimit characters with
  | some (value, rest) => if (skipBlanks rest).isEmpty then some value else none
  | none => none

end StateMachine.Json
