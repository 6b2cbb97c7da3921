import StateMachine.Expr.Basic
import StateMachine.Expr.Token
import StateMachine.Machine.Basic
import StateMachine.Text.Quoted

/-!
Reading expressions. What has been read is kept as the operators that still wait for an operand, the
innermost one first; a new binary operator first completes those that bind at least as tightly, so
equal operators group to the left. Prefix operators are completed as soon as their operand is.
-/

set_option autoImplicit false

namespace StateMachine

inductive SyntaxFault where
  | trailingInput
  | expectedClosing
  | unexpectedCharacter (character : Char)
  | unexpectedEnd
  | outOfRange (digits : List Char)
  | unfinishedEscape
  | unfinishedText
  | inputAfterText
deriving DecidableEq, Repr

structure SyntaxError where
  text : String
  /-- Offset of the fault in bytes. -/
  position : Nat
  fault : SyntaxFault
deriving DecidableEq, Repr

def SyntaxFault.message : SyntaxFault → String
  | .trailingInput => "unexpected trailing input"
  | .expectedClosing => "expected ')'"
  | .unexpectedCharacter character => "unexpected character '" ++ character.toString ++ "'"
  | .unexpectedEnd => "unexpected end of expression"
  | .outOfRange digits => "integer literal out of range: '" ++ String.ofList digits ++ "'"
  | .unfinishedEscape => "unterminated escape sequence"
  | .unfinishedText => "unterminated string"
  | .inputAfterText => "unexpected input after string"

def SyntaxError.message (error : SyntaxError) : String :=
  "syntax error in '" ++ error.text ++ "' at offset " ++ toString error.position ++ ": " ++
    error.fault.message

structure Refusal where
  fault : SyntaxFault
  source : List Char
deriving DecidableEq, Repr

def Refusal.toError (text : List Char) (refusal : Refusal) : SyntaxError :=
  ⟨String.ofList text, Text.byteLength text - Text.byteLength refusal.source, refusal.fault⟩

namespace Expr

/-- An operator that waits for the operand on its right, or a group that waits for its end. -/
inductive Pending where
  | binary (left : Expr) (operator : Operator)
  | negate
  | not
  | group
deriving DecidableEq, Repr

/-- Applies the prefix operators that wait directly for the operand. -/
def completePrefixes : List Pending → Expr → List Pending × Expr
  | .negate :: stack, operand => completePrefixes stack (.negate operand)
  | .not :: stack, operand => completePrefixes stack (.not operand)
  | stack, operand => (stack, operand)

/-- Applies the waiting binary operators of at least this level, back to the last open group. -/
def completeBinary (level : Nat) : List Pending → Expr → List Pending × Expr
  | .binary left operator :: stack, right =>
      if level ≤ operator.level then completeBinary level stack (.binary operator left right)
      else (.binary left operator :: stack, right)
  | stack, right => (stack, right)

def inGroup (stack : List Pending) : Bool := stack.any (· == .group)

def ofWord (name : List Char) : Expr :=
  if name = ['t', 'r', 'u', 'e'] then .literal (.bool true)
  else if name = ['f', 'a', 'l', 's', 'e'] then .literal (.bool false)
  else .reference (String.ofList name)

mutual

def readOperand (stack : List Pending) : List Lexeme → Except Refusal Expr
  | [] => .error ⟨.unexpectedEnd, []⟩
  | ⟨token, source⟩ :: rest =>
      match token with
      | .number digits =>
          match Word.ofInt? (Decimal.number digits) with
          | some word =>
              let (waiting, operand) := completePrefixes stack (.literal (.int word))
              readOperator waiting operand rest
          | none => .error ⟨.outOfRange digits, source⟩
      | .word name =>
          let (waiting, operand) := completePrefixes stack (ofWord name)
          readOperator waiting operand rest
      | .opening => readOperand (.group :: stack) rest
      | .operator .sub => readOperand (.negate :: stack) rest
      | .bang => readOperand (.not :: stack) rest
      | _ =>
          match source with
          | character :: _ => .error ⟨.unexpectedCharacter character, source⟩
          | [] => .error ⟨.unexpectedEnd, []⟩

def readOperator (stack : List Pending) (operand : Expr) : List Lexeme → Except Refusal Expr
  | [] =>
      match completeBinary 0 stack operand with
      | ([], whole) => .ok whole
      | (_ :: _, _) => .error ⟨.expectedClosing, []⟩
  | ⟨token, source⟩ :: rest =>
      match token with
      | .operator operator =>
          let (waiting, left) := completeBinary operator.level stack operand
          readOperand (.binary left operator :: waiting) rest
      | .closing =>
          match completeBinary 0 stack operand with
          | (.group :: outer, inner) =>
              let (waiting, grouped) := completePrefixes outer (.group inner)
              readOperator waiting grouped rest
          | _ => .error ⟨.trailingInput, source⟩
      | _ =>
          .error ⟨if inGroup stack then .expectedClosing else .trailingInput, source⟩

end

def parse (text : String) : Except SyntaxError Expr :=
  match readOperand [] (lexemes text.toList) with
  | .ok expr => .ok expr
  | .error refusal => .error (refusal.toError text.toList)

end Expr

namespace Printed

def ofUnfinished : Text.Quoted.Unfinished → SyntaxFault
  | .escape => .unfinishedEscape
  | .text => .unfinishedText

/-- Reads one part of a printed line: a text in quotes when the first character is a quote, an
expression otherwise. Offsets of faults in a quoted text count from the quote. -/
def parse (text : String) : Except SyntaxError Printed :=
  match Text.trim text.toList with
  | '"' :: rest =>
      let fail (fault : SyntaxFault) (source : List Char) : Except SyntaxError Printed :=
        .error (Refusal.toError ('"' :: rest) ⟨fault, source⟩)
      match Text.Quoted.decode rest with
      | .error unfinished => fail (ofUnfinished unfinished) []
      | .ok (content, after) =>
          match Text.skipWhite after with
          | [] => .ok (.text (String.ofList content))
          | source => fail .inputAfterText source
  | _ => (Expr.parse text).map .value

end Printed

end StateMachine
