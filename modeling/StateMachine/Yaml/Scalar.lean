import StateMachine.Text.Radix

/-!
Scalars of YAML text that may stand on one line: unquoted ones, and ones in single or double quotes.
Such a scalar may run over several lines, too; a single line break inside it is read as a blank, and
of several breaks all but the first are kept.
-/

set_option autoImplicit false

namespace StateMachine.Yaml

structure Mark where
  line : Nat
  /-- Characters of the line before the place. -/
  column : Nat
  /-- The same in bytes. -/
  offset : Nat
deriving DecidableEq, Repr

namespace Mark

def start : Mark := ⟨0, 0, 0⟩

def after (mark : Mark) (character : Char) : Mark :=
  { mark with column := mark.column + 1, offset := mark.offset + character.utf8Size }

def nextLine (mark : Mark) : Mark := ⟨mark.line + 1, 0, 0⟩

def skip (mark : Mark) (count : Nat) : Mark :=
  { mark with column := mark.column + count, offset := mark.offset + count }

end Mark

def isBlank (character : Char) : Bool := character == ' ' || character == '\t'

/-- Line ends. The line feed also stands for the ends that are read as one. -/
def isBreak (character : Char) : Bool :=
  character == '\n' || character == '\u2028' || character == '\u2029'

def atLineEnd : List Char → Bool
  | [] => true
  | character :: _ => isBreak character

def atGap : List Char → Bool
  | [] => true
  | character :: _ => isBlank character || isBreak character

/-- Holds at the start of a line with a mark for the start or the end of a document. -/
def atDocumentMark (mark : Mark) (text : List Char) : Bool :=
  mark.column == 0 &&
    match text with
    | '-' :: '-' :: '-' :: rest | '.' :: '.' :: '.' :: rest => atGap rest
    | _ => false

/-- Brackets, braces and commas, which end an unquoted scalar inside a flow collection. -/
def isFlowMark (character : Char) : Bool := [',', '[', ']', '\x7b', '\x7d'].contains character

/-- Blanks and line ends between two visible characters of a scalar. Blanks around line ends do not
count. -/
structure Gap where
  blanks : List Char
  broken : Bool
  /-- The first line end, unless it was escaped. -/
  first : Option Char
  more : List Char

namespace Gap

def empty : Gap := ⟨[], false, none, []⟩

def escaped : Gap := ⟨[], true, none, []⟩

def addBlank (gap : Gap) (character : Char) : Gap :=
  if gap.broken then gap else { gap with blanks := gap.blanks ++ [character] }

def addBreak (gap : Gap) (character : Char) : Gap :=
  if gap.broken then { gap with more := gap.more ++ [character] }
  else ⟨[], true, some character, []⟩

def content (gap : Gap) : List Char :=
  if gap.broken then
    match gap.first with
    | some '\n' => if gap.more.isEmpty then [' '] else gap.more
    | some first => first :: gap.more
    | none => gap.more
  else gap.blanks

end Gap

structure Scanned where
  content : String
  rest : List Char
  mark : Mark
  /-- The text goes on after a line end that belongs to the scalar. -/
  broken : Bool

/-- Reads an unquoted scalar. Lines after the first must start at or behind column `indent`, unless
the scalar stands in a flow collection. `taken` holds the characters so far, the last one first. -/
def scanPlain? (inFlow : Bool) (indent : Nat) (taken : List Char) (gap : Gap) (mark : Mark) :
    List Char → Option Scanned
  | [] => some ⟨String.ofList taken.reverse, [], mark, gap.broken⟩
  | character :: rest =>
      let ended : Option Scanned :=
        some ⟨String.ofList taken.reverse, character :: rest, mark, gap.broken⟩
      let afterGap := gap.broken || !gap.blanks.isEmpty
      if isBlank character then
        if gap.broken && mark.column < indent && character == '\t' then none
        else scanPlain? inFlow indent taken (gap.addBlank character) (mark.after character) rest
      else if isBreak character then
        scanPlain? inFlow indent taken (gap.addBreak character) mark.nextLine rest
      else if afterGap && !inFlow && mark.column < indent then ended
      else if afterGap && (atDocumentMark mark (character :: rest) || character == '#') then ended
      else if inFlow && character == ':' &&
          (rest.head?.any fun next => isFlowMark next || next == '?') then none
      else if (character == ':' && atGap rest) || (inFlow && isFlowMark character) then ended
      else
        scanPlain? inFlow indent (character :: (gap.content.reverse ++ taken)) Gap.empty
          (mark.after character) rest

/-- Reads a scalar in single quotes after the opening quote; a quote inside is written twice. -/
def scanSingle? (taken : List Char) (gap : Gap) (mark : Mark) : List Char → Option Scanned
  | [] => none
  | '\'' :: '\'' :: rest =>
      scanSingle? ('\'' :: (gap.content.reverse ++ taken)) Gap.empty (mark.skip 2) rest
  | '\'' :: rest =>
      some ⟨String.ofList (gap.content.reverse ++ taken).reverse, rest, mark.skip 1, false⟩
  | character :: rest =>
      if isBlank character then scanSingle? taken (gap.addBlank character) (mark.after character) rest
      else if isBreak character then scanSingle? taken (gap.addBreak character) mark.nextLine rest
      else if atDocumentMark mark (character :: rest) then none
      else
        scanSingle? (character :: (gap.content.reverse ++ taken)) Gap.empty (mark.after character)
          rest

def escapedChar? : Char → Option Char
  | '0' => some '\x00'
  | 'a' => some '\x07'
  | 'b' => some '\x08'
  | 't' | '\t' => some '\t'
  | 'n' => some '\n'
  | 'v' => some '\x0b'
  | 'f' => some '\x0c'
  | 'r' => some '\r'
  | 'e' => some '\x1b'
  | ' ' => some ' '
  | '"' => some '"'
  | '/' => some '/'
  | '\\' => some '\\'
  | 'N' => some '\u0085'
  | '_' => some '\u00a0'
  | 'L' => some '\u2028'
  | 'P' => some '\u2029'
  | _ => none

/-- The number of hexadecimal digits that follow a letter after a backslash. -/
def escapeWidth? : Char → Option Nat
  | 'x' => some 2
  | 'u' => some 4
  | 'U' => some 8
  | _ => none

def charOfCode? (code : Nat) : Option Char :=
  if code.isValidChar then some (Char.ofNat code) else none

def scanDouble? (taken : List Char) (gap : Gap) (mark : Mark) : List Char → Option Scanned
  | [] => none
  | '"' :: rest =>
      some ⟨String.ofList (gap.content.reverse ++ taken).reverse, rest, mark.skip 1, false⟩
  | '\\' :: letter :: rest =>
      let before := gap.content.reverse ++ taken
      if isBreak letter then scanDouble? before Gap.escaped mark.nextLine rest
      else
        match escapeWidth? letter with
        | some width =>
            if (rest.take width).length = width then
              match (Radix.number? 16 (rest.take width)).bind charOfCode? with
              | some character =>
                  scanDouble? (character :: before) Gap.empty (mark.skip (2 + width))
                    (rest.drop width)
              | none => none
            else none
        | none =>
            match escapedChar? letter with
            | some character => scanDouble? (character :: before) Gap.empty (mark.skip 2) rest
            | none => none
  | character :: rest =>
      if isBlank character then scanDouble? taken (gap.addBlank character) (mark.after character) rest
      else if isBreak character then scanDouble? taken (gap.addBreak character) mark.nextLine rest
      else if character == '\\' || atDocumentMark mark (character :: rest) then none
      else
        scanDouble? (character :: (gap.content.reverse ++ taken)) Gap.empty (mark.after character)
          rest
termination_by text => text.length
decreasing_by all_goals simp_wf <;> omega

end StateMachine.Yaml
