import StateMachine.Yaml.Plain
import StateMachine.Yaml.Token

/-!
The written forms of a text as a YAML scalar. A text of several lines is a block of its lines; other
texts are bare unless they would be read as something else, and quoted then. Characters that are not
printable force double quotes, which alone have escapes.
-/

set_option autoImplicit false

namespace StateMachine.Yaml

inductive Form where
  | bare
  | singleQuoted
  | doubleQuoted
  | block
deriving DecidableEq, Repr

/-! Which forms a text may have -/

/-- Holds when an unquoted scalar of this form is settled as a text. -/
def readsAsText (content : String) : Bool :=
  match Plain.settle? content with
  | some (.text _) => !Plain.isPadded content
  | _ => false

def isPrintable (character : Char) : Bool :=
  let code := character.toNat
  code == 0x0A || (0x20 ≤ code && code ≤ 0x7E) ||
    (0xA0 ≤ code && code ≤ 0xFFFD && code != 0xFEFF) || 0x10000 ≤ code

def hasAdjacent (first second : Char → Bool) : List Char → Bool
  | left :: right :: rest => (first left && second right) || hasAdjacent first second (right :: rest)
  | _ => false

/-- Holds when a colon before a gap, or a number sign behind one, would end an unquoted scalar. -/
def hasInnerMark : List Char → Bool
  | [] => false
  | ' ' :: '#' :: _ => true
  | ':' :: rest => atGap rest || hasInnerMark rest
  | _ :: rest => hasInnerMark rest

/-- Holds when an unquoted scalar may begin like this. Three dashes or points at the front could be
taken for a mark of a document. -/
def startsBare (text : List Char) : Bool :=
  match text with
  | [] => false
  | '-' :: '-' :: '-' :: _ | '.' :: '.' :: '.' :: _ => false
  | first :: rest =>
      first != ' ' &&
        if first == '-' || first == '?' || first == ':' then !atGap rest
        else !Scanner.isMark first

def mayBeBare (text : List Char) : Bool :=
  text.all isPrintable && !text.any isBreak && startsBare text && !hasInnerMark text &&
    text.getLast? != some ' '

/-- Blanks beside a line end would be lost inside single quotes. -/
def mayBeSingleQuoted (text : List Char) : Bool :=
  text.all isPrintable && !hasAdjacent (· == ' ') isBreak text && !hasAdjacent isBreak (· == ' ') text

/-- Blanks at the end of a line are not trusted to a block. -/
def mayBeBlock (text : List Char) : Bool :=
  text.all isPrintable && !hasAdjacent (· == ' ') isBreak text && text.getLast? != some ' '

def Form.of (content : String) : Form :=
  let text := content.toList
  if text.contains '\n' then if mayBeBlock text then .block else .doubleQuoted
  else if readsAsText content && mayBeBare text then .bare
  else if mayBeSingleQuoted text then .singleQuoted
  else .doubleQuoted

/-! What a text looks like in a form -/

/-- The hexadecimal digits of a code in capitals, filled up with zeros. -/
def hexCode (width code : Nat) : List Char :=
  let digits := (Nat.toDigits 16 code).map Char.toUpper
  List.replicate (width - digits.length) '0' ++ digits

def escapeLetter? : Char → Option Char
  | '\x00' => some '0'
  | '\x07' => some 'a'
  | '\x08' => some 'b'
  | '\t' => some 't'
  | '\n' => some 'n'
  | '\x0b' => some 'v'
  | '\x0c' => some 'f'
  | '\r' => some 'r'
  | '\x1b' => some 'e'
  | '"' => some '"'
  | '\\' => some '\\'
  | '\u0085' => some 'N'
  | '\u00a0' => some '_'
  | '\u2028' => some 'L'
  | '\u2029' => some 'P'
  | _ => none

def escape (character : Char) : List Char :=
  if isPrintable character && !isBreak character && character != '"' && character != '\\' then
    [character]
  else
    match escapeLetter? character with
    | some letter => ['\\', letter]
    | none =>
        if character.toNat ≤ 0xFF then '\\' :: 'x' :: hexCode 2 character.toNat
        else if character.toNat ≤ 0xFFFF then '\\' :: 'u' :: hexCode 4 character.toNat
        else '\\' :: 'U' :: hexCode 8 character.toNat

/-- The characters of a text where each line that is not empty is indented by `indent`; `begun` tells
that the text starts a line. -/
def indented (indent : List Char) (begun : Bool) : List Char → List Char
  | [] => []
  | character :: rest =>
      if isBreak character then character :: indented indent true rest
      else if begun then indent ++ character :: indented indent false rest
      else character :: indented indent false rest

/-- The text between single quotes; a closing quote at the start of a line is indented, too. -/
def singleQuoted (indent : List Char) (text : List Char) : List Char :=
  let doubled := text.flatMap fun character =>
    if character == '\'' then ['\'', '\''] else [character]
  '\'' :: indented indent false (doubled ++ ['\''])

def doubleQuoted (text : List Char) : List Char := '"' :: text.flatMap escape ++ ['"']

/-- The marks that open a block: the indentation is given where the first line does not show it, and
the line ends behind the last line are kept as they are. -/
def blockMark (text : List Char) : List Char :=
  let hint := if text.head?.any fun first => first == ' ' || isBreak first then ['2'] else []
  let chomp :=
    match text.reverse with
    | [] => ['-']
    | [last] => if isBreak last then ['+'] else ['-']
    | last :: previous :: _ => if !isBreak last then ['-'] else if isBreak previous then ['+'] else []
  '|' :: hint ++ chomp

def scalarText (indent : List Char) (content : String) : List Char :=
  let text := content.toList
  match Form.of content with
  | .bare => text
  | .singleQuoted => singleQuoted indent text
  | .doubleQuoted => doubleQuoted text
  | .block => blockMark text ++ '\n' :: indented indent true text

def nameText (content : String) : List Char :=
  if content.any isBreak then doubleQuoted content.toList else scalarText [] content

end StateMachine.Yaml
