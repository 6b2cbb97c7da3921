import StateMachine.Yaml.Block
import StateMachine.Yaml.Property

/-!
Tokens of YAML text. Indentation shows in the tokens as the begin and the end of block collections. A
mapping key is known as such only when its colon comes, on the same line, so the scanner remembers
where a key may have begun.
-/

set_option autoImplicit false

namespace StateMachine.Yaml

inductive Style where
  | plain
  | quoted
  /-- A block scalar whose lines are kept. -/
  | literal
  | folded
deriving DecidableEq, Repr

inductive Token where
  | directive (directive : Directive)
  | documentStart
  | documentEnd
  | blockList
  | blockRecord
  | blockEnd
  | dash
  | flowList
  | flowListEnd
  | flowRecord
  | flowRecordEnd
  | comma
  | key
  | value
  | anchor (name : String)
  /-- A reference to the node with an anchor. -/
  | alias (name : String)
  | tag (handle : String) (suffix : Tag)
  | scalar (content : String) (style : Style)
deriving DecidableEq, Repr

/-- A place where a key may have begun. -/
structure Candidate where
  /-- Number of tokens before the key. -/
  position : Nat
  mark : Mark
  /-- Nothing else can stand there. -/
  required : Bool

structure Scanner where
  rest : List Char
  mark : Mark
  /-- The tokens so far, the last one first, and their number. -/
  tokens : List Token
  count : Nat
  /-- Columns of the open block collections, the innermost first. -/
  indents : List Nat
  keyAllowed : Bool
  /-- The candidate of each open flow collection, the innermost first; the last one belongs to the
  block context. -/
  keys : List (Option Candidate)

namespace Scanner

def start (text : List Char) : Scanner := ⟨text, Mark.start, [], 0, [], true, [none]⟩

def inFlow (scanner : Scanner) : Bool := 1 < scanner.keys.length

/-- The column of the innermost block collection, or minus one. -/
def indent (scanner : Scanner) : Int :=
  match scanner.indents with
  | column :: _ => column
  | [] => -1

def emit (scanner : Scanner) (token : Token) : Scanner :=
  { scanner with tokens := token :: scanner.tokens, count := scanner.count + 1 }

def emitAt (scanner : Scanner) (position : Nat) (token : Token) : Scanner :=
  let later := scanner.count - position
  { scanner with
    tokens := scanner.tokens.take later ++ token :: scanner.tokens.drop later
    count := scanner.count + 1 }

def skip (scanner : Scanner) (count : Nat) : Scanner :=
  { scanner with rest := scanner.rest.drop count, mark := scanner.mark.skip count }

def skipTo (scanner : Scanner) (rest : List Char) : Scanner :=
  scanner.skip (scanner.rest.length - rest.length)

def openBlock (scanner : Scanner) (column position : Nat) (token : Token) : Scanner :=
  if scanner.inFlow || decide ((column : Int) ≤ scanner.indent) then scanner
  else { scanner.emitAt position token with indents := column :: scanner.indents }

/-- Closes the block collections that are indented deeper than `column`. -/
def closeBlocks (scanner : Scanner) (column : Int) : Scanner :=
  if scanner.inFlow then scanner
  else
    let deeper := scanner.indents.takeWhile fun (indent : Nat) => column < (indent : Int)
    { scanner with
      tokens := List.replicate deeper.length Token.blockEnd ++ scanner.tokens
      count := scanner.count + deeper.length
      indents := scanner.indents.drop deeper.length }

def dropKey? (scanner : Scanner) : Option Scanner :=
  match scanner.keys with
  | some candidate :: outer =>
      if candidate.required then none else some { scanner with keys := none :: outer }
  | _ => some scanner

def noteKey? (scanner : Scanner) : Option Scanner :=
  if scanner.keyAllowed then do
    let dropped ← scanner.dropKey?
    let candidate : Candidate :=
      { position := scanner.count
        mark := scanner.mark
        required := !scanner.inFlow && scanner.indent == (scanner.mark.column : Int) }
    return { dropped with keys := some candidate :: dropped.keys.tail }
  else some scanner

/-- A colon that is this many bytes or fewer behind the beginning of a key still belongs to it. -/
def keyLimit : Nat := 1024

/-- Gives up the candidates that lie on an earlier line or too far back. -/
def expireKeys? (scanner : Scanner) : Option Scanner := do
  let keys ← scanner.keys.mapM fun candidate? =>
    match candidate? with
    | none => some none
    | some candidate =>
        if candidate.mark.line < scanner.mark.line ∨
            candidate.mark.offset + keyLimit < scanner.mark.offset then
          if candidate.required then none else some none
        else some (some candidate)
  return { scanner with keys := keys }

/-- Skips blanks, comments and line ends. At the start of a line in block context a tab is no
blank; a byte order mark is one there. -/
def skipGap (inFlow keyAllowed inComment : Bool) (mark : Mark) :
    List Char → List Char × Mark × Bool
  | [] => ([], mark, keyAllowed)
  | character :: rest =>
      if isBreak character then skipGap inFlow (keyAllowed || !inFlow) false mark.nextLine rest
      else if inComment || character == '#' then
        skipGap inFlow keyAllowed true (mark.after character) rest
      else if character == ' ' || (character == '\t' && (inFlow || !keyAllowed)) ||
          (character == '\ufeff' && mark.column == 0) then
        skipGap inFlow keyAllowed false (mark.after character) rest
      else (character :: rest, mark, keyAllowed)

def toToken (scanner : Scanner) : Scanner :=
  let (rest, mark, keyAllowed) :=
    skipGap scanner.inFlow scanner.keyAllowed false scanner.mark scanner.rest
  { scanner with rest := rest, mark := mark, keyAllowed := keyAllowed }

def scalar? (scanner : Scanner) (scanned? : Option Scanned) (style : Style) : Option Scanner := do
  let scanned ← scanned?
  return { scanner.emit (.scalar scanned.content style) with
    rest := scanned.rest
    mark := scanned.mark
    keyAllowed := scanned.broken }

def keyScalar? (scanner : Scanner) (scanned? : Option Scanned) (style : Style) :
    Option Scanner := do
  (← scanner.noteKey?).scalar? scanned? style

/-- A block scalar, which is no key unless a question mark says so. -/
def blockScalar? (scanner : Scanner) (text : List Char) (style : Style) : Option Scanner := do
  let dropped ← scanner.dropKey?
  dropped.scalar? (scanBlock? (style == .folded) dropped.indent dropped.mark text) style

/-- A property of a node, or a reference in place of a node, which ends before `rest`. -/
def property? (scanner : Scanner) (token : Token) (rest : List Char) : Option Scanner := do
  let noted ← scanner.noteKey?
  return ({ noted with keyAllowed := false }.skipTo rest).emit token

def tag? (scanner : Scanner) (text : List Char) : Option Scanner := do
  let (handle, suffix, rest) ← scanTag? text
  if atGap rest || (scanner.inFlow && rest.head? = some ',') then
    scanner.property? (.tag handle suffix) rest
  else none

def directive? (scanner : Scanner) (text : List Char) : Option Scanner := do
  let dropped ← (scanner.closeBlocks (-1)).dropKey?
  let (directive, rest) ← scanDirective? text
  return ({ dropped with keyAllowed := false }.skipTo rest).emit (.directive directive)

def documentMark? (scanner : Scanner) (token : Token) : Option Scanner := do
  let dropped ← (scanner.closeBlocks (-1)).dropKey?
  return ({ dropped with keyAllowed := false }.skip 3).emit token

/-- The opening mark of a flow collection, which may be a key itself. -/
def openFlow? (scanner : Scanner) (token : Token) : Option Scanner := do
  let noted ← scanner.noteKey?
  return ({ noted with keys := none :: noted.keys, keyAllowed := true }.skip 1).emit token

def closeFlow? (scanner : Scanner) (token : Token) : Option Scanner := do
  let dropped ← scanner.dropKey?
  let keys := if dropped.inFlow then dropped.keys.tail else dropped.keys
  return ({ dropped with keys := keys, keyAllowed := false }.skip 1).emit token

def comma? (scanner : Scanner) : Option Scanner := do
  let dropped ← scanner.dropKey?
  return ({ dropped with keyAllowed := true }.skip 1).emit .comma

/-- A dash or a question mark, which open a block collection of their own. -/
def opener? (scanner : Scanner) (collection token : Token) (allowed : Bool) : Option Scanner :=
  if !scanner.inFlow && !scanner.keyAllowed then none
  else do
    let opened := scanner.openBlock scanner.mark.column scanner.count collection
    let dropped ← opened.dropKey?
    return ({ dropped with keyAllowed := allowed }.skip 1).emit token

/-- The colon behind a key. Without a candidate the key is empty. -/
def colon? (scanner : Scanner) : Option Scanner :=
  match scanner.keys with
  | some candidate :: outer =>
      let keyed := scanner.emitAt candidate.position .key
      let opened := keyed.openBlock candidate.mark.column candidate.position .blockRecord
      some (({ opened with keys := none :: outer, keyAllowed := false }.skip 1).emit .value)
  | _ =>
      if !scanner.inFlow && !scanner.keyAllowed then none
      else
        let opened := scanner.openBlock scanner.mark.column scanner.count .blockRecord
        some (({ opened with keyAllowed := !scanner.inFlow }.skip 1).emit .value)

def isMark (character : Char) : Bool :=
  ['-', '?', ':', ',', '[', ']', '\x7b', '\x7d', '#', '&', '*', '!', '|', '>', '\'', '"', '%', '@',
    '\x60'].contains character

def startsPlain (inFlow : Bool) (first : Char) (rest : List Char) : Bool :=
  (!isMark first && !isBlank first) ||
    (first == '-' && !(rest.head?.any isBlank)) ||
    (!inFlow && (first == '?' || first == ':') && !atGap rest)

def token? (scanner : Scanner) (first : Char) (rest : List Char) : Option Scanner :=
  if scanner.mark.column == 0 && first == '%' then scanner.directive? rest
  else if atDocumentMark scanner.mark (first :: rest) then
    scanner.documentMark? (if first == '-' then .documentStart else .documentEnd)
  else if first == '[' then scanner.openFlow? .flowList
  else if first == '\x7b' then scanner.openFlow? .flowRecord
  else if first == ']' then scanner.closeFlow? .flowListEnd
  else if first == '\x7d' then scanner.closeFlow? .flowRecordEnd
  else if first == ',' then scanner.comma?
  else if first == '-' && atGap rest then scanner.opener? .blockList .dash true
  else if first == '?' && (scanner.inFlow || atGap rest) then
    scanner.opener? .blockRecord .key (!scanner.inFlow)
  else if first == ':' && (scanner.inFlow || atGap rest) then scanner.colon?
  else if first == '*' then do
    let (name, behind) ← scanName? rest
    scanner.property? (.alias name) behind
  else if first == '&' then do
    let (name, behind) ← scanName? rest
    scanner.property? (.anchor name) behind
  else if first == '!' then scanner.tag? rest
  else if first == '|' && !scanner.inFlow then scanner.blockScalar? rest .literal
  else if first == '>' && !scanner.inFlow then scanner.blockScalar? rest .folded
  else if first == '\'' then
    scanner.keyScalar? (scanSingle? [] Gap.empty (scanner.mark.skip 1) rest) .quoted
  else if first == '"' then
    scanner.keyScalar? (scanDouble? [] Gap.empty (scanner.mark.skip 1) rest) .quoted
  else if startsPlain scanner.inFlow first rest then
    scanner.keyScalar?
      (scanPlain? scanner.inFlow (scanner.indent + 1).toNat [] Gap.empty scanner.mark
        (first :: rest)) .plain
  else none

/-- Reads the remaining tokens. `fuel` bounds their number and is never spent when it is greater than
the length of the text. -/
def finish? : Nat → Scanner → Option (List Token)
  | 0, _ => none
  | fuel + 1, scanner => do
      let expired ← scanner.toToken.expireKeys?
      let closed := expired.closeBlocks expired.mark.column
      match closed.rest with
      | [] =>
          let dropped ← (closed.closeBlocks (-1)).dropKey?
          return dropped.tokens.reverse
      | first :: rest => finish? fuel (← closed.token? first rest)

end Scanner

def tokens? (text : List Char) : Option (List Token) :=
  (Scanner.start text).finish? (text.length + 1)

end StateMachine.Yaml
