import StateMachine.Text.Decimal
import StateMachine.Text.Radix
import StateMachine.Yaml.Scalar

/-!
Names in YAML text: anchors, tags, and the directives that a document may begin with. A tag is written
in full between angle brackets, or behind a handle that stands for its beginning.
-/

set_option autoImplicit false

namespace StateMachine.Yaml

abbrev Tag := List UInt8

namespace Tag

def ofText (content : String) : Tag := content.toUTF8.toList

def text? (tag : Tag) : Option String := String.fromUTF8? ⟨tag.toArray⟩

/-- A null character ends a tag. -/
def upToNull (tag : Tag) : Tag := tag.takeWhile (· != 0)

/-- The tag that only says that there is one. -/
def bare : Tag := ofText "!"

/-- What the second of the two handles that are always known stands for. -/
def core : Tag := ofText "tag:yaml.org,2002:"

end Tag

def isNameChar (character : Char) : Bool :=
  character.isAlphanum || character == '_' || character == '-'

def endsName (text : List Char) : Bool :=
  atGap text || text.head?.any ['?', ':', ',', ']', '\x7d', '%', '@', '\x60'].contains

def scanName? (text : List Char) : Option (String × List Char) :=
  let name := text.takeWhile isNameChar
  let rest := text.dropWhile isNameChar
  if !name.isEmpty && endsName rest then some (String.ofList name, rest) else none

/-- Characters of tags; between angle brackets there are three more. -/
def isTagChar (inBrackets : Bool) (character : Char) : Bool :=
  isNameChar character ||
    [';', '/', '?', ':', '@', '&', '=', '+', '$', '.', '!', '~', '*', '\'', '(', ')'].contains
      character ||
    (inBrackets && [',', '[', ']'].contains character)

/-- The number of bytes that follow a byte in its encoded character, if it may stand first. -/
def trailing? (byte : Nat) : Option Nat :=
  if byte < 0x80 then some 0
  else if 0xC0 ≤ byte ∧ byte < 0xE0 then some 1
  else if 0xE0 ≤ byte ∧ byte < 0xF0 then some 2
  else if 0xF0 ≤ byte ∧ byte < 0xF8 then some 3
  else none

/-- Reads the characters of a tag. Bytes may be written as a percent sign and two digits; `owed` of
them still belong to the character at hand. -/
def scanTagText? (inBrackets : Bool) (owed : Nat) : List Char → Option (Tag × List Char)
  | '%' :: high :: low :: rest => do
      let byte ← Radix.number? 16 [high, low]
      let remaining ←
        if owed = 0 then trailing? byte
        else if 0x80 ≤ byte ∧ byte < 0xC0 then some (owed - 1)
        else none
      let (tag, after) ← scanTagText? inBrackets remaining rest
      return (UInt8.ofNat byte :: tag, after)
  | character :: rest =>
      if owed ≠ 0 ∨ character = '%' then none
      else if isTagChar inBrackets character then do
        let (tag, after) ← scanTagText? inBrackets 0 rest
        return (UInt8.ofNat character.toNat :: tag, after)
      else some ([], character :: rest)
  | [] => if owed = 0 then some ([], []) else none

def scanSomeTagText? (inBrackets : Bool) (text : List Char) : Option (Tag × List Char) := do
  let (tag, rest) ← scanTagText? inBrackets 0 text
  if tag.isEmpty then none else return (tag.upToNull, rest)

/-- Reads a tag behind its exclamation mark: its handle, which is empty for a tag in full, and the
rest of the tag. -/
def scanTag? (text : List Char) : Option (String × Tag × List Char) :=
  match text with
  | '<' :: body => do
      let (tag, rest) ← scanSomeTagText? true body
      match rest with
      | '>' :: after => return ("", tag, after)
      | _ => none
  | _ =>
      let word := text.takeWhile isNameChar
      match text.dropWhile isNameChar with
      | '!' :: body => do
          let (tag, rest) ← scanSomeTagText? false body
          return ("!" ++ String.ofList word ++ "!", tag, rest)
      | body => do
          let (tag, rest) ← scanTagText? false 0 body
          let suffix := (Tag.ofText (String.ofList word) ++ tag).upToNull
          return if suffix.isEmpty then ("", Tag.bare, rest) else ("!", suffix, rest)

inductive Directive where
  | version (major minor : Nat)
  | handle (name : String) (expansion : Tag)
deriving DecidableEq, Repr

/-- Reads a number of at most nine digits. -/
def scanVersionNumber? (text : List Char) : Option (Nat × List Char) :=
  let (digits, rest) := Decimal.spanDigits text
  if digits.isEmpty || 9 < digits.length then none else some (Decimal.number digits, rest)

def scanVersion? (text : List Char) : Option (Directive × List Char) := do
  let (major, afterMajor) ← scanVersionNumber? text
  let '.' :: afterPoint := afterMajor | none
  let (minor, rest) ← scanVersionNumber? afterPoint
  return (.version major minor, rest)

/-- Reads a handle between exclamation marks, or a single exclamation mark, and what it stands for. -/
def scanHandle? (text : List Char) : Option (Directive × List Char) := do
  let '!' :: body := text | none
  let word := body.takeWhile isNameChar
  let (name, afterName) ←
    match word, body.dropWhile isNameChar with
    | _, '!' :: rest => some ("!" ++ String.ofList word ++ "!", rest)
    | [], rest => some ("!", rest)
    | _ :: _, _ => none
  let (expansion, rest) ← scanSomeTagText? true (afterName.dropWhile isBlank)
  if afterName.head?.any isBlank && atGap rest then return (.handle name expansion, rest) else none

def scanDirective? (text : List Char) : Option (Directive × List Char) := do
  let name := text.takeWhile isNameChar
  let afterName := text.dropWhile isNameChar
  let body := afterName.dropWhile isBlank
  let (directive, rest) ←
    match String.ofList name with
    | "YAML" => scanVersion? body
    | "TAG" => scanHandle? body
    | _ => none
  let behind := rest.dropWhile isBlank
  if atGap afterName && (atLineEnd behind || behind.head? = some '#') then
    return (directive, behind)
  else none

end StateMachine.Yaml
