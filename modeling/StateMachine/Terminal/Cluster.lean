import StateMachine.Terminal.Conjunct
import StateMachine.Terminal.Mark
import StateMachine.Terminal.Pictographic
import StateMachine.Text.Char

/-!
Clusters: the parts of a text that a reader takes for single characters, such as a letter with its
accents, a syllable of Hangul, a flag or a joined picture. Whether a character belongs to the
cluster before it depends on the parts that both play in it.
-/

set_option autoImplicit false

namespace StateMachine.Terminal

inductive Role where
  | ordinary
  | control
  | carriageReturn
  | lineFeed
  /-- A mark on the character before it. -/
  | extending
  /-- A mark of no width that keeps consonants apart. -/
  | separator
  /-- A mark on a consonant that links it to the next one. -/
  | linker
  /-- A mark of no width that joins pictures. -/
  | joiner
  /-- A mark beside the character before it. -/
  | spacing
  /-- A sign before the character that it belongs to. -/
  | prepended
  /-- The parts of a syllable: its first consonants, its vowels and its last consonants. -/
  | leading
  | vowel
  | trailing
  | openSyllable
  | closedSyllable
  | flagLetter
  | picture
  | consonant
deriving DecidableEq, Repr

def controlRanges : List (Nat × Nat) := [
  (0x80, 0x9f), (0xad, 0xad), (0x61c, 0x61c), (0x180e, 0x180e), (0x200b, 0x200b),
  (0x200e, 0x200f), (0x2028, 0x202e), (0x2060, 0x206f), (0xfeff, 0xfeff), (0xfff0, 0xfffb),
  (0x13430, 0x1343f), (0x1bca0, 0x1bca3), (0x1d173, 0x1d17a), (0xe0000, 0xe001f),
  (0xe0080, 0xe00ff), (0xe01f0, 0xe0fff)]

def prependedRanges : List (Nat × Nat) := [
  (0x600, 0x605), (0x6dd, 0x6dd), (0x70f, 0x70f), (0x890, 0x891), (0x8e2, 0x8e2), (0xd4e, 0xd4e),
  (0x110bd, 0x110bd), (0x110cd, 0x110cd), (0x111c2, 0x111c3), (0x113d1, 0x113d1),
  (0x1193f, 0x1193f), (0x11941, 0x11941), (0x11a84, 0x11a89), (0x11d46, 0x11d46),
  (0x11f02, 0x11f02)]

def leadingRanges : List (Nat × Nat) := [(0x1100, 0x115f), (0xa960, 0xa97c)]

def vowelRanges : List (Nat × Nat) := [
  (0x1160, 0x11a7), (0xd7b0, 0xd7c6), (0x16d63, 0x16d63), (0x16d67, 0x16d6a)]

def trailingRanges : List (Nat × Nat) := [(0x11a8, 0x11ff), (0xd7cb, 0xd7fb)]

namespace Role

def ofASCII (code : Nat) : Role :=
  if code = 0x0D then .carriageReturn
  else if code = 0x0A then .lineFeed
  else if code < 0x20 || code = 0x7F then .control
  else .ordinary

/-- The role of a syllable, counted from the first one; every 28th has no last consonant. -/
def ofSyllable (position : Nat) : Role :=
  if position % 28 = 0 then .openSyllable else .closedSyllable

def ofChar (character : Char) : Role :=
  let code := character.toNat
  if code < 0x80 then ofASCII code
  else if 0xAC00 ≤ code ∧ code ≤ 0xD7A3 then ofSyllable (code - 0xAC00)
  else if code = 0x200C then .separator
  else if code = 0x200D then .joiner
  else if 0x1F1E6 ≤ code ∧ code ≤ 0x1F1FF then .flagLetter
  else if Text.inRanges linkerRanges code then .linker
  else if Text.inRanges extendRanges code then .extending
  else if Text.inRanges spacingRanges code then .spacing
  else if Text.inRanges pictographicRanges code then .picture
  else if Text.inRanges consonantRanges code then .consonant
  else if Text.inRanges leadingRanges code then .leading
  else if Text.inRanges vowelRanges code then .vowel
  else if Text.inRanges trailingRanges code then .trailing
  else if Text.inRanges prependedRanges code then .prepended
  else if Text.inRanges controlRanges code then .control
  else .ordinary

def isAlone : Role → Bool
  | .control | .carriageReturn | .lineFeed => true
  | _ => false

def isExtending : Role → Bool
  | .extending | .separator | .linker => true
  | _ => false

def isInConjunct : Role → Bool
  | .extending | .linker | .joiner => true
  | _ => false

/-- Holds when the roles, last first, end in a consonant that is linked to the next. -/
def endsLinked (before : List Role) : Bool :=
  (before.takeWhile isInConjunct).contains .linker &&
    (before.dropWhile isInConjunct).head? == some .consonant

/-- Holds when the roles, last first, end in a picture with marks on it. -/
def endsInPicture (before : List Role) : Bool :=
  (before.dropWhile isExtending).head? == some .picture

/-- Holds when a character belongs to the cluster that ends in the role `last`; `earlier` are the
roles before that one, last first. -/
def joins (last : Role) (earlier : List Role) (next : Role) : Bool :=
  if last.isAlone || next.isAlone then last == .carriageReturn && next == .lineFeed
  else
    match last, next with
    | _, .extending | _, .separator | _, .linker | _, .joiner | _, .spacing => true
    | .prepended, _ => true
    | .leading, .leading | .leading, .vowel | .leading, .openSyllable
    | .leading, .closedSyllable => true
    | .openSyllable, .vowel | .openSyllable, .trailing | .vowel, .vowel | .vowel, .trailing => true
    | .closedSyllable, .trailing | .trailing, .trailing => true
    | .joiner, .picture => endsInPicture earlier
    | .flagLetter, .flagLetter => earlier.head? != some .flagLetter
    | last, .consonant => endsLinked (last :: earlier)
    | _, _ => false

end Role

/-- The clusters of a text behind an open one, of which the characters and their roles are given,
last first. -/
def clustersAfter (opened : List Char) (last : Role) (earlier : List Role) :
    List Char → List (List Char)
  | [] => [opened.reverse]
  | character :: rest =>
      let next := Role.ofChar character
      if last.joins earlier next then
        clustersAfter (character :: opened) next (last :: earlier) rest
      else opened.reverse :: clustersAfter [character] next [] rest

def clusters : List Char → List (List Char)
  | [] => []
  | character :: rest => clustersAfter [character] (Role.ofChar character) [] rest

end StateMachine.Terminal
