import StateMachine.Yaml.Scalar

/-!
Block scalars of YAML text. The header says whether the lines are kept or folded, how the line ends
behind the last line are treated, and possibly the indentation; otherwise the first line that is not
blank tells the indentation.
-/

set_option autoImplicit false

namespace StateMachine.Yaml

/-- What is kept of the line ends behind the last line of a block scalar. -/
inductive Chomp where
  | strip
  | clip
  | keep
deriving DecidableEq, Repr

def Chomp.ofSign? : Char → Option Chomp
  | '-' => some .strip
  | '+' => some .keep
  | _ => none

structure BlockHeader where
  chomp : Chomp
  /-- How much deeper than its surroundings the scalar is indented, if that is said. -/
  increment : Option Nat

/-- The digit of an indentation; zero is none. -/
def increment? (character : Char) : Option Nat :=
  if character.isDigit && character != '0' then some (character.toNat - '0'.toNat) else none

/-- Reads the header behind the opening mark; its two parts stand in either order. -/
def scanHeader (text : List Char) : BlockHeader × List Char :=
  let sign? := text.head?.bind Chomp.ofSign?
  let afterSign := if sign?.isSome then text.tail else text
  let increment := afterSign.head?.bind increment?
  let rest := if increment.isSome then afterSign.tail else afterSign
  match sign?, rest.head?.bind Chomp.ofSign? with
  | some chomp, _ => (⟨chomp, increment⟩, rest)
  | none, some chomp => (⟨chomp, increment⟩, rest.tail)
  | none, none => (⟨.clip, increment⟩, rest)

/-- Skips blanks and a comment, behind which the line has to end. -/
def skipLineRest? (text : List Char) : Option (List Char) :=
  let rest := text.dropWhile isBlank
  let behind := if rest.head? = some '#' then rest.dropWhile (!isBreak ·) else rest
  if atLineEnd behind then some behind else none

structure Margin where
  breaks : List Char
  /-- The greatest column that was reached. -/
  deepest : Nat
  mark : Mark
  rest : List Char

/-- Skips blank lines and blanks up to the column `indent`, or as far as they go while the
indentation is not known. A tab may not stand among them. -/
def scanMargin? (indent : Option Nat) (breaks : List Char) (deepest : Nat) (mark : Mark) :
    List Char → Option Margin
  | [] => some ⟨breaks, max deepest mark.column, mark, []⟩
  | character :: rest =>
      let isMargin := indent.all (mark.column < ·)
      if isMargin && character == ' ' then scanMargin? indent breaks deepest (mark.after ' ') rest
      else if isMargin && character == '\t' then none
      else if isBreak character then
        scanMargin? indent (breaks ++ [character]) (max deepest mark.column) mark.nextLine rest
      else some ⟨breaks, max deepest mark.column, mark, character :: rest⟩

theorem scan_margin_length {indent : Option Nat} {breaks : List Char} {deepest : Nat} {mark : Mark}
    {text : List Char} {margin : Margin}
    (scanned : scanMargin? indent breaks deepest mark text = some margin) :
    margin.rest.length ≤ text.length := by
  induction text generalizing breaks deepest mark with
  | nil =>
      simp only [scanMargin?, Option.some.injEq] at scanned
      simp [← scanned]
  | cons character rest induction =>
      simp only [scanMargin?] at scanned
      split at scanned
      · exact Nat.le_succ_of_le (induction scanned)
      · split at scanned
        · cases scanned
        · split at scanned
          · exact Nat.le_succ_of_le (induction scanned)
          · simp only [Option.some.injEq] at scanned
            simp [← scanned]

structure BlockLines where
  /-- The characters so far, the last one first. -/
  taken : List Char
  /-- The end of the last line, unless the text ends with it. -/
  ending : List Char
  /-- The last line began with a blank. -/
  isSpaced : Bool

/-- Appends a line behind the margin in front of it. Folding reads a single line feed between two
lines as a blank, unless one of them begins with a blank itself. -/
def BlockLines.append (folded : Bool) (lines : BlockLines) (breaks line ending : List Char) :
    BlockLines :=
  let isSpaced := line.head?.any isBlank
  let joint :=
    if folded && lines.ending == ['\n'] && !lines.isSpaced && !isSpaced then
      if breaks.isEmpty then [' '] else breaks
    else lines.ending ++ breaks
  ⟨line.reverse ++ (joint.reverse ++ lines.taken), ending, isSpaced⟩

def scanLines? (folded : Bool) (indent : Nat) (lines : BlockLines) (margin : Margin) :
    Option (BlockLines × Margin) :=
  match _ : margin.rest with
  | [] => some (lines, margin)
  | character :: others =>
      if margin.mark.column = indent then
        let line := character :: others.takeWhile (!isBreak ·)
        match _ : others.dropWhile (!isBreak ·) with
        | [] =>
            some (lines.append folded margin.breaks line [], { margin with breaks := [], rest := [] })
        | ending :: text =>
            match _ : scanMargin? (some indent) [] 0 margin.mark.nextLine text with
            | none => none
            | some following =>
                scanLines? folded indent (lines.append folded margin.breaks line [ending]) following
      else some (lines, margin)
termination_by margin.rest.length
decreasing_by
  rename_i rest _ behind next
  have shorter := scan_margin_length next
  have dropped := (List.dropWhile_sublist (!isBreak ·) (l := others)).length_le
  rw [behind] at dropped
  rw [rest]
  simp only [List.length_cons] at dropped ⊢
  omega

/-- Reads a block scalar behind its opening mark, where the innermost block collection stands at the
column `parent`. -/
def scanBlock? (folded : Bool) (parent : Int) (mark : Mark) (text : List Char) : Option Scanned := do
  let (header, afterHeader) := scanHeader text
  let (begun, start) :=
    match ← skipLineRest? afterHeader with
    | _ :: rest => (rest, mark.nextLine)
    | [] => ([], mark)
  let given := header.increment.map fun increment => parent.toNat + increment
  let margin ← scanMargin? given [] 0 start begun
  let indent := given.getD (max margin.deepest (max (parent + 1).toNat 1))
  let (lines, tail) ← scanLines? folded indent ⟨[], [], false⟩ margin
  let kept :=
    match header.chomp with
    | .strip => []
    | .clip => lines.ending
    | .keep => lines.ending ++ tail.breaks
  return ⟨String.ofList (lines.taken.reverse ++ kept), tail.rest, tail.mark, true⟩

end StateMachine.Yaml
