import Mathlib.Data.List.Chain
import Mathlib.Data.List.TakeWhile
import StateMachine.Expr.Token
import StateMachine.Proofs.Text.Line
import StateMachine.Proofs.Text.Numeral

/-!
Tokens against the text that they are cut from. Every text is its tokens in order with white space
around them; and tokens that do not run into each other are found again, whatever space was left.
-/

set_option autoImplicit false

namespace StateMachine

open Text

namespace Token

def text : Token → List Char
  | .number digits => digits
  | .word name => name
  | .opening => ['(']
  | .closing => [')']
  | .bang => ['!']
  | .operator known => known.symbol.toList
  | .unknown character => [character]

/-- A token of the syntax: numbers have digits, and words begin with a letter or an underscore and
go on with these and digits. -/
def WellFormed : Token → Prop
  | .number digits => digits ≠ [] ∧ ∀ digit ∈ digits, Decimal.isDigit digit = true
  | .word (first :: rest) =>
      startsWord first = true ∧ ∀ character ∈ rest, continuesWord character = true
  | .word [] | .unknown _ => False
  | .opening | .closing | .bang | .operator _ => True

instance : (token : Token) → Decidable token.WellFormed
  -- The list is looked through, not the type of characters, which could be decided as well.
  | .number digits =>
      have : Decidable (∀ digit ∈ digits, Decimal.isDigit digit = true) := List.decidableBAll _ _
      inferInstanceAs (Decidable (digits ≠ [] ∧ _))
  | .word (first :: rest) =>
      have : Decidable (∀ character ∈ rest, continuesWord character = true) :=
        List.decidableBAll _ _
      inferInstanceAs (Decidable (startsWord first = true ∧ _))
  | .word [] | .unknown _ => .isFalse id
  | .opening | .closing | .bang | .operator _ => .isTrue trivial

/-- Holds when a token would take a character that came right after it. -/
def isContinuedBy : Token → Char → Bool
  | .number _, character => Decimal.isDigit character
  | .word _, character => continuesWord character
  | .operator .lt, character | .operator .gt, character | .bang, character => character == '='
  | _, _ => false

def Stops (token : Token) (rest : List Char) : Prop :=
  ∀ character ∈ rest.head?, token.isContinuedBy character = false

def Apart (token next : Token) : Prop := token.Stops next.text

end Token

/-- Tokens in order, with white space before, between and after them as one likes. -/
inductive Spaced : List Token → List Char → Prop
  | blank {gap : List Char} (white : ∀ character ∈ gap, isWhite character = true) : Spaced [] gap
  | token {gap rest : List Char} {token : Token} {tokens : List Token}
      (white : ∀ character ∈ gap, isWhite character = true) (following : Spaced tokens rest) :
      Spaced (token :: tokens) (gap ++ (token.text ++ rest))

namespace Spaced

theorem gap {text : List Char} {tokens : List Token} (spaced : Spaced tokens text)
    {front : List Char} (white : ∀ character ∈ front, isWhite character = true) :
    Spaced tokens (front ++ text) := by
  cases spaced with
  | blank whiteGap => exact .blank (List.forall_mem_append.mpr ⟨white, whiteGap⟩)
  | token whiteGap following =>
      rw [← List.append_assoc]
      exact .token (List.forall_mem_append.mpr ⟨white, whiteGap⟩) following

theorem append {tokens others : List Token} {text rest : List Char} (spaced : Spaced tokens text)
    (following : Spaced others rest) : Spaced (tokens ++ others) (text ++ rest) := by
  induction spaced with
  | blank white => exact following.gap white
  | token white _ induction =>
      rw [List.append_assoc, List.append_assoc]
      exact .token white induction

theorem cons (token : Token) {tokens : List Token} {text : List Char}
    (following : Spaced tokens text) : Spaced (token :: tokens) (token.text ++ text) := by
  have unspaced : ∀ character ∈ [], isWhite character = true := by simp
  exact .token unspaced following

theorem singleton (token : Token) : Spaced [token] token.text := by
  have empty : Spaced [] [] := .blank (by simp)
  have alone := empty.cons token
  rwa [List.append_nil] at alone

end Spaced

namespace Text

theorem white_code {character : Char} (white : isWhite character = true) :
    character.toNat ∈ [9, 10, 11, 12, 13, 0x20, 0x85, 0xA0, 0x1680, 0x2000, 0x2001, 0x2002, 0x2003,
      0x2004, 0x2005, 0x2006, 0x2007, 0x2008, 0x2009, 0x200A, 0x2028, 0x2029, 0x202F, 0x205F,
      0x3000] := by
  simp only [isWhite, Bool.or_eq_true, Bool.and_eq_true, decide_eq_true_eq, beq_iff_eq] at white
  simp only [List.mem_cons, List.not_mem_nil, or_false]
  omega

/-- White space continues no word and no number, and no operator either. -/
theorem white_is_apart {character : Char} (white : isWhite character = true) :
    Token.continuesWord character = false ∧ Decimal.isDigit character = false ∧
      character ≠ '=' := by
  have listed := white_code white
  rw [← Char.ofNat_toNat character]
  revert listed
  generalize character.toNat = code
  revert code
  decide +kernel

theorem not_white {character : Char} (inside : Token.continuesWord character = true ∨
    Decimal.isDigit character = true) : isWhite character = false := by
  rw [← Bool.not_eq_true]
  intro white
  have apart := white_is_apart white
  simp [apart] at inside

theorem skip_white_append {gap : List Char} (white : ∀ character ∈ gap, isWhite character = true)
    (rest : List Char) : skipWhite (gap ++ rest) = skipWhite rest :=
  List.dropWhile_append_of_pos white

theorem exists_gap (text : List Char) :
    ∃ gap, (∀ character ∈ gap, isWhite character = true) ∧ text = gap ++ skipWhite text := by
  refine ⟨text.takeWhile isWhite, ?_, List.takeWhile_append_dropWhile.symm⟩
  intro character member
  exact List.mem_takeWhile_imp member

end Text

namespace Token

theorem scan_of_plain {first : Char} (rest : List Char)
    (plain : Decimal.isDigit first = true ∨ startsWord first = true) :
    scan first rest =
      if Decimal.isDigit first then
        (.number (first :: rest.takeWhile Decimal.isDigit), rest.dropWhile Decimal.isDigit)
      else (.word (first :: rest.takeWhile continuesWord), rest.dropWhile continuesWord) := by
  unfold scan
  split
  case h_13 =>
    split
    · rfl
    · next notDigit =>
        have starts : startsWord first = true := plain.resolve_left (by simp [notDigit])
        rw [if_pos starts]
  all_goals exact absurd plain (by decide)

theorem starts_word_not_digit {character : Char} (starts : startsWord character = true) :
    Decimal.isDigit character = false := by
  rw [← Bool.not_eq_true]
  intro digit
  have listed : character.toNat ∈ [48, 49, 50, 51, 52, 53, 54, 55, 56, 57] := by
    have bounds := digit
    simp only [Decimal.isDigit, Char.isDigit, Bool.and_eq_true, decide_eq_true_eq, ge_iff_le,
      UInt32.le_iff_toNat_le, Char.toNat_val] at bounds
    have least : '0'.toNat = 48 := rfl
    have greatest : '9'.toNat = 57 := rfl
    simp only [List.mem_cons, List.not_mem_nil, or_false]
    omega
  rw [← Char.ofNat_toNat character] at starts
  revert starts
  revert listed
  generalize character.toNat = code
  revert code
  decide

theorem continues_of_starts {character : Char} (starts : startsWord character = true) :
    continuesWord character = true := by
  simp only [startsWord, continuesWord, Text.isAlphanumeric, Bool.or_eq_true] at starts ⊢
  refine starts.imp_left ?_
  intro letter
  split
  · next ascii =>
      simp only [Text.isLetter, if_pos ascii] at letter
      simp [Char.isAlphanum, letter]
  · simp [letter]

theorem pair_short {next : Char} (long short : Token) {rest : List Char}
    (other : ∀ character ∈ rest.head?, (character == next) = false) :
    pair next long short rest = (short, rest) := by
  cases rest with
  | nil => rfl
  | cons character others =>
      have different : character ≠ next := by simpa using other character (by simp)
      simp [pair, different]

theorem scan_text {token : Token} (formed : token.WellFormed) {rest : List Char}
    (stops : token.Stops rest) :
    ∃ first tail, token.text = first :: tail ∧ Text.isWhite first = false ∧
      scan first (tail ++ rest) = (token, rest) := by
  cases token with
  | number digits =>
      obtain ⟨nonempty, all⟩ := formed
      obtain ⟨first, others, rfl⟩ := List.exists_cons_of_ne_nil nonempty
      obtain ⟨digit, allOthers⟩ := List.forall_mem_cons.mp all
      have spanned := Text.span_append allOthers stops
      refine ⟨first, others, rfl, Text.not_white (Or.inr digit), ?_⟩
      rw [scan_of_plain _ (Or.inl digit), if_pos digit, spanned.1, spanned.2]
  | word name =>
      cases name with
      | nil => exact formed.elim
      | cons first others =>
          obtain ⟨starts, all⟩ := formed
          have spanned := Text.span_append all stops
          have notDigit := starts_word_not_digit starts
          refine ⟨first, others, rfl, Text.not_white (Or.inl (continues_of_starts starts)), ?_⟩
          rw [scan_of_plain _ (Or.inr starts), notDigit, if_neg Bool.false_ne_true, spanned.1,
            spanned.2]
  | opening => exact ⟨'(', [], rfl, by decide, rfl⟩
  | closing => exact ⟨')', [], rfl, by decide, rfl⟩
  | bang => exact ⟨'!', [], rfl, by decide, pair_short _ _ stops⟩
  | operator known =>
      cases known with
      | add => exact ⟨'+', [], rfl, by decide, rfl⟩
      | sub => exact ⟨'-', [], rfl, by decide, rfl⟩
      | mul => exact ⟨'*', [], rfl, by decide, rfl⟩
      | div => exact ⟨'/', [], rfl, by decide, rfl⟩
      | lt => exact ⟨'<', [], rfl, by decide, pair_short _ _ stops⟩
      | gt => exact ⟨'>', [], rfl, by decide, pair_short _ _ stops⟩
      | le => exact ⟨'<', ['='], rfl, by decide, rfl⟩
      | ge => exact ⟨'>', ['='], rfl, by decide, rfl⟩
      | eq => exact ⟨'=', ['='], rfl, by decide, rfl⟩
      | ne => exact ⟨'!', ['='], rfl, by decide, rfl⟩
      | and => exact ⟨'&', ['&'], rfl, by decide, rfl⟩
      | or => exact ⟨'|', ['|'], rfl, by decide, rfl⟩
  | unknown character => exact formed.elim

/-- Whatever is scanned stands in the text as it is written. -/
theorem scan_parts (first : Char) (rest : List Char) :
    first :: rest = (scan first rest).1.text ++ (scan first rest).2 ∧
      ((scan first rest).1.WellFormed ∨ ∃ character, (scan first rest).1 = .unknown character) := by
  have pairParts (initial next : Char) (long short : Token)
      (longText : long.text = [initial, next]) (shortText : short.text = [initial])
      (longFormed : long.WellFormed)
      (shortFormed : short.WellFormed ∨ ∃ character, short = .unknown character) :
      initial :: rest = (pair next long short rest).1.text ++ (pair next long short rest).2 ∧
        ((pair next long short rest).1.WellFormed ∨
          ∃ character, (pair next long short rest).1 = .unknown character) := by
    unfold pair
    split
    · split
      · next same => exact ⟨by simp [longText, same], Or.inl longFormed⟩
      · exact ⟨by simp [shortText], shortFormed⟩
    · exact ⟨by simp [shortText], shortFormed⟩
  unfold scan
  split
  case h_1 | h_2 | h_3 | h_4 | h_5 | h_6 => exact ⟨rfl, Or.inl trivial⟩
  case h_7 | h_8 | h_10 => exact pairParts _ _ _ _ rfl rfl trivial (Or.inl trivial)
  case h_9 | h_11 | h_12 => exact pairParts _ _ _ _ rfl rfl trivial (Or.inr ⟨_, rfl⟩)
  case h_13 =>
    split
    · next digit =>
        refine ⟨by simp [text, List.takeWhile_append_dropWhile], Or.inl ⟨List.cons_ne_nil _ _, ?_⟩⟩
        rw [List.forall_mem_cons]
        exact ⟨digit, fun other member => List.mem_takeWhile_imp member⟩
    · split
      · next starts =>
          refine ⟨by simp [text, List.takeWhile_append_dropWhile], Or.inl ⟨starts, ?_⟩⟩
          exact fun other member => List.mem_takeWhile_imp member
      · exact ⟨rfl, Or.inr ⟨first, rfl⟩⟩

theorem stops_of_white (token : Token) {gap : List Char}
    (white : ∀ character ∈ gap, Text.isWhite character = true) (rest : List Char)
    (stops : gap = [] → token.Stops rest) : token.Stops (gap ++ rest) := by
  cases gap with
  | nil => exact stops rfl
  | cons first others =>
      rintro character ⟨⟩
      have apart := Text.white_is_apart (white first (by simp))
      have notEqual : (first == '=') = false := by simp [apart]
      unfold isContinuedBy
      split
      · exact apart.2.1
      · exact apart.1
      all_goals first | exact notEqual | rfl

end Token

theorem lexemes_eq_nil {text : List Char} (empty : Text.skipWhite text = []) :
    lexemes text = [] := by
  rw [lexemes]
  split
  · rfl
  · next cut => rw [empty] at cut; cases cut

theorem lexemes_eq_cons {text rest : List Char} {first : Char}
    (cut : Text.skipWhite text = first :: rest) :
    lexemes text =
      ⟨(Token.scan first rest).1, first :: rest⟩ :: lexemes (Token.scan first rest).2 := by
  rw [lexemes]
  split
  · next empty => rw [empty] at cut; cases cut
  · next other _ same =>
      rw [cut] at same
      cases same
      rfl

theorem lexemes_of_token {gap rest : List Char} {token : Token}
    (white : ∀ character ∈ gap, Text.isWhite character = true) (formed : token.WellFormed)
    (stops : token.Stops rest) :
    lexemes (gap ++ (token.text ++ rest)) = ⟨token, token.text ++ rest⟩ :: lexemes rest := by
  obtain ⟨first, tail, written, solid, scanned⟩ := Token.scan_text formed stops
  have cut : Text.skipWhite (gap ++ (token.text ++ rest)) = first :: (tail ++ rest) := by
    rw [Text.skip_white_append white, written, List.cons_append]
    exact Text.skip_white_of_head (by simpa using solid)
  rw [lexemes_eq_cons cut, scanned, written, List.cons_append]

/-- A text is its tokens with white space around them, and those that are not of the syntax are
single characters. -/
theorem lexemes_spaced (text : List Char) :
    Spaced ((lexemes text).map Lexeme.token) text ∧
      ∀ lexeme ∈ lexemes text,
        lexeme.token.WellFormed ∨ ∃ character, lexeme.token = .unknown character := by
  induction length : text.length using Nat.strong_induction_on generalizing text with
  | _ size induction =>
    obtain ⟨gap, white, parts⟩ := Text.exists_gap text
    cases cut : Text.skipWhite text with
    | nil =>
        rw [lexemes_eq_nil cut]
        rw [cut, List.append_nil] at parts
        exact ⟨.blank (parts ▸ white), by simp⟩
    | cons first rest =>
        have scanned := Token.scan_parts first rest
        have shorter := Token.scan_length first rest
        have size_eq := congrArg List.length parts
        rw [cut, List.length_append, List.length_cons] at size_eq
        have following := induction _ (by omega) (Token.scan first rest).2 rfl
        rw [lexemes_eq_cons cut]
        constructor
        · rw [parts, cut, scanned.1]
          exact .token white following.1
        · rw [List.forall_mem_cons]
          exact ⟨scanned.2, following.2⟩

theorem stops_of_spaced {token : Token} {tokens : List Token} {rest : List Char}
    (spaced : Spaced tokens rest) (formed : ∀ other ∈ tokens, other.WellFormed)
    (apart : ∀ next ∈ tokens.head?, token.Apart next) : token.Stops rest := by
  cases spaced with
  | @blank gap white =>
      have stops := Token.stops_of_white token white [] fun _ => by simp [Token.Stops]
      rwa [List.append_nil] at stops
  | @token gap after next others white following =>
      apply Token.stops_of_white token white
      intro _
      have beside : token.Apart next := apart next rfl
      have alone : next.Stops [] := by simp [Token.Stops]
      obtain ⟨first, tail, written, -, -⟩ := Token.scan_text (formed next (by simp)) alone
      simpa [Token.Apart, Token.Stops, written] using beside

/-- Tokens that stay apart are the tokens of every text that spaces them. -/
theorem lexemes_of_spaced {tokens : List Token} {text : List Char} (spaced : Spaced tokens text)
    (formed : ∀ token ∈ tokens, token.WellFormed) (apart : tokens.IsChain Token.Apart) :
    (lexemes text).map Lexeme.token = tokens := by
  induction spaced with
  | blank white =>
      rw [lexemes_eq_nil (List.dropWhile_eq_nil_iff.mpr white)]
      rfl
  | @token gap rest token tokens white following induction =>
      have formedOthers : ∀ other ∈ tokens, other.WellFormed :=
        fun other member => formed other (by simp [member])
      have stops : token.Stops rest := stops_of_spaced following formedOthers
        fun next member => apart.rel_head? member
      rw [lexemes_of_token white (formed token (by simp)) stops, List.map_cons,
        induction formedOthers apart.tail]

end StateMachine
