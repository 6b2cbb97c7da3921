import StateMachine.Proofs.Cpp.Parentheses
import StateMachine.Proofs.Expr.Display
import StateMachine.Proofs.Text.Place

/-!
The text of an integer as an expression. A minus sign is an operator, so what has to fit into a word
is the number without its sign, and the least word has no text that can be read.
-/

set_option autoImplicit false

namespace StateMachine

namespace Decimal

/-- Offset in bytes of the first digit of a text. -/
def placeOfDigit (text : String) : Nat :=
  Text.byteLength (text.toList.takeWhile fun character => !isDigit character)

theorem place_of_digit {text : String} {front : List Char} {count : Nat}
    (written : text.toList = front ++ digits count)
    (apart : ∀ character ∈ front, isDigit character = false) :
    placeOfDigit text = Text.byteLength front := by
  obtain ⟨first, rest, shape, digit⟩ := digits_eq_cons count
  have spanned : (front ++ digits count).takeWhile (fun character => !isDigit character) =
      front := by
    refine (Text.span_append ?_ ?_).1
    · simpa using apart
    · simpa [shape] using digit
  rw [placeOfDigit, written, spanned]

end Decimal

namespace Expr

/-- The integers with a text that can be read. -/
def Denotable (number : Int) : Prop :=
  -9223372036854775807 ≤ number ∧ number ≤ 9223372036854775807

instance (number : Int) : Decidable (Denotable number) :=
  inferInstanceAs (Decidable (_ ∧ _))

theorem unsigned_references (word : Word) :
    (literal (.int word)).unsigned.references = [] := by
  rw [unsigned]
  split <;> rfl

theorem parse_word {word : Word} (greater : word ≠ Word.least) :
    parse word.text = .ok (literal (.int word)).unsigned := by
  rw [unsigned]
  split
  · next opposite found =>
      obtain ⟨negative, same⟩ := Word.opposite_eq_some found
      have natural : (literal (.int opposite)).Stratified := by
        rw [Stratified]
        omega
      have stratified : (negate (.literal (.int opposite))).Stratified := ⟨Nat.le_succ 6, natural⟩
      have magnitude : (word.val.natAbs : Int) = opposite.val := by omega
      apply parse_of_spelled stratified (digits_spelled magnitude).negate
      rw [Word.negative_text negative]
      exact (Spaced.singleton _).cons (.operator .sub)
  · next missing =>
      have natural := Word.natural_of_opposite_eq_none greater missing
      exact parse_of_spelled natural (number_spelled natural) (.singleton _)

theorem lexemes_digits (count : Nat) :
    lexemes (Decimal.digits count) = [⟨.number (Decimal.digits count), Decimal.digits count⟩] := by
  have formed : (Token.number (Decimal.digits count)).WellFormed := by
    obtain ⟨first, rest, shape, _⟩ := Decimal.digits_eq_cons count
    exact ⟨by simp [shape], Decimal.digits_are_digits count⟩
  have cut : lexemes ([] ++ ((Token.number (Decimal.digits count)).text ++ [])) = _ :=
    lexemes_of_token (by simp) formed (by simp [Token.Stops])
  have spent : lexemes [] = [] := lexemes_eq_nil rfl
  simpa only [Token.text, List.nil_append, List.append_nil, spent] using cut

theorem lexemes_minus (rest : List Char) :
    lexemes ('-' :: rest) = ⟨.operator .sub, '-' :: rest⟩ :: lexemes rest := by
  have first : Text.skipWhite ('-' :: rest) = '-' :: rest := rfl
  rw [lexemes_eq_cons first]
  rfl

theorem digits_refused {count : Nat} (great : 9223372036854775807 < (count : Int))
    (stack : List Pending) :
    readOperand stack (lexemes (Decimal.digits count)) =
      .error ⟨.outOfRange (Decimal.digits count), Decimal.digits count⟩ := by
  have unheld : Word.ofInt? (Decimal.number (Decimal.digits count)) = none := by
    rw [Decimal.number_digits]
    exact Word.of_int_eq_none_iff.mpr (Or.inr great)
  simp only [lexemes_digits, readOperand, unheld]

theorem parse_of_great {number : Int} (great : 9223372036854775807 < (number.natAbs : Int)) :
    parse (toString number) = .error ⟨toString number, Decimal.placeOfDigit (toString number),
      .outOfRange (Decimal.digits number.natAbs)⟩ := by
  obtain ⟨sign, written, apart, read⟩ : ∃ sign : List Char,
      (toString number).toList = sign ++ Decimal.digits number.natAbs ∧
      (∀ character ∈ sign, Decimal.isDigit character = false) ∧
      readOperand [] (lexemes (toString number).toList) =
        .error ⟨.outOfRange (Decimal.digits number.natAbs), Decimal.digits number.natAbs⟩ := by
    by_cases negative : number < 0
    · have plain : Decimal.isDigit '-' = false := by decide
      refine ⟨['-'], Decimal.negative_text negative, List.forall_mem_singleton.mpr plain, ?_⟩
      rw [Decimal.negative_text negative, lexemes_minus]
      exact digits_refused great [.negate]
    · have natural := Decimal.natural_text (Int.not_lt.mp negative)
      refine ⟨[], natural, by simp, ?_⟩
      rw [natural]
      exact digits_refused great []
  have place : Text.byteLength (toString number).toList -
      Text.byteLength (Decimal.digits number.natAbs) =
        Decimal.placeOfDigit (toString number) := by
    rw [Decimal.place_of_digit written apart, written, Text.byte_length_append, Nat.add_sub_cancel]
  simp only [parse, read, Refusal.toError, place, String.ofList_toList]

end Expr

end StateMachine
