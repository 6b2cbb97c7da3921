import StateMachine.Cpp.Statement
import StateMachine.Proofs.Cpp.Translation
import StateMachine.Proofs.Text.Numeral

/-!
Reading C++ expressions in which every binary operator has parentheses of its own. The text of an
expression reads as its term, so its grouping and its literals are those that were meant.
-/

set_option autoImplicit false

namespace StateMachine.Cpp

/-- Blanks and parentheses end a word. -/
def isWordChar (character : Char) : Bool :=
  character != ' ' && character != '(' && character != ')'

/-- The term of a word: a truth value, a decimal literal or the name of a variable. A zero in front
would make a literal octal. -/
def ofWord? (word : List Char) : Option Term :=
  if word = (flagText true).toList then some (.flag true)
  else if word = (flagText false).toList then some (.flag false)
  else
    let (digits, suffix) := Decimal.spanDigits word
    if digits.isEmpty then some (.named (String.ofList word))
    else if digits ≠ Decimal.digits (Decimal.number digits) then none
    else if suffix = [] then some (.number (Decimal.number digits) false)
    else if suffix = "LL".toList then some (.number (Decimal.number digits) true)
    else none

/-- Reads what stands between two parentheses after the first operand, and the closing one: nothing,
or an operator and a second operand. -/
def readRest (operand : List Char → Option (Term × List Char)) (left : Term) :
    List Char → Option (Term × List Char)
  | ')' :: after => some (left, after)
  | ' ' :: text => do
      let operator ← Operator.ofSymbol? (String.ofList (text.takeWhile (· != ' ')))
      match text.dropWhile (· != ' ') with
      | ' ' :: second =>
          match ← operand second with
          | (right, ')' :: after) => some (.binary operator left right, after)
          | _ => none
      | _ => none
  | _ => none

/-- Reads the operand at the front of a text and gives what follows it. The fuel bounds the depth;
two adjacent minus signs would be an operator of another kind. -/
def readOperand : Nat → List Char → Option (Term × List Char)
  | 0, _ => none
  | fuel + 1, text =>
      match text with
      | '-' :: '-' :: _ => none
      | '-' :: rest => do
          let (operand, after) ← readOperand fuel rest
          return (.negate operand, after)
      | '!' :: rest => do
          let (operand, after) ← readOperand fuel rest
          return (.invert operand, after)
      | '(' :: rest => do
          let (left, after) ← readOperand fuel rest
          readRest (readOperand fuel) left after
      | _ => do
          let term ← ofWord? (text.takeWhile isWordChar)
          return (term, text.dropWhile isWordChar)

def readTerm? (text : String) : Option Term :=
  match readOperand text.toList.length text.toList with
  | some (term, []) => some term
  | _ => none

structure IsVariable (word : String) : Prop where
  nonempty : word ≠ ""
  word_chars : ∀ character ∈ word.toList, isWordChar character = true
  no_digit : ∀ character ∈ word.toList.head?, Decimal.isDigit character = false
  no_sign : ∀ character ∈ word.toList.head?, character ≠ '-' ∧ character ≠ '!'
  not_flag : ∀ flag, word ≠ flagText flag

instance (word : String) : Decidable (IsVariable word) :=
  decidable_of_iff
    (word ≠ "" ∧ word.toList.all isWordChar = true ∧
      word.toList.head?.all (fun first => !Decimal.isDigit first && first != '-' && first != '!') ∧
      word ≠ flagText true ∧ word ≠ flagText false) (by
    simp only [List.all_eq_true, Option.all_eq_true, Bool.and_eq_true, Bool.not_eq_true', bne_iff_ne]
    constructor
    · rintro ⟨nonempty, chars, first, notTrue, notFalse⟩
      exact ⟨nonempty, chars, fun character member => (first character member).1.1,
        fun character member => ⟨(first character member).1.2, (first character member).2⟩,
        fun flag => by cases flag <;> assumption⟩
    · intro named
      exact ⟨named.nonempty, named.word_chars, fun character member =>
        ⟨⟨named.no_digit character member, (named.no_sign character member).1⟩,
          (named.no_sign character member).2⟩, named.not_flag true, named.not_flag false⟩)

theorem is_word_char_of_digit {character : Char} (digit : Decimal.isDigit character = true) :
    isWordChar character = true := by
  have apart (other : Char) (otherwise : Decimal.isDigit other = false) : character ≠ other := by
    rintro rfl
    rw [digit] at otherwise
    cases otherwise
  simp [isWordChar, apart ' ' rfl, apart '(' rfl, apart ')' rfl]

def Stops (rest : List Char) : Prop := ∀ character ∈ rest.head?, isWordChar character = false

theorem stops_nil : Stops [] := by simp [Stops]

theorem stops_cons {character : Char} (rest : List Char) (outside : isWordChar character = false) :
    Stops (character :: rest) := by
  simpa [Stops] using outside

theorem span_digits_append {digits suffix : List Char}
    (all : ∀ character ∈ digits, Decimal.isDigit character = true)
    (stops : ∀ character ∈ suffix.head?, Decimal.isDigit character = false) :
    Decimal.spanDigits (digits ++ suffix) = (digits, suffix) := by
  have spanned := Text.span_append all stops
  rw [Decimal.spanDigits, spanned.1, spanned.2]

theorem of_word_number (magnitude : Nat) (isSuffixed : Bool) :
    ofWord? (Decimal.digits magnitude ++ if isSuffixed then "LL".toList else []) =
      some (.number magnitude isSuffixed) := by
  obtain ⟨digit, rest, shape, isDigit⟩ := Decimal.digits_eq_cons magnitude
  have noFlag (flag : Bool) :
      Decimal.digits magnitude ++ (if isSuffixed then "LL".toList else []) ≠
        (flagText flag).toList := by
    rw [shape]
    intro same
    have initial : digit = 't' ∨ digit = 'f' := by
      cases flag <;> simp [flagText] at same <;> simp [same]
    obtain rfl | rfl := initial <;> cases isDigit
  have spanned : Decimal.spanDigits
      (Decimal.digits magnitude ++ if isSuffixed then "LL".toList else []) =
        (Decimal.digits magnitude, if isSuffixed then "LL".toList else []) := by
    apply span_digits_append (Decimal.digits_are_digits magnitude)
    cases isSuffixed <;> simp [Decimal.isDigit]
  unfold ofWord?
  rw [if_neg (noFlag true), if_neg (noFlag false), spanned]
  have nonempty : (Decimal.digits magnitude).isEmpty = false := by rw [shape]; rfl
  cases isSuffixed <;> simp [nonempty, Decimal.number_digits]

theorem of_word_flag (flag : Bool) : ofWord? (flagText flag).toList = some (.flag flag) := by
  cases flag <;> rfl

theorem of_word_variable {word : String} (named : IsVariable word) :
    ofWord? word.toList = some (.named word) := by
  have empty : (Decimal.spanDigits word.toList).1 = [] := by
    have noDigit := named.no_digit
    unfold Decimal.spanDigits
    cases characters : word.toList with
    | nil => rfl
    | cons first rest =>
        rw [characters] at noDigit
        simp [noDigit first (by simp)]
  unfold ofWord?
  rw [if_neg fun same => named.not_flag true (String.toList_inj.mp same),
    if_neg fun same => named.not_flag false (String.toList_inj.mp same)]
  simp [empty]

theorem read_operand_word {word rest : List Char} {term : Term} (nonempty : word ≠ [])
    (chars : ∀ character ∈ word, isWordChar character = true)
    (noSign : ∀ character ∈ word.head?, character ≠ '-' ∧ character ≠ '!')
    (meaning : ofWord? word = some term) (stops : Stops rest) {fuel : Nat} (positive : 0 < fuel) :
    readOperand fuel (word ++ rest) = some (term, rest) := by
  have taken := Text.span_append chars stops
  obtain ⟨first, others, rfl⟩ := List.exists_cons_of_ne_nil nonempty
  have unsigned := noSign first (by simp)
  have unopened : first ≠ '(' := by
    rintro rfl
    cases chars '(' (by simp)
  obtain ⟨less, rfl⟩ := Nat.exists_eq_add_one_of_ne_zero (Nat.ne_of_gt positive)
  simp only [List.cons_append] at taken ⊢
  rw [readOperand]
  · rw [taken.1, taken.2, meaning]
    rfl
  all_goals simp [unsigned.1, unsigned.2, unopened]

theorem read_operand_negate {fuel : Nat} {text after : List Char} {operand : Term}
    (single : ∀ character ∈ text.head?, character ≠ '-')
    (reads : readOperand fuel text = some (operand, after)) :
    readOperand (fuel + 1) ('-' :: text) = some (.negate operand, after) := by
  rw [readOperand]
  · rw [reads]
    rfl
  · rintro tail ⟨⟩
    exact single '-' (by simp) rfl

theorem read_operand_invert {fuel : Nat} {text after : List Char} {operand : Term}
    (reads : readOperand fuel text = some (operand, after)) :
    readOperand (fuel + 1) ('!' :: text) = some (.invert operand, after) := by
  rw [readOperand, reads]
  rfl

theorem read_operand_group {fuel : Nat} {text after : List Char} {operand : Term}
    (reads : readOperand fuel text = some (operand, ')' :: after)) :
    readOperand (fuel + 1) ('(' :: text) = some (operand, after) := by
  rw [readOperand, reads]
  rfl

theorem read_operand_binary {fuel : Nat} {text second after : List Char} {operator : Operator}
    {left right : Term}
    (readsLeft :
      readOperand fuel text = some (left, ' ' :: (operator.symbol.toList ++ ' ' :: second)))
    (readsRight : readOperand fuel second = some (right, ')' :: after)) :
    readOperand (fuel + 1) ('(' :: text) = some (.binary operator left right, after) := by
  have symbol : (operator.symbol.toList ++ ' ' :: second).takeWhile (· != ' ') =
        operator.symbol.toList ∧
      (operator.symbol.toList ++ ' ' :: second).dropWhile (· != ' ') = ' ' :: second := by
    cases operator <;> simp [Operator.symbol]
  rw [readOperand, readsLeft]
  simp only [Option.bind_eq_bind, Option.bind_some, readRest, symbol, String.ofList_toList,
    Operator.of_symbol_symbol, readsRight]

theorem read_operand_number (magnitude : Nat) (isSuffixed : Bool) {rest : List Char}
    (stops : Stops rest) {fuel : Nat} (positive : 0 < fuel) :
    readOperand fuel ((Decimal.digits magnitude ++ if isSuffixed then "LL".toList else []) ++ rest) =
      some (.number magnitude isSuffixed, rest) := by
  obtain ⟨first, others, shape, initial⟩ := Decimal.digits_eq_cons magnitude
  apply read_operand_word _ _ _ (of_word_number magnitude isSuffixed) stops positive
  · simp [shape]
  · intro character member
    obtain digit | suffix := List.mem_append.mp member
    · exact is_word_char_of_digit (Decimal.digits_are_digits magnitude character digit)
    · cases isSuffixed
      · cases suffix
      · obtain rfl : character = 'L' := by simpa using suffix
        rfl
  · intro character member
    obtain rfl : first = character := by simpa [shape] using member
    constructor <;> rintro rfl <;> cases initial

theorem read_operand_negative (magnitude : Nat) (isSuffixed : Bool) {rest : List Char}
    (stops : Stops rest) {fuel : Nat} (positive : 0 < fuel) :
    readOperand (fuel + 1)
        ('-' :: ((Decimal.digits magnitude ++ if isSuffixed then "LL".toList else []) ++ rest)) =
      some (.negate (.number magnitude isSuffixed), rest) := by
  apply read_operand_negate _ (read_operand_number magnitude isSuffixed stops positive)
  obtain ⟨first, others, shape, initial⟩ := Decimal.digits_eq_cons magnitude
  intro character member
  obtain rfl : first = character := by simpa [shape] using member
  rintro rfl
  cases initial

/-- The least word is written as a difference of two literals. -/
theorem read_operand_least {fuel : Nat} (enough : 3 ≤ fuel) (rest : List Char) :
    readOperand fuel ("(-9223372036854775807LL - 1)".toList ++ rest) =
      some (.binary .sub (.negate (.number 9223372036854775807 true)) (.number 1 false), rest) := by
  obtain ⟨less, rfl⟩ := Nat.exists_eq_add_of_le' enough
  have parts : "(-9223372036854775807LL - 1)".toList ++ rest =
      '(' :: '-' :: (Decimal.digits 9223372036854775807 ++ "LL".toList ++
        ' ' :: (Operator.sub.symbol.toList ++ ' ' :: (Decimal.digits 1 ++ ')' :: rest))) := by
    have greatest : Decimal.digits 9223372036854775807 = "9223372036854775807".toList := by decide
    have one : Decimal.digits 1 = "1".toList := by decide
    rw [greatest, one]
    simp [Operator.symbol]
  have subtrahend := read_operand_number 1 false
    (stops_cons rest (by decide : isWordChar ')' = false)) (Nat.succ_pos (less + 1))
  rw [parts]
  apply read_operand_binary
  · exact read_operand_negative _ true (stops_cons _ (by decide)) (Nat.succ_pos less)
  · simpa using subtrahend

theorem read_operand_flag (flag : Bool) {rest : List Char} (stops : Stops rest) {fuel : Nat}
    (positive : 0 < fuel) :
    readOperand fuel ((flagText flag).toList ++ rest) = some (.flag flag, rest) := by
  apply read_operand_word _ _ _ (of_word_flag flag) stops positive
  · cases flag <;> simp [flagText]
  · cases flag <;> simp [flagText] <;> decide
  · cases flag <;> simp [flagText]

theorem read_operand_value (value : Value) {fuel : Nat} (enough : value.cpp.toList.length ≤ fuel)
    {rest : List Char} (stops : Stops rest) :
    readOperand fuel (value.cpp.toList ++ rest) = some (value.term, rest) := by
  cases value with
  | bool flag =>
      exact read_operand_flag flag stops (Nat.lt_of_lt_of_le (by cases flag <;> decide) enough)
  | int word =>
      simp only [Value.cpp, Value.term] at enough ⊢
      split
      · next lowest =>
          rw [if_pos lowest] at enough
          exact read_operand_least (Nat.le_trans (by decide) enough) rest
      · next higher =>
          rw [if_neg higher] at enough
          split
          · next negative =>
              rw [if_pos negative] at enough
              have text := Word.negative_text negative
              have parts : ("(" ++ word.text ++ ")").toList ++ rest =
                  '(' :: '-' :: (Decimal.digits word.val.natAbs ++ ')' :: rest) := by
                simp [text]
              obtain ⟨less, rfl⟩ : ∃ less, fuel = less + 3 :=
                Nat.exists_eq_add_of_le' (by simp [text] at enough; omega)
              rw [parts]
              apply read_operand_group
              simpa using read_operand_negative word.val.natAbs false
                (stops_cons rest (by decide : isWordChar ')' = false)) (Nat.succ_pos less)
          · next natural =>
              rw [if_neg natural] at enough
              rw [Word.natural_text (Int.not_lt.mp natural)] at enough ⊢
              obtain ⟨first, others, shape, _⟩ := Decimal.digits_eq_cons word.val.toNat
              have positive : 0 < fuel := by simp [shape] at enough; omega
              simpa using read_operand_number word.val.toNat false stops positive

end Cpp

namespace Expr

open Cpp

/-- Only a literal could start with a minus sign, and a negative one stands in parentheses. -/
theorem cpp_no_minus {path : String} (expr : Expr)
    (nameable : ∀ name ∈ expr.references, IsVariable (path ++ name)) (rest : List Char) :
    ∀ character ∈ ((expr.cpp path).toList ++ rest).head?, character ≠ '-' := by
  cases expr with
  | literal value =>
      cases value with
      | bool flag => cases flag <;> simp [cpp, Value.cpp, flagText]
      | int word =>
          simp only [cpp, Value.cpp]
          split
          · simp
          · split
            · simp
            · next natural =>
                obtain ⟨first, others, shape, digit⟩ := Decimal.digits_eq_cons word.val.toNat
                rw [Word.natural_text (Int.not_lt.mp natural), shape]
                rintro character ⟨⟩ rfl
                cases digit
  | reference name =>
      have named := nameable name (by simp [references])
      simp only [cpp]
      intro character member
      cases characters : (path ++ name).toList with
      | nil => exact absurd (String.toList_eq_nil_iff.mp characters) named.nonempty
      | cons first others =>
          have initial := named.no_sign first (by simp [characters])
          rw [characters] at member
          cases member
          exact initial.1
  | binary operator left right => simp [cpp]
  | negate operand => simp [cpp]
  | not operand => simp [cpp]
  | group inner => simp [cpp]

/-- Fuel for a text in parentheses is fuel for what they hold. -/
theorem fuel_inside {opening inner text : List Char} {fuel : Nat}
    (parts : text = opening ++ (inner ++ [')'])) (enough : text.length ≤ fuel) :
    ∃ less, fuel = less + opening.length ∧ inner.length ≤ less := by
  rw [parts, List.length_append, List.length_append] at enough
  exact ⟨fuel - opening.length, by omega, by omega⟩

theorem read_operand_cpp (path : String) {expr : Expr}
    (nameable : ∀ name ∈ expr.references, IsVariable (path ++ name)) {fuel : Nat}
    (enough : (expr.cpp path).toList.length ≤ fuel) {rest : List Char} (stops : Stops rest) :
    Cpp.readOperand fuel ((expr.cpp path).toList ++ rest) = some (expr.term path, rest) := by
  have closing (after : List Char) : Stops (')' :: after) := stops_cons after (by decide)
  have blank (after : List Char) : Stops (' ' :: after) := stops_cons after (by decide)
  -- Every step of the reader takes a character, so the length of the text is fuel enough.
  induction expr generalizing fuel rest with
  | literal value => exact read_operand_value value enough stops
  | reference name =>
      have named := nameable name (by simp [references])
      have nonempty : (path ++ name).toList ≠ [] :=
        fun empty => named.nonempty (String.toList_eq_nil_iff.mp empty)
      exact read_operand_word nonempty named.word_chars named.no_sign (of_word_variable named) stops
        (Nat.lt_of_lt_of_le (List.length_pos_iff.mpr nonempty) enough)
  | binary operator left right leftInduction rightInduction =>
      have parts : ((binary operator left right).cpp path).toList ++ rest =
          '(' :: ((left.cpp path).toList ++ ' ' :: (operator.symbol.toList ++
            ' ' :: ((right.cpp path).toList ++ ')' :: rest))) := by
        simp [cpp]
      have size := congrArg List.length parts
      simp only [List.length_append, List.length_cons] at size
      obtain ⟨less, rfl⟩ : ∃ less, fuel = less + 1 :=
        Nat.exists_eq_add_of_le' (by omega)
      rw [parts]
      apply read_operand_binary
      · exact leftInduction (fun name member => nameable name (List.mem_append_left _ member))
          (by omega) (blank _)
      · exact rightInduction (fun name member => nameable name (List.mem_append_right _ member))
          (by omega) (closing rest)
  | negate operand induction =>
      have parts : ((negate operand).cpp path).toList =
          ['(', '-'] ++ ((operand.cpp path).toList ++ [')']) := by
        simp [cpp]
      obtain ⟨less, rfl, inside⟩ := fuel_inside parts enough
      rw [parts, List.append_assoc, List.append_assoc]
      apply read_operand_group
      apply read_operand_negate (cpp_no_minus operand nameable _)
      exact induction nameable inside (closing rest)
  | not operand induction =>
      have parts : ((not operand).cpp path).toList =
          ['(', '!'] ++ ((operand.cpp path).toList ++ [')']) := by
        simp [cpp]
      obtain ⟨less, rfl, inside⟩ := fuel_inside parts enough
      rw [parts, List.append_assoc, List.append_assoc]
      apply read_operand_group
      apply read_operand_invert
      exact induction nameable inside (closing rest)
  | group inner induction =>
      have parts : ((group inner).cpp path).toList =
          ['('] ++ ((inner.cpp path).toList ++ [')']) := by
        simp [cpp]
      obtain ⟨less, rfl, inside⟩ := fuel_inside parts enough
      rw [parts, List.append_assoc, List.append_assoc]
      apply read_operand_group
      exact induction nameable inside (closing rest)

/-- An expression reads as its term, whatever it means. -/
theorem read_cpp (path : String) {expr : Expr}
    (nameable : ∀ name ∈ expr.references, IsVariable (path ++ name)) :
    readTerm? (expr.cpp path) = some (expr.term path) := by
  have reads := read_operand_cpp path nameable (Nat.le_refl _) stops_nil
  rw [List.append_nil] at reads
  rw [readTerm?, reads]

end Expr

end StateMachine
