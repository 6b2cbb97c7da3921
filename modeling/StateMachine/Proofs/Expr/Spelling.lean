import StateMachine.Expr.Parser
import StateMachine.Proofs.Expr.Spacing

/-!
The grammar of expressions: which trees a text without further parentheses can stand for, and the
tokens that spell them. The tokens of an expression never run into each other.
-/

set_option autoImplicit false

namespace StateMachine

/-- A name as expressions can mention it: a word other than the two truth values. -/
structure IsName (name : String) : Prop where
  word : (Token.word name.toList).WellFormed
  not_true : name ≠ "true"
  not_false : name ≠ "false"

instance (name : String) : Decidable (IsName name) :=
  decidable_of_iff
    ((Token.word name.toList).WellFormed ∧ name ≠ "true" ∧ name ≠ "false")
    ⟨fun ⟨word, notTrue, notFalse⟩ => ⟨word, notTrue, notFalse⟩,
      fun named => ⟨named.word, named.not_true, named.not_false⟩⟩

namespace Expr

/-- How tightly an expression binds: prefix operators bind tighter than all binary ones, and
constants, references and groups are the tightest. -/
def binding : Expr → Nat
  | .binary operator _ _ => operator.level
  | .negate _ | .not _ => 6
  | .literal _ | .reference _ | .group _ => 7

/-- Trees that show their shape without more parentheses than they have. A left operand binds at
least as tightly as its operator and a right operand tighter; prefix operators apply to prefix
operators and to what binds tightest. Numbers have no sign of their own. -/
def Stratified : Expr → Prop
  | .literal (.int word) => 0 ≤ word.val
  | .literal (.bool _) => True
  | .reference name => IsName name
  | .binary operator left right =>
      operator.level ≤ left.binding ∧ operator.level < right.binding ∧
        left.Stratified ∧ right.Stratified
  | .negate operand | .not operand => 6 ≤ operand.binding ∧ operand.Stratified
  | .group inner => inner.Stratified

instance decidableStratified : (expr : Expr) → Decidable expr.Stratified
  | .literal (.int word) => inferInstanceAs (Decidable (0 ≤ word.val))
  | .literal (.bool _) => .isTrue trivial
  | .reference name => inferInstanceAs (Decidable (IsName name))
  | .binary _ left right =>
      have := decidableStratified left
      have := decidableStratified right
      inferInstanceAs (Decidable (_ ≤ _ ∧ _ < _ ∧ left.Stratified ∧ right.Stratified))
  | .negate operand | .not operand =>
      have := decidableStratified operand
      inferInstanceAs (Decidable (6 ≤ operand.binding ∧ operand.Stratified))
  | .group inner => decidableStratified inner

/-- The tokens of an expression in order. A number may be spelled with any digits of its value. -/
inductive Spelled : Expr → List Token → Prop
  | number {digits : List Char} {word : Word} (nonempty : digits ≠ [])
      (all : ∀ digit ∈ digits, Decimal.isDigit digit = true)
      (value : (Decimal.number digits : Int) = word.val) :
      Spelled (.literal (.int word)) [.number digits]
  | flag (flag : Bool) : Spelled (.literal (.bool flag)) [.word (flagText flag).toList]
  | reference (name : String) : Spelled (.reference name) [.word name.toList]
  | binary {operator : Operator} {left right : Expr} {first second : List Token}
      (spelledLeft : Spelled left first) (spelledRight : Spelled right second) :
      Spelled (.binary operator left right) (first ++ .operator operator :: second)
  | negate {operand : Expr} {tokens : List Token} (spelled : Spelled operand tokens) :
      Spelled (.negate operand) (.operator .sub :: tokens)
  | not {operand : Expr} {tokens : List Token} (spelled : Spelled operand tokens) :
      Spelled (.not operand) (.bang :: tokens)
  | group {inner : Expr} {tokens : List Token} (spelled : Spelled inner tokens) :
      Spelled (.group inner) (.opening :: (tokens ++ [.closing]))

end Expr

theorem Operator.level_lt_prefix (operator : Operator) : operator.level < 6 := by
  cases operator <;> decide

namespace Token

def Begins : Token → Prop
  | .number _ | .word _ | .opening | .bang | .operator .sub => True
  | _ => False

def Ends : Token → Prop
  | .number _ | .word _ | .closing => True
  | _ => False

/-- What can come after this token: an operand goes on with an operator or the end of its group,
and everything else asks for an operand. -/
def Precedes (token next : Token) : Prop :=
  (token.Ends ∧ (next = .closing ∨ ∃ known, next = .operator known)) ∨
    (¬ token.Ends ∧ next.Begins)

theorem flag_well_formed (flag : Bool) : (Token.word (flagText flag).toList).WellFormed := by
  cases flag <;> decide

theorem eq_of_is_continued {token : Token} (unended : ¬ token.Ends) {character : Char}
    (continued : token.isContinuedBy character = true) : character = '=' := by
  unfold isContinuedBy at continued
  split at continued
  case h_1 | h_2 => exact absurd trivial unended
  case h_6 => cases continued
  all_goals exact beq_iff_eq.mp continued

theorem begins_apart {token next : Token} (formed : next.WellFormed) (unended : ¬ token.Ends)
    (begins : next.Begins) : token.Apart next := by
  intro character member
  rw [← Bool.not_eq_true]
  intro continued
  obtain rfl := eq_of_is_continued unended continued
  cases next with
  | number digits => exact absurd (formed.2 _ (List.mem_of_mem_head? member)) (by decide)
  | word name =>
      cases name with
      | nil => exact formed
      | cons first others =>
          obtain rfl : first = '=' := Option.some.inj member
          exact absurd formed.1 (by decide)
  | operator known => cases known <;> first | exact begins | exact absurd member (by decide)
  | opening | bang => exact absurd member (by decide)
  | closing | unknown _ => exact begins

theorem closes_words {next : Token} (closes : next = .closing ∨ ∃ known, next = .operator known) :
    (next.text.head?.all fun character =>
      !Decimal.isDigit character && !continuesWord character) = true := by
  obtain rfl | ⟨known, rfl⟩ := closes
  · decide
  · cases known <;> decide

theorem ended_apart {token next : Token} (ends : token.Ends)
    (closes : next = .closing ∨ ∃ known, next = .operator known) : token.Apart next := by
  intro character member
  have unspoken := (Option.all_eq_true _ _).mp (closes_words closes) character member
  obtain ⟨noDigit, noWord⟩ := Bool.and_eq_true_iff.mp unspoken
  cases token with
  | number digits => exact Bool.not_eq_true' _ ▸ noDigit
  | word name => exact Bool.not_eq_true' _ ▸ noWord
  | closing => rfl
  | _ => exact ends.elim

theorem Precedes.apart {token next : Token} (formed : next.WellFormed)
    (precedes : token.Precedes next) : token.Apart next := by
  obtain ⟨ends, closes⟩ | ⟨unended, begins⟩ := precedes
  · exact ended_apart ends closes
  · exact begins_apart formed unended begins

end Token

namespace Expr

theorem digits_spelled {word : Word} {magnitude : Nat} (value : (magnitude : Int) = word.val) :
    Spelled (.literal (.int word)) [.number (Decimal.digits magnitude)] := by
  obtain ⟨first, rest, shape, _⟩ := Decimal.digits_eq_cons magnitude
  refine .number (by simp [shape]) (Decimal.digits_are_digits magnitude) ?_
  rw [Decimal.number_digits]
  exact value

structure Operand (tokens : List Token) : Prop where
  formed : ∀ token ∈ tokens, token.WellFormed
  begins : ∃ first ∈ tokens.head?, first.Begins
  ends : ∃ last ∈ tokens.getLast?, last.Ends
  linked : tokens.IsChain Token.Precedes

theorem operand_singleton {token : Token} (formed : token.WellFormed) (begins : token.Begins)
    (ends : token.Ends) : Operand [token] where
  formed := by simpa using formed
  begins := ⟨token, rfl, begins⟩
  ends := ⟨token, rfl, ends⟩
  linked := .singleton token

theorem Operand.ends_cons (token : Token) {tokens : List Token} (operand : Operand tokens) :
    ∃ last ∈ (token :: tokens).getLast?, last.Ends := by
  obtain ⟨last, member, ends⟩ := operand.ends
  refine ⟨last, ?_, ends⟩
  rw [List.getLast?_cons, Option.mem_def, member]
  rfl

theorem Operand.linked_cons {token : Token} {tokens : List Token} (unended : ¬ token.Ends)
    (operand : Operand tokens) : (token :: tokens).IsChain Token.Precedes := by
  refine operand.linked.cons ?_
  intro next member
  obtain ⟨first, firstMember, begins⟩ := operand.begins
  obtain rfl := Option.mem_unique member firstMember
  exact Or.inr ⟨unended, begins⟩

theorem Operand.cons {token : Token} {tokens : List Token} (formed : token.WellFormed)
    (begins : token.Begins) (unended : ¬ token.Ends) (operand : Operand tokens) :
    Operand (token :: tokens) where
  formed := List.forall_mem_cons.mpr ⟨formed, operand.formed⟩
  begins := ⟨token, rfl, begins⟩
  ends := operand.ends_cons token
  linked := operand.linked_cons unended

theorem Operand.append {first rest : List Token} {next : Token} (operand : Operand first)
    (goesOn : next = .closing ∨ ∃ known, next = .operator known)
    (formed : ∀ token ∈ next :: rest, token.WellFormed)
    (ends : ∃ last ∈ (next :: rest).getLast?, last.Ends)
    (linked : (next :: rest).IsChain Token.Precedes) : Operand (first ++ next :: rest) where
  formed := List.forall_mem_append.mpr ⟨operand.formed, formed⟩
  begins := by
    obtain ⟨initial, member, begins⟩ := operand.begins
    refine ⟨initial, ?_, begins⟩
    rw [List.head?_append, Option.mem_def, member]
    rfl
  ends := by
    obtain ⟨last, member, ends⟩ := ends
    refine ⟨last, ?_, ends⟩
    rw [List.getLast?_append, Option.mem_def, member]
    rfl
  linked := by
    refine operand.linked.append linked ?_
    rintro token member _ ⟨⟩
    obtain ⟨last, lastMember, lastEnds⟩ := operand.ends
    obtain rfl := Option.mem_unique member lastMember
    exact Or.inl ⟨lastEnds, goesOn⟩

theorem Spelled.operand {expr : Expr} {tokens : List Token} (spelled : Spelled expr tokens)
    (stratified : expr.Stratified) : Operand tokens := by
  induction spelled with
  | number nonempty all value => exact operand_singleton ⟨nonempty, all⟩ trivial trivial
  | flag flag => exact operand_singleton (Token.flag_well_formed flag) trivial trivial
  | reference name => exact operand_singleton stratified.word trivial trivial
  | negate spelled induction => exact (induction stratified.2).cons trivial trivial id
  | not spelled induction => exact (induction stratified.2).cons trivial trivial id
  | group spelled induction =>
      have closed := (induction stratified).append (Or.inl rfl) (by simp [Token.WellFormed])
        ⟨.closing, rfl, trivial⟩ (.singleton _)
      exact closed.cons trivial trivial id
  | binary spelledLeft spelledRight leftInduction rightInduction =>
      obtain ⟨-, -, stratifiedLeft, stratifiedRight⟩ := stratified
      have right := rightInduction stratifiedRight
      exact (leftInduction stratifiedLeft).append (Or.inr ⟨_, rfl⟩)
        (List.forall_mem_cons.mpr ⟨trivial, right.formed⟩) (right.ends_cons _)
        (right.linked_cons id)

theorem Spelled.lexemes_eq {expr : Expr} {tokens : List Token} (spelled : Spelled expr tokens)
    (stratified : expr.Stratified) {text : List Char} (spaced : Spaced tokens text) :
    (lexemes text).map Lexeme.token = tokens := by
  have operand := spelled.operand stratified
  refine lexemes_of_spaced spaced operand.formed ?_
  refine operand.linked.imp_of_mem_imp ?_
  intro token next _ member precedes
  exact precedes.apart (operand.formed next member)

end Expr

end StateMachine
