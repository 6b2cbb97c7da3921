import StateMachine.Cpp.Statement
import StateMachine.Expr.Eval
import StateMachine.Proofs.Expr.Grammar
import StateMachine.Proofs.Sequence

/-!
The parentheses of generated expressions fix their structure: read as an expression again, the text
gives back what was meant, however the operators were nested.
-/

set_option autoImplicit false

namespace StateMachine

namespace Word

theorem least_le_greatest : (-9223372036854775808 : Int) ≤ 9223372036854775807 := by decide

def least : Word := ⟨-9223372036854775808, Int.le_refl _, least_le_greatest⟩

def opposite? (word : Word) : Option Word :=
  if word.val < 0 then ofInt? (-word.val) else none

theorem opposite_eq_some {word opposite : Word} (found : word.opposite? = some opposite) :
    word.val < 0 ∧ opposite.val = -word.val := by
  unfold opposite? at found
  split at found
  · next negative => exact ⟨negative, of_int_eq_some_iff.mp found⟩
  · cases found

theorem natural_of_opposite_eq_none {word : Word} (greater : word ≠ least)
    (missing : word.opposite? = none) : 0 ≤ word.val := by
  unfold opposite? at missing
  split at missing
  · have different : word.val ≠ -9223372036854775808 := fun same => greater (val_injective same)
    have upper := word.le_greatest
    have lower := word.least_le
    obtain tooSmall | tooGreat := of_int_eq_none_iff.mp missing <;> omega
  · next natural => exact Int.not_lt.mp natural

end Word

namespace Expr

def integers : Expr → List Word
  | .literal (.int word) => [word]
  | .literal (.bool _) | .reference _ => []
  | .binary _ left right => left.integers ++ right.integers
  | .negate operand | .not operand => operand.integers
  | .group inner => inner.integers

def ungrouped : Expr → Expr
  | .literal value => .literal value
  | .reference name => .reference name
  | .binary operator left right => .binary operator left.ungrouped right.ungrouped
  | .negate operand => .negate operand.ungrouped
  | .not operand => .not operand.ungrouped
  | .group inner => inner.ungrouped

/-- The expression with each negative constant as the negation of its opposite. -/
def unsigned : Expr → Expr
  | .literal (.int word) =>
      match word.opposite? with
      | some opposite => .negate (.literal (.int opposite))
      | none => .literal (.int word)
  | .literal (.bool flag) => .literal (.bool flag)
  | .reference name => .reference name
  | .binary operator left right => .binary operator left.unsigned right.unsigned
  | .negate operand => .negate operand.unsigned
  | .not operand => .not operand.unsigned
  | .group inner => .group inner.unsigned

/-- The expression with a group around every operator and every negative constant. -/
def enclosed : Expr → Expr
  | .literal (.int word) =>
      match word.opposite? with
      | some opposite => .group (.negate (.literal (.int opposite)))
      | none => .literal (.int word)
  | .literal (.bool flag) => .literal (.bool flag)
  | .reference name => .reference name
  | .binary operator left right => .group (.binary operator left.enclosed right.enclosed)
  | .negate operand => .group (.negate operand.enclosed)
  | .not operand => .group (.not operand.enclosed)
  | .group inner => .group inner.enclosed

theorem evaluate_ungrouped (environment : Environment) (expr : Expr) :
    expr.ungrouped.evaluate environment = expr.evaluate environment := by
  induction expr with
  | literal value => rfl
  | reference name => rfl
  | binary operator left right leftInduction rightInduction =>
      simp only [ungrouped, evaluate, leftInduction, rightInduction]
  | negate operand induction => simp only [ungrouped, evaluate, induction]
  | not operand induction => simp only [ungrouped, evaluate, induction]
  | group inner induction => exact induction

/-- The opposite of a negative constant is negated without overflow. -/
theorem evaluate_unsigned (environment : Environment) (expr : Expr) :
    expr.unsigned.evaluate environment = expr.evaluate environment := by
  induction expr with
  | literal value =>
      cases value with
      | bool flag => rfl
      | int word =>
          rw [unsigned]
          split
          · next opposite found =>
              have back : -opposite.val = word.val := by
                rw [(Word.opposite_eq_some found).2, Int.neg_neg]
              simp only [evaluate, ok_bind, Value.negate, Step.exact, back, Word.of_int_val]
          · rfl
  | reference name => rfl
  | binary operator left right leftInduction rightInduction =>
      simp only [unsigned, evaluate, leftInduction, rightInduction]
  | negate operand induction => simp only [unsigned, evaluate, induction]
  | not operand induction => simp only [unsigned, evaluate, induction]
  | group inner induction => exact induction

theorem enclosed_ungrouped (expr : Expr) : expr.enclosed.ungrouped = expr.ungrouped.unsigned := by
  induction expr with
  | literal value =>
      cases value with
      | bool flag => rfl
      | int word =>
          simp only [enclosed, ungrouped, unsigned]
          split <;> rfl
  | reference name => rfl
  | binary operator left right leftInduction rightInduction =>
      simp only [enclosed, ungrouped, unsigned, leftInduction, rightInduction]
  | negate operand induction => simp only [enclosed, ungrouped, unsigned, induction]
  | not operand induction => simp only [enclosed, ungrouped, unsigned, induction]
  | group inner induction => exact induction

theorem enclosed_binding (expr : Expr) : expr.enclosed.binding = 7 := by
  cases expr with
  | literal value =>
      cases value with
      | bool flag => rfl
      | int word =>
          rw [enclosed]
          split <;> rfl
  | reference _ | binary _ _ _ | negate _ | not _ | group _ => rfl

theorem enclosed_stratified {expr : Expr} (named : ∀ name ∈ expr.references, IsName name)
    (greater : ∀ word ∈ expr.integers, word ≠ Word.least) : expr.enclosed.Stratified := by
  induction expr with
  | literal value =>
      cases value with
      | bool flag => trivial
      | int word =>
          rw [enclosed]
          split
          · next opposite found =>
              obtain ⟨negative, same⟩ := Word.opposite_eq_some found
              have natural : 0 ≤ opposite.val := by omega
              exact ⟨Nat.le_succ 6, natural⟩
          · next missing =>
              exact Word.natural_of_opposite_eq_none (greater word (by simp [integers])) missing
  | reference name => exact named name (by simp [references])
  | binary operator left right leftInduction rightInduction =>
      have stratifiedLeft := leftInduction
        (fun name member => named name (List.mem_append_left _ member))
        (fun word member => greater word (List.mem_append_left _ member))
      have stratifiedRight := rightInduction
        (fun name member => named name (List.mem_append_right _ member))
        (fun word member => greater word (List.mem_append_right _ member))
      have loose := Nat.lt_succ_of_lt operator.level_lt_prefix
      refine ⟨?_, ?_, stratifiedLeft, stratifiedRight⟩
      · rw [enclosed_binding]
        exact Nat.le_of_lt loose
      · rw [enclosed_binding]
        exact loose
  | negate operand induction =>
      exact ⟨enclosed_binding operand ▸ Nat.le_succ 6, induction named greater⟩
  | not operand induction =>
      exact ⟨enclosed_binding operand ▸ Nat.le_succ 6, induction named greater⟩
  | group inner induction => exact induction named greater

theorem spaced_group {inner : Expr} {tokens : List Token} {text : List Char}
    (spelled : Spelled inner tokens) (spaced : Spaced tokens text) :
    Spelled (.group inner) (.opening :: (tokens ++ [.closing])) ∧
      Spaced (.opening :: (tokens ++ [.closing])) ('(' :: (text ++ [')'])) :=
  ⟨.group spelled, (spaced.append (.singleton .closing)).cons .opening⟩

/-- A constant other than the least one spells itself or the negation of its opposite. -/
theorem constant_spaced {word : Word} (greater : word ≠ Word.least) :
    ∃ tokens, Spelled (enclosed (.literal (.int word))) tokens ∧
      Spaced tokens (Value.cpp (.int word)).toList := by
  have different : word.val ≠ -9223372036854775808 :=
    fun same => greater (Word.val_injective same)
  rw [enclosed]
  split
  · next opposite found =>
      obtain ⟨negative, same⟩ := Word.opposite_eq_some found
      have magnitude : (word.val.natAbs : Int) = opposite.val := by omega
      have spelled := digits_spelled magnitude
      have spaced := (Spaced.singleton (.number (Decimal.digits word.val.natAbs))).cons
        (.operator .sub)
      obtain ⟨grouped, spacedGroup⟩ := spaced_group (.negate spelled) spaced
      refine ⟨_, grouped, ?_⟩
      rw [Value.cpp, if_neg different, if_pos negative]
      simpa [Word.negative_text negative, Token.text, Operator.symbol] using spacedGroup
  · next missing =>
      have natural := Word.natural_of_opposite_eq_none greater missing
      refine ⟨_, digits_spelled (Int.toNat_of_nonneg natural), ?_⟩
      rw [Value.cpp, if_neg different, if_neg (Int.not_lt.mpr natural), Word.natural_text natural]
      exact .singleton _

theorem cpp_spaced {expr : Expr} (greater : ∀ word ∈ expr.integers, word ≠ Word.least) :
    ∃ tokens, Spelled expr.enclosed tokens ∧ Spaced tokens (expr.cpp "").toList := by
  induction expr with
  | literal value =>
      cases value with
      | bool flag => exact ⟨_, .flag flag, .singleton _⟩
      | int word => exact constant_spaced (greater word (by simp [integers]))
  | reference name =>
      refine ⟨_, .reference name, ?_⟩
      rw [cpp, String.empty_append]
      exact .singleton _
  | binary operator left right leftInduction rightInduction =>
      obtain ⟨first, spelledLeft, spacedLeft⟩ :=
        leftInduction fun word member => greater word (List.mem_append_left _ member)
      obtain ⟨second, spelledRight, spacedRight⟩ :=
        rightInduction fun word member => greater word (List.mem_append_right _ member)
      have blank : ∀ character ∈ [' '], Text.isWhite character = true := by simp; decide
      have following := ((spacedRight.gap blank).cons (.operator operator)).gap blank
      obtain ⟨spelled, spaced⟩ :=
        spaced_group (.binary spelledLeft spelledRight) (spacedLeft.append following)
      exact ⟨_, spelled, by simpa [cpp, Token.text] using spaced⟩
  | negate operand induction =>
      obtain ⟨tokens, spelled, spaced⟩ := induction greater
      obtain ⟨grouped, spacedGroup⟩ :=
        spaced_group (.negate spelled) (spaced.cons (.operator .sub))
      exact ⟨_, grouped, by simpa [cpp, Token.text, Operator.symbol] using spacedGroup⟩
  | not operand induction =>
      obtain ⟨tokens, spelled, spaced⟩ := induction greater
      obtain ⟨grouped, spacedGroup⟩ := spaced_group (.not spelled) (spaced.cons .bang)
      exact ⟨_, grouped, by simpa [cpp, Token.text] using spacedGroup⟩
  | group inner induction =>
      obtain ⟨tokens, spelled, spaced⟩ := induction greater
      obtain ⟨grouped, spacedGroup⟩ := spaced_group spelled spaced
      exact ⟨_, grouped, by simpa [cpp] using spacedGroup⟩

theorem parse_cpp {expr : Expr} (named : ∀ name ∈ expr.references, IsName name)
    (greater : ∀ word ∈ expr.integers, word ≠ Word.least) :
    parse (expr.cpp "") = .ok expr.enclosed := by
  obtain ⟨tokens, spelled, spaced⟩ := cpp_spaced greater
  exact parse_of_spelled (enclosed_stratified named greater) spelled spaced

theorem evaluate_enclosed (environment : Environment) (expr : Expr) :
    expr.enclosed.evaluate environment = expr.evaluate environment := by
  calc expr.enclosed.evaluate environment
      = expr.enclosed.ungrouped.evaluate environment := (evaluate_ungrouped _ _).symm
    _ = expr.ungrouped.unsigned.evaluate environment := by rw [enclosed_ungrouped]
    _ = expr.evaluate environment := by rw [evaluate_unsigned, evaluate_ungrouped]

def leastText (suffix : String) : String := "(-9223372036854775807" ++ suffix ++ " - 1)"

theorem cpp_least (path : String) : (literal (.int Word.least)).cpp path = leastText "LL" := rfl

def leastDifference : Expr :=
  .group (.binary .sub (.negate (.literal (.int ⟨-(Word.least.val + 1), by decide, by decide⟩)))
    (.literal (.int ⟨1, by decide, by decide⟩)))

theorem parse_least : parse (leastText "") = .ok leastDifference := by
  decide +kernel

/-- Generated text reads as an expression of the shape that was meant, whatever that is: without
groups, and with negative constants written as negations, the two are the same, and so they evaluate
alike. The least word is written as a difference, which evaluates to it once the suffix of its
literal is dropped. -/
theorem generated_text_keeps_shape :
    (∀ expr : Expr, (∀ name ∈ expr.references, IsName name) →
      (∀ word ∈ expr.integers, word ≠ Word.least) →
      ∃ read, parse (expr.cpp "") = .ok read ∧ read.ungrouped = expr.ungrouped.unsigned ∧
        ∀ environment, read.evaluate environment = expr.evaluate environment) ∧
    (literal (.int Word.least)).cpp "" = leastText "LL" ∧
    ∃ read, parse (leastText "") = .ok read ∧
      ∀ environment, read.evaluate environment = .ok (.int Word.least) := by
  refine ⟨?_, cpp_least "", leastDifference, parse_least, fun environment => rfl⟩
  intro expr named greater
  refine ⟨expr.enclosed, parse_cpp named greater, enclosed_ungrouped expr, ?_⟩
  intro environment
  exact evaluate_enclosed environment expr

/-- A tree that its own text would not show: a product of a negative number and a sum, subtracted
from the right. -/
def tangledExpr : Expr :=
  .binary .sub (.reference "total")
    (.binary .sub
      (.binary .mul (.literal (.int ⟨-5, by decide, by decide⟩))
        (.binary .add (.reference "größe") (.literal (.int ⟨2, by decide, by decide⟩))))
      (.negate (.negate (.literal (.int ⟨-7, by decide, by decide⟩)))))

theorem tangled_keeps_shape :
    (∀ name ∈ tangledExpr.references, IsName name) ∧
      (∀ word ∈ tangledExpr.integers, word ≠ Word.least) ∧
      ∃ read, parse (tangledExpr.cpp "") = .ok read ∧
        read.ungrouped = tangledExpr.ungrouped.unsigned ∧
        ∀ environment, read.evaluate environment = tangledExpr.evaluate environment := by
  have named : ∀ name ∈ tangledExpr.references, IsName name := by decide +kernel
  have greater : ∀ word ∈ tangledExpr.integers, word ≠ Word.least := by decide
  exact ⟨named, greater, generated_text_keeps_shape.1 tangledExpr named greater⟩

end Expr

end StateMachine
