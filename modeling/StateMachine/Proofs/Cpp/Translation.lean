import StateMachine.Proofs.Cpp.Term
import StateMachine.Proofs.Expr.Typing

/-!
An expression and its C++ term. The term computes at the widths that its literals give it, so it has
the value of the expression wherever no 32-bit step on the way exceeds its width, and no value
otherwise.
-/

set_option autoImplicit false

namespace StateMachine

open Cpp

def Value.term : Value → Term
  | .bool flag => .flag flag
  | .int word =>
      if word.val = -9223372036854775808 then
        .binary .sub (.negate (.number 9223372036854775807 true)) (.number 1 false)
      else if word.val < 0 then .negate (.number word.val.natAbs false)
      else .number word.val.toNat false

def Value.width : Value → Width
  | .bool _ => .wide
  | .int word => Width.ofMagnitude word.val.natAbs

namespace Expr

def term (path : String) : Expr → Term
  | .literal value => value.term
  | .reference name => .named (path ++ name)
  | .binary operator left right => .binary operator (left.term path) (right.term path)
  | .negate operand => .negate (operand.term path)
  | .not operand => .invert (operand.term path)
  | .group inner => inner.term path

/-- The width at which C++ computes an integer: 64 bits as soon as an attribute or a greater literal
takes part. -/
def width : Expr → Width
  | .literal value => value.width
  | .reference _ => .wide
  | .binary _ left right => left.width.join right.width
  | .negate operand | .not operand => operand.width
  | .group inner => inner.width

def FitsWidth (environment : Environment) (expr : Expr) : Prop :=
  ∀ word, expr.evaluate environment = .ok (.int word) → expr.width.Fits word.val

/-- Every integer that C++ computes on the way fits its width. The right operand of a logical
operator counts only when the left one has left the result open. -/
def StaysInWidth (environment : Environment) : Expr → Prop
  | .literal _ | .reference _ => True
  | .binary operator left right =>
      left.StaysInWidth environment ∧
        ((∃ flag, left.evaluate environment = .ok (.bool flag) ∧ isDecidedBy operator flag) ∨
          right.StaysInWidth environment ∧ (binary operator left right).FitsWidth environment)
  | .negate operand =>
      operand.StaysInWidth environment ∧ (negate operand).FitsWidth environment
  | .not operand => operand.StaysInWidth environment
  | .group inner => inner.StaysInWidth environment

end Expr

def Value.computed (width : Width) : Value → Option Quantity
  | .bool flag => some (.flag flag)
  | .int word => width.exact word.val

theorem Width.exact_eq_some_iff {width : Width} {result : Int} {quantity : Quantity} :
    width.exact result = some quantity ↔ width.Fits result ∧ quantity = .number width result := by
  unfold Width.exact
  split
  · next fits => simp [fits, eq_comm]
  · next exceeds => simp [exceeds]

theorem Value.computed_eq_some_iff {width : Width} {value : Value} {quantity : Quantity} :
    value.computed width = some quantity ↔
      (∀ word, value = .int word → width.Fits word.val) ∧ quantity = value.quantity width := by
  cases value with
  | bool flag => simp [computed, Value.quantity, eq_comm]
  | int word => simp [computed, Value.quantity, Width.exact_eq_some_iff]

theorem Step.exact_computed {step : Step} {result : Int} {value : Value}
    (exact : step.exact result = .ok value) (width : Width) :
    width.exact result = value.computed width := by
  unfold Step.exact at exact
  split at exact
  · next word fits =>
      cases exact
      rw [Value.computed, Word.of_int_eq_some_iff.mp fits]
  · cases exact

namespace Operator

theorem compute_ints {operator : Operator} {left right : Word} {value : Value}
    (applied : operator.applyInts left right = .ok value) (width : Width) :
    compute width operator left.val right.val = value.computed width := by
  have equal : (left == right) = decide (left.val = right.val) := by
    rw [Bool.eq_iff_iff, beq_iff_eq, decide_eq_true_iff]
    exact ⟨congrArg Word.val, Word.val_injective⟩
  cases operator
  case add | sub | mul => exact Step.exact_computed applied width
  case div =>
    simp only [applyInts] at applied
    simp only [compute]
    split at applied
    · cases applied
    · next nonzero =>
        rw [if_neg nonzero]
        exact Step.exact_computed applied width
  case and | or => cases applied
  case eq | ne =>
    simp only [applyInts, bne, equal] at applied
    cases applied
    simp [compute, Value.computed]
  all_goals
    cases applied
    rfl

theorem apply_flags_of_decided {operator : Operator} {left right : Bool} {value : Value}
    (decided : isDecidedBy operator left = true)
    (applied : operator.applyFlags left right = .ok value) : value = .bool left := by
  cases operator <;> cases left <;> cases decided <;> cases applied <;> rfl

theorem compute_flags {operator : Operator} {left right : Bool} {value : Value}
    (undecided : isDecidedBy operator left = false)
    (applied : operator.applyFlags left right = .ok value) (width other : Width) :
    compute width operator (Quantity.flag left).integer (Quantity.flag right).integer =
      value.computed other := by
  cases operator <;> cases applied <;> cases left <;> cases undecided <;> cases right <;> rfl

/-- Whether the right operand counts, and what the operator then makes of both: truth values have
no width of their own, and nothing that is computed of them has one. -/
theorem apply_cases {operator : Operator} {left right value : Value}
    (applied : operator.apply left right = .ok value) (leftWidth rightWidth : Width) :
    (∃ flag, left = .bool flag ∧ isDecidedBy operator flag = true ∧ value = .bool flag) ∨
      isDecidedBy operator (left.quantity leftWidth).truth = false ∧
        (∀ flag, left = .bool flag → isDecidedBy operator flag = false) ∧
        compute ((left.quantity leftWidth).width.join (right.quantity rightWidth).width) operator
            (left.quantity leftWidth).integer (right.quantity rightWidth).integer =
          value.computed (leftWidth.join rightWidth) := by
  cases left with
  | int first =>
      cases right with
      | int second =>
          refine Or.inr ⟨?_, by simp, compute_ints applied (leftWidth.join rightWidth)⟩
          cases operator <;> first | rfl | cases applied
      | bool second => cases applied
  | bool first =>
      cases right with
      | int second => cases applied
      | bool second =>
          cases decided : isDecidedBy operator first with
          | true => exact Or.inl ⟨first, rfl, decided, apply_flags_of_decided decided applied⟩
          | false =>
              refine Or.inr ⟨decided, ?_, compute_flags decided applied _ _⟩
              rintro flag ⟨⟩
              exact decided

end Operator

theorem Value.negate_eq_ok {operand value : Value} (negated : operand.negate = .ok value) :
    ∃ word, operand = .int word ∧ Step.negation.exact (-word.val) = .ok value := by
  cases operand with
  | int word => exact ⟨word, rfl, negated⟩
  | bool flag => cases negated

theorem Value.not_eq_ok {operand value : Value} (inverted : operand.not = .ok value) :
    ∃ flag, operand = .bool flag ∧ value = .bool (!flag) := by
  cases operand with
  | int word => cases inverted
  | bool flag => cases inverted; exact ⟨flag, rfl, rfl⟩

theorem Cpp.Width.exact_of_fits {width : Width} {result : Int} (fits : width.Fits result) :
    width.exact result = some (.number width result) := if_pos fits

theorem Cpp.Width.fits_of_magnitude {magnitude : Nat} {number : Int}
    (same : number.natAbs = magnitude) (held : magnitude ≤ 9223372036854775807) :
    (Width.ofMagnitude magnitude).Fits number := by
  unfold Width.ofMagnitude
  split <;> simp only [Width.Fits] <;> omega

theorem Value.term_value (memory : String → Option Quantity) (value : Value) :
    value.term.value? memory = some (value.quantity value.width) := by
  cases value with
  | bool flag => rfl
  | int word =>
      have least := word.least_le
      have greatest := word.le_greatest
      simp only [term, Value.width, Value.quantity]
      split
      · next lowest =>
          rw [lowest]
          rfl
      · next higher =>
          have held : word.val.natAbs ≤ 9223372036854775807 := by omega
          have literal : literal? word.val.natAbs false =
              some (.number (Width.ofMagnitude word.val.natAbs) word.val.natAbs) :=
            Width.exact_of_fits (Width.fits_of_magnitude (Int.natAbs_natCast _) held)
          split
          · next negative =>
              rw [Term.value_negate, Term.value?, literal]
              have back : -(word.val.natAbs : Int) = word.val := by omega
              simp only [Option.bind_some, Quantity.width, Quantity.integer, back]
              exact Width.exact_of_fits (Width.fits_of_magnitude rfl held)
          · next natural =>
              have same : word.val.toNat = word.val.natAbs := by omega
              have back : (word.val.natAbs : Int) = word.val := by omega
              rw [Term.value?, same, literal, back]

theorem bind_eq_some_of_iff {α β : Type} {first : Option α} {next : α → Option β} {possible : Prop}
    {value : α} {final : β} (settled : ∀ other, first = some other ↔ possible ∧ other = value) :
    first.bind next = some final ↔ possible ∧ next value = some final := by
  simp only [Option.bind_eq_some_iff, settled]
  constructor
  · rintro ⟨other, ⟨holds, rfl⟩, continued⟩
    exact ⟨holds, continued⟩
  · rintro ⟨holds, continued⟩
    exact ⟨value, ⟨holds, rfl⟩, continued⟩

namespace Expr

theorem evaluate_binary_eq_ok {environment : Environment} {operator : Operator}
    {left right : Expr} {value : Value}
    (evaluated : (binary operator left right).evaluate environment = .ok value) :
    ∃ first second, left.evaluate environment = .ok first ∧
      right.evaluate environment = .ok second ∧ operator.apply first second = .ok value := by
  simp only [evaluate, bind_eq_ok_iff] at evaluated
  obtain ⟨first, leftEvaluated, second, rightEvaluated, applied⟩ := evaluated
  exact ⟨first, second, leftEvaluated, rightEvaluated, applied⟩

theorem fits_width_iff {environment : Environment} {expr : Expr} {value : Value}
    (evaluated : expr.evaluate environment = .ok value) :
    expr.FitsWidth environment ↔ ∀ word, value = .int word → expr.width.Fits word.val := by
  simp only [FitsWidth, evaluated, Except.ok.injEq]

theorem term_value_eq_some_iff (path : String) {environment : Environment} {expr : Expr}
    {value : Value} (evaluated : expr.evaluate environment = .ok value) (quantity : Quantity) :
    (expr.term path).value? (environment.memory path) = some quantity ↔
      expr.StaysInWidth environment ∧ quantity = value.quantity expr.width := by
  induction expr generalizing value quantity with
  | literal constant =>
      cases evaluated
      rw [term, Value.term_value]
      simp [StaysInWidth, width, eq_comm]
  | reference name =>
      have bound : environment.get? name = some value := by
        simp only [evaluate] at evaluated
        split at evaluated
        · next bound => cases evaluated; exact bound
        · cases evaluated
      simp [term, Term.value?, Environment.memory_path, bound, StaysInWidth, width, eq_comm]
  | binary operator left right leftInduction rightInduction =>
      obtain ⟨first, second, leftEvaluated, rightEvaluated, applied⟩ :=
        evaluate_binary_eq_ok evaluated
      have leftValue := leftInduction leftEvaluated
      have rightValue := rightInduction rightEvaluated
      rw [term, Term.value_binary, bind_eq_some_of_iff leftValue, StaysInWidth,
        fits_width_iff evaluated, leftEvaluated, and_assoc]
      -- The right operand may have no value of its own where C++ does not come to it.
      obtain ⟨flag, rfl, decided, rfl⟩ | ⟨undecided, stillOpen, computed⟩ :=
        Operator.apply_cases applied left.width right.width
      · have settled : ∃ other, (.ok (Value.bool flag) : Except Fault Value) = .ok (.bool other) ∧
            isDecidedBy operator other = true := ⟨flag, rfl, decided⟩
        simp only [settled, true_or, true_and, Value.quantity, Quantity.truth, decided, if_true,
          Option.some.injEq, @eq_comm _ quantity]
      · have reached : ¬ ∃ flag, first = .bool flag ∧ isDecidedBy operator flag = true := by
          rintro ⟨flag, held, decided⟩
          rw [stillOpen flag held] at decided
          cases decided
        simp only [Except.ok.injEq, reached, undecided, false_or, Bool.false_eq_true, if_false]
        rw [bind_eq_some_of_iff rightValue, computed, Value.computed_eq_some_iff, width, and_assoc]
  | negate operand induction =>
      have kept := evaluated
      simp only [evaluate, bind_eq_ok_iff] at kept
      obtain ⟨inner, operandEvaluated, negated⟩ := kept
      obtain ⟨word, rfl, exact⟩ := Value.negate_eq_ok negated
      have operandValue := induction operandEvaluated
      rw [term, Term.value_negate, bind_eq_some_of_iff operandValue, StaysInWidth,
        fits_width_iff evaluated, and_assoc]
      have computed := Step.exact_computed exact operand.width
      exact and_congr_right fun _ => by
        rw [width, ← Value.computed_eq_some_iff, ← computed]; rfl
  | not operand induction =>
      simp only [evaluate, bind_eq_ok_iff] at evaluated
      obtain ⟨inner, operandEvaluated, inverted⟩ := evaluated
      obtain ⟨flag, rfl, rfl⟩ := Value.not_eq_ok inverted
      rw [term, Term.value_invert, bind_eq_some_of_iff (induction operandEvaluated), StaysInWidth]
      simp [Value.quantity, Quantity.truth, eq_comm]
  | group inner induction => exact induction evaluated quantity

end Expr

end StateMachine
