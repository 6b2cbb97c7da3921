import StateMachine.Expr.Eval
import StateMachine.Proofs.Sequence

/-!
Evaluation looks up the names that an expression mentions and no others.
-/

set_option autoImplicit false

namespace StateMachine

theorem Step.exact_ne_unbound (step : Step) (result : Int) (name : String) :
    step.exact result ≠ .error (.unbound name) := by
  unfold Step.exact
  split <;> exact fun same => nomatch same

/-- Values that are there are put together without any lookup. -/
theorem Operator.apply_ne_unbound (operator : Operator) (left right : Value) (name : String) :
    operator.apply left right ≠ .error (.unbound name) := by
  cases left with
  | int first =>
      cases right with
      | int second =>
          cases operator
          case add => exact Step.exact_ne_unbound _ _ name
          case sub => exact Step.exact_ne_unbound _ _ name
          case mul => exact Step.exact_ne_unbound _ _ name
          case div =>
            simp only [apply, applyInts]
            split
            · exact fun same => nomatch same
            · exact Step.exact_ne_unbound _ _ name
          all_goals exact fun same => nomatch same
      | bool second => exact fun same => nomatch same
  | bool first =>
      cases right with
      | int second => exact fun same => nomatch same
      | bool second => cases operator <;> exact fun same => nomatch same

theorem Value.negate_ne_unbound (value : Value) (name : String) :
    value.negate ≠ .error (.unbound name) := by
  cases value with
  | int word => exact Step.exact_ne_unbound _ _ name
  | bool flag => exact fun same => nomatch same

theorem Value.not_ne_unbound (value : Value) (name : String) :
    value.not ≠ .error (.unbound name) := by
  cases value with
  | int word => exact fun same => nomatch same
  | bool flag => exact fun same => nomatch same

end StateMachine

namespace StateMachine.Expr

theorem is_constant_iff_no_references (expr : Expr) :
    expr.isConstant = true ↔ expr.references = [] := by
  induction expr with
  | literal value => simp [isConstant, references]
  | reference name => simp [isConstant, references]
  | binary operator left right leftInduction rightInduction =>
      simp only [isConstant, references, Bool.and_eq_true, List.append_eq_nil_iff]
      rw [leftInduction, rightInduction]
  | negate operand induction => exact induction
  | not operand induction => exact induction
  | group inner induction => exact induction

theorem evaluate_eq_of_agree {left right : Environment} (expr : Expr)
    (agree : ∀ name ∈ expr.references, left.get? name = right.get? name) :
    expr.evaluate left = expr.evaluate right := by
  induction expr with
  | literal value => rfl
  | reference name =>
      have same : left.get? name = right.get? name := agree name (by simp [references])
      simp only [evaluate, same]
  | binary operator first second firstInduction secondInduction =>
      have firstSame := firstInduction fun name member =>
        agree name (List.mem_append_left _ member)
      have secondSame := secondInduction fun name member =>
        agree name (List.mem_append_right _ member)
      simp only [evaluate, firstSame, secondSame]
  | negate operand induction => simp only [evaluate, induction agree]
  | not operand induction => simp only [evaluate, induction agree]
  | group inner induction => exact induction agree

/-- A constant has the same value, or the same fault, in every environment. -/
theorem evaluate_constant {expr : Expr} (constant : expr.isConstant = true)
    (left right : Environment) : expr.evaluate left = expr.evaluate right := by
  apply evaluate_eq_of_agree
  rw [(is_constant_iff_no_references expr).mp constant]
  intro name member
  cases member

theorem evaluate_eq_unbound {environment : Environment} {expr : Expr} {name : String}
    (failed : expr.evaluate environment = .error (.unbound name)) :
    name ∈ expr.references ∧ environment.get? name = none := by
  induction expr with
  | literal value => cases failed
  | reference other =>
      rw [evaluate] at failed
      split at failed
      · cases failed
      · next missing =>
          cases failed
          exact ⟨List.mem_singleton.mpr rfl, missing⟩
  | binary operator left right leftInduction rightInduction =>
      rcases bind_eq_error_iff.mp failed with leftFailed | ⟨leftValue, _, failed⟩
      · obtain ⟨mentioned, missing⟩ := leftInduction leftFailed
        exact ⟨List.mem_append_left _ mentioned, missing⟩
      rcases bind_eq_error_iff.mp failed with rightFailed | ⟨rightValue, _, refused⟩
      · obtain ⟨mentioned, missing⟩ := rightInduction rightFailed
        exact ⟨List.mem_append_right _ mentioned, missing⟩
      · exact absurd refused (Operator.apply_ne_unbound operator leftValue rightValue name)
  | negate operand induction =>
      rcases bind_eq_error_iff.mp failed with operandFailed | ⟨value, _, refused⟩
      · exact induction operandFailed
      · exact absurd refused (Value.negate_ne_unbound value name)
  | not operand induction =>
      rcases bind_eq_error_iff.mp failed with operandFailed | ⟨value, _, refused⟩
      · exact induction operandFailed
      · exact absurd refused (Value.not_ne_unbound value name)
  | group inner induction => exact induction failed

/-- Evaluation is strict: a value takes all mentioned names to be bound. -/
theorem reference_bound_of_evaluated {environment : Environment} {expr : Expr} {value : Value}
    (evaluated : expr.evaluate environment = .ok value) :
    ∀ name ∈ expr.references, environment.get? name ≠ none := by
  induction expr generalizing value with
  | literal held => simp [references]
  | reference other =>
      intro name member missing
      obtain rfl : name = other := by simpa [references] using member
      simp [evaluate, missing] at evaluated
  | binary operator left right leftInduction rightInduction =>
      obtain ⟨leftValue, leftEvaluated, rest⟩ := bind_eq_ok_iff.mp evaluated
      obtain ⟨rightValue, rightEvaluated, _⟩ := bind_eq_ok_iff.mp rest
      exact List.forall_mem_append.mpr
        ⟨leftInduction leftEvaluated, rightInduction rightEvaluated⟩
  | negate operand induction =>
      obtain ⟨_, operandEvaluated, _⟩ := bind_eq_ok_iff.mp evaluated
      exact induction operandEvaluated
  | not operand induction =>
      obtain ⟨_, operandEvaluated, _⟩ := bind_eq_ok_iff.mp evaluated
      exact induction operandEvaluated
  | group inner induction => exact induction evaluated

/-- Evaluation rests on the mentioned names, on all of them and on nothing else. An expression is
constant when it mentions none. Environments in which the mentioned names have the same values, or
are unbound alike, give it the same value or the same fault. A name that is reported as unbound is
mentioned and unbound, and as long as one mentioned name is unbound there is no value: the logical
operators, too, ask for both of their operands. -/
theorem evaluation_rests_on_references (expr : Expr) :
    (expr.isConstant = true ↔ expr.references = []) ∧
    (∀ first second : Environment,
      (∀ name ∈ expr.references, first.get? name = second.get? name) →
        expr.evaluate first = expr.evaluate second) ∧
    ∀ environment : Environment,
      (∀ name, expr.evaluate environment = .error (.unbound name) →
        name ∈ expr.references ∧ environment.get? name = none) ∧
      ((∃ name ∈ expr.references, environment.get? name = none) →
        ∃ fault, expr.evaluate environment = .error fault) := by
  refine ⟨is_constant_iff_no_references expr, fun _ _ agree => evaluate_eq_of_agree expr agree, ?_⟩
  intro environment
  refine ⟨fun name failed => evaluate_eq_unbound failed, ?_⟩
  rintro ⟨name, mentioned, missing⟩
  cases evaluated : expr.evaluate environment with
  | error fault => exact ⟨fault, rfl⟩
  | ok value => exact absurd missing (reference_bound_of_evaluated evaluated name mentioned)

/-- The left operand decides what the conjunction would be, but the right one is unbound. -/
example : (binary .and (.literal (.bool false)) (.reference "ready")).evaluate .empty =
    .error (.unbound "ready") := rfl

end StateMachine.Expr
