import Mathlib.Algebra.Group.Int.Defs
import StateMachine.Expr.Eval
import StateMachine.Proofs.Sequence

/-!
Evaluation against evaluation over unbounded integers, where nothing is too large. The two differ by
overflow alone: words hold the exact values as long as every part of an expression stays in their
range, and where evaluation gives up for overflow it stands at a part whose exact value is outside.
-/

set_option autoImplicit false

namespace StateMachine

inductive Ideal where
  | int (number : Int)
  | bool (flag : Bool)
deriving DecidableEq, Repr

def Ideal.ty : Ideal → Ty
  | .int _ => .int
  | .bool _ => .bool

def Value.ideal : Value → Ideal
  | .int word => .int word.val
  | .bool flag => .bool flag

def InRange (number : Int) : Prop := -2 ^ 63 ≤ number ∧ number ≤ 2 ^ 63 - 1

instance (number : Int) : Decidable (InRange number) :=
  inferInstanceAs (Decidable (_ ∧ _))

namespace Operator

def idealInts (operator : Operator) (left right : Int) : Except Fault Ideal :=
  match operator with
  | .add => .ok (.int (left + right))
  | .sub => .ok (.int (left - right))
  | .mul => .ok (.int (left * right))
  | .div => if right = 0 then .error .divisionByZero else .ok (.int (left.tdiv right))
  | .lt => .ok (.bool (decide (left < right)))
  | .gt => .ok (.bool (decide (right < left)))
  | .le => .ok (.bool (decide (left ≤ right)))
  | .ge => .ok (.bool (decide (right ≤ left)))
  | .eq => .ok (.bool (decide (left = right)))
  | .ne => .ok (.bool (decide (left ≠ right)))
  | .and | .or => .error (.unsupported operator .int)

def idealFlags (operator : Operator) (left right : Bool) : Except Fault Ideal :=
  match operator with
  | .eq => .ok (.bool (decide (left = right)))
  | .ne => .ok (.bool (decide (left ≠ right)))
  | .and => .ok (.bool (left && right))
  | .or => .ok (.bool (left || right))
  | _ => .error (.unsupported operator .bool)

def ideal (operator : Operator) : Ideal → Ideal → Except Fault Ideal
  | .int left, .int right => operator.idealInts left right
  | .bool left, .bool right => operator.idealFlags left right
  | left, right => .error (.mismatch (.operands operator) left.ty right.ty)

end Operator

namespace Ideal

def negate : Ideal → Except Fault Ideal
  | .int number => .ok (.int (-number))
  | .bool _ => .error (.mismatch .negated .int .bool)

def not : Ideal → Except Fault Ideal
  | .bool flag => .ok (.bool (!flag))
  | .int _ => .error (.mismatch .inverted .bool .int)

end Ideal

namespace Expr

/-- The value of an expression over unbounded integers: the left operand, then the right operand,
then the operator. -/
def ideal (environment : Environment) : Expr → Except Fault Ideal
  | .literal value => .ok value.ideal
  | .reference name =>
      match environment.get? name with
      | some value => .ok value.ideal
      | none => .error (.unbound name)
  | .binary operator left right => do
      let leftValue ← ideal environment left
      let rightValue ← ideal environment right
      operator.ideal leftValue rightValue
  | .negate operand => do
      let value ← ideal environment operand
      value.negate
  | .not operand => do
      let value ← ideal environment operand
      value.not
  | .group inner => ideal environment inner

/-- The parts of an expression in the order in which they are evaluated: operands before their
operator, left before right, the whole last. -/
def parts : Expr → List Expr
  | .literal value => [.literal value]
  | .reference name => [.reference name]
  | .binary operator left right => left.parts ++ right.parts ++ [.binary operator left right]
  | .negate operand => operand.parts ++ [.negate operand]
  | .not operand => operand.parts ++ [.not operand]
  | .group inner => inner.parts ++ [.group inner]

/-- The part at which evaluation stops: the first one without a value. -/
def stop? (environment : Environment) (expr : Expr) : Option Expr :=
  expr.parts.find? fun part => (failureOf (part.evaluate environment)).isSome

def step? : Expr → Option Step
  | .binary operator _ _ => some (.binary operator)
  | .negate _ => some .negation
  | _ => none

theorem self_mem_parts (expr : Expr) : expr ∈ expr.parts := by
  cases expr <;> simp [parts]

end Expr

theorem Value.ideal_injective {first second : Value} (same : first.ideal = second.ideal) :
    first = second := by
  cases first with
  | int word =>
      cases second with
      | int other => exact congrArg Value.int (Word.val_injective (Ideal.int.inj same))
      | bool flag => cases same
  | bool flag =>
      cases second with
      | int other => cases same
      | bool other => exact congrArg Value.bool (Ideal.bool.inj same)

theorem Word.in_range (word : Word) : InRange word.val := by
  have least := word.least_le
  have greatest := word.le_greatest
  unfold InRange
  omega

theorem Word.exists_of_in_range {number : Int} (fits : InRange number) :
    ∃ word : Word, word.val = number := by
  unfold InRange at fits
  exact ⟨⟨number, by omega, by omega⟩, rfl⟩

namespace Step

def narrow (step : Step) : Except Fault Ideal → Except Fault Value
  | .error fault => .error fault
  | .ok (.bool flag) => .ok (.bool flag)
  | .ok (.int number) => step.exact number

theorem exact_of_in_range (step : Step) (word : Word) : step.exact word.val = .ok (.int word) := by
  rw [exact, Word.of_int_val]

theorem exact_of_out_of_range (step : Step) {number : Int} (exceeds : ¬InRange number) :
    step.exact number = .error (.overflow step) := by
  have missing : Word.ofInt? number = none := by
    rw [Word.of_int_eq_none_iff]
    unfold InRange at exceeds
    omega
  rw [exact, missing]

theorem narrow_eq_ok_iff (step : Step) {result : Except Fault Ideal} {value : Value} :
    step.narrow result = .ok value ↔ result = .ok value.ideal := by
  constructor
  · intro narrowed
    cases result with
    | error fault => cases narrowed
    | ok found =>
        cases found with
        | bool flag =>
            cases narrowed
            rfl
        | int number =>
            by_cases fits : InRange number
            · obtain ⟨word, rfl⟩ := Word.exists_of_in_range fits
              rw [narrow, exact_of_in_range] at narrowed
              cases narrowed
              rfl
            · rw [narrow, exact_of_out_of_range step fits] at narrowed
              cases narrowed
  · rintro rfl
    cases value with
    | bool flag => rfl
    | int word => exact exact_of_in_range step word

theorem narrow_eq_error_iff {step : Step} {result : Except Fault Ideal} {fault : Fault} :
    step.narrow result = .error fault ↔ result = .error fault ∨
      ∃ number, result = .ok (.int number) ∧ ¬InRange number ∧ fault = .overflow step := by
  constructor
  · intro narrowed
    cases result with
    | error other =>
        cases narrowed
        exact Or.inl rfl
    | ok found =>
        cases found with
        | bool flag => cases narrowed
        | int number =>
            by_cases fits : InRange number
            · obtain ⟨word, rfl⟩ := Word.exists_of_in_range fits
              rw [narrow, exact_of_in_range] at narrowed
              cases narrowed
            · rw [narrow, exact_of_out_of_range step fits] at narrowed
              cases narrowed
              exact Or.inr ⟨number, rfl, fits, rfl⟩
  · rintro (rfl | ⟨number, rfl, exceeds, rfl⟩)
    · rfl
    · exact exact_of_out_of_range step exceeds

theorem narrow_eq_other {step : Step} {result : Except Fault Ideal} {fault : Fault}
    (narrowed : step.narrow result = .error fault) (other : fault ≠ .overflow step) :
    result = .error fault := by
  obtain exactly | ⟨_, _, _, same⟩ := narrow_eq_error_iff.mp narrowed
  · exact exactly
  · exact absurd same other

end Step

/-! Each step of evaluation is the exact one, narrowed. -/

theorem Operator.apply_eq_narrow (operator : Operator) (left right : Value) :
    operator.apply left right =
      (Step.binary operator).narrow (operator.ideal left.ideal right.ideal) := by
  cases left with
  | int first =>
      cases right with
      | bool second => rfl
      | int second =>
          have equal : (first == second) = decide (first.val = second.val) := by
            rw [Bool.eq_iff_iff, beq_iff_eq, decide_eq_true_iff]
            exact ⟨congrArg Word.val, Word.val_injective⟩
          cases operator
          case div =>
            simp only [apply, applyInts, Value.ideal, ideal, idealInts]
            split <;> rfl
          case eq => simp only [apply, applyInts, equal, Value.ideal, ideal, idealInts, Step.narrow]
          case ne =>
            simp only [apply, applyInts, bne, equal, Value.ideal, ideal, idealInts, Step.narrow,
              ne_eq, decide_not]
          all_goals rfl
  | bool first =>
      cases right with
      | int second => rfl
      | bool second =>
          cases operator
          case eq | ne => cases first <;> cases second <;> rfl
          all_goals rfl

theorem Value.negate_eq_narrow (value : Value) :
    value.negate = Step.negation.narrow value.ideal.negate := by
  cases value <;> rfl

/-- No step is named here, as there is no integer to narrow. -/
theorem Value.not_eq_narrow (value : Value) (step : Step) :
    value.not = step.narrow value.ideal.not := by
  cases value <;> rfl

/-! Exact steps never overflow. -/

theorem Operator.ideal_ne_overflow (operator : Operator) (left right : Ideal) (step : Step) :
    operator.ideal left right ≠ .error (.overflow step) := by
  cases left with
  | int first =>
      cases right with
      | bool second => exact fun same => nomatch same
      | int second =>
          cases operator
          case div =>
            simp only [ideal, idealInts]
            split <;> exact fun same => nomatch same
          all_goals exact fun same => nomatch same
  | bool first =>
      cases right with
      | int second => exact fun same => nomatch same
      | bool second => cases operator <;> exact fun same => nomatch same

theorem Ideal.negate_ne_overflow (value : Ideal) (step : Step) :
    value.negate ≠ .error (.overflow step) := by
  cases value <;> exact fun same => nomatch same

theorem Ideal.not_ne_overflow (value : Ideal) (step : Step) :
    value.not ≠ .error (.overflow step) := by
  cases value <;> exact fun same => nomatch same

namespace Expr

variable {environment : Environment}

/-- The exact values of all parts are in range, as far as they are integers. -/
def StaysInRange (environment : Environment) (expr : Expr) : Prop :=
  ∀ part ∈ expr.parts, ∀ number, part.ideal environment = .ok (.int number) → InRange number

theorem stays_in_range_snoc (operands : List Expr) {whole : Expr}
    (parts : whole.parts = operands ++ [whole]) :
    whole.StaysInRange environment ↔
      (∀ part ∈ operands, ∀ number, part.ideal environment = .ok (.int number) → InRange number) ∧
        ∀ number, whole.ideal environment = .ok (.int number) → InRange number := by
  rw [StaysInRange, parts, List.forall_mem_append, List.forall_mem_singleton]

theorem StaysInRange.exists_value {expr : Expr} (stays : expr.StaysInRange environment)
    {result : Ideal} (exact : expr.ideal environment = .ok result) :
    ∃ value : Value, value.ideal = result := by
  cases result with
  | bool flag => exact ⟨.bool flag, rfl⟩
  | int number =>
      obtain ⟨word, rfl⟩ := Word.exists_of_in_range (stays expr expr.self_mem_parts number exact)
      exact ⟨.int word, rfl⟩

theorem in_range_of_value {result : Except Fault Ideal} {value : Value}
    (exact : result = .ok value.ideal) : ∀ number, result = .ok (.int number) → InRange number := by
  rintro number same
  cases value with
  | bool flag =>
      rw [exact] at same
      cases same
  | int word =>
      rw [exact] at same
      cases same
      exact word.in_range

theorem unary_eq_ok_iff {operand whole : Expr} {apply : Value → Except Fault Value}
    {exactly : Ideal → Except Fault Ideal} (step : Step)
    (parts : whole.parts = operand.parts ++ [whole])
    (evaluated : whole.evaluate environment = operand.evaluate environment >>= apply)
    (ideal : whole.ideal environment = operand.ideal environment >>= exactly)
    (narrows : ∀ value : Value, apply value = step.narrow (exactly value.ideal))
    (holds : ∀ value, operand.evaluate environment = .ok value ↔
      operand.ideal environment = .ok value.ideal ∧ operand.StaysInRange environment)
    (value : Value) :
    whole.evaluate environment = .ok value ↔
      whole.ideal environment = .ok value.ideal ∧ whole.StaysInRange environment := by
  rw [stays_in_range_snoc operand.parts parts, evaluated, ideal]
  constructor
  · intro succeeds
    obtain ⟨held, operandEvaluated, applied⟩ := bind_eq_ok_iff.mp succeeds
    obtain ⟨operandExact, stays⟩ := (holds held).mp operandEvaluated
    rw [narrows, Step.narrow_eq_ok_iff] at applied
    have exact : operand.ideal environment >>= exactly = .ok value.ideal :=
      bind_eq_ok_iff.mpr ⟨_, operandExact, applied⟩
    exact ⟨exact, stays, in_range_of_value exact⟩
  · rintro ⟨exact, stays, _⟩
    obtain ⟨result, operandExact, applied⟩ := bind_eq_ok_iff.mp exact
    obtain ⟨held, rfl⟩ := StaysInRange.exists_value stays operandExact
    rw [← step.narrow_eq_ok_iff, ← narrows] at applied
    exact bind_eq_ok_iff.mpr ⟨held, (holds held).mpr ⟨operandExact, stays⟩, applied⟩

/-- Words give a value exactly when it is the exact one and no part on the way was out of range. -/
theorem evaluate_eq_ok_iff {expr : Expr} (value : Value) :
    expr.evaluate environment = .ok value ↔
      expr.ideal environment = .ok value.ideal ∧ expr.StaysInRange environment := by
  induction expr generalizing value with
  | literal held =>
      rw [stays_in_range_snoc [] rfl]
      constructor
      · intro same
        cases same
        exact ⟨rfl, List.forall_mem_nil _, in_range_of_value rfl⟩
      · rintro ⟨exact, _⟩
        exact congrArg Except.ok (Value.ideal_injective (Except.ok.inj exact))
  | reference name =>
      rw [stays_in_range_snoc [] rfl]
      cases bound : environment.get? name with
      | none => simp only [evaluate, ideal, bound, reduceCtorEq, false_and]
      | some held =>
          simp only [evaluate, ideal, bound]
          constructor
          · intro same
            cases same
            exact ⟨rfl, List.forall_mem_nil _, in_range_of_value rfl⟩
          · rintro ⟨exact, _⟩
            exact congrArg Except.ok (Value.ideal_injective (Except.ok.inj exact))
  | binary operator left right leftInduction rightInduction =>
      rw [stays_in_range_snoc (left.parts ++ right.parts) rfl, List.forall_mem_append]
      constructor
      · intro evaluated
        obtain ⟨leftValue, leftEvaluated, later⟩ := bind_eq_ok_iff.mp evaluated
        obtain ⟨rightValue, rightEvaluated, applied⟩ := bind_eq_ok_iff.mp later
        obtain ⟨leftExact, leftStays⟩ := (leftInduction leftValue).mp leftEvaluated
        obtain ⟨rightExact, rightStays⟩ := (rightInduction rightValue).mp rightEvaluated
        rw [operator.apply_eq_narrow, Step.narrow_eq_ok_iff] at applied
        have exact : (binary operator left right).ideal environment = .ok value.ideal :=
          bind_eq_ok_iff.mpr ⟨_, leftExact, bind_eq_ok_iff.mpr ⟨_, rightExact, applied⟩⟩
        exact ⟨exact, ⟨leftStays, rightStays⟩, in_range_of_value exact⟩
      · rintro ⟨exact, ⟨leftStays, rightStays⟩, _⟩
        obtain ⟨first, leftExact, later⟩ := bind_eq_ok_iff.mp exact
        obtain ⟨second, rightExact, applied⟩ := bind_eq_ok_iff.mp later
        obtain ⟨leftValue, rfl⟩ := StaysInRange.exists_value leftStays leftExact
        obtain ⟨rightValue, rfl⟩ := StaysInRange.exists_value rightStays rightExact
        have leftEvaluated := (leftInduction leftValue).mpr ⟨leftExact, leftStays⟩
        have rightEvaluated := (rightInduction rightValue).mpr ⟨rightExact, rightStays⟩
        rw [← (Step.binary operator).narrow_eq_ok_iff, ← operator.apply_eq_narrow]
          at applied
        exact bind_eq_ok_iff.mpr
          ⟨leftValue, leftEvaluated, bind_eq_ok_iff.mpr ⟨rightValue, rightEvaluated, applied⟩⟩
  | negate operand induction =>
      exact unary_eq_ok_iff .negation rfl rfl rfl Value.negate_eq_narrow induction value
  | not operand induction =>
      exact unary_eq_ok_iff .negation rfl rfl rfl (fun held => held.not_eq_narrow _)
        induction value
  | group inner induction =>
      rw [stays_in_range_snoc inner.parts rfl]
      constructor
      · intro evaluated
        obtain ⟨exact, stays⟩ := (induction value).mp evaluated
        exact ⟨exact, stays, in_range_of_value exact⟩
      · rintro ⟨exact, stays, _⟩
        exact (induction value).mpr ⟨exact, stays⟩

/-! Where evaluation stops. -/

def OperandsEvaluate (environment : Environment) : Expr → Prop
  | .literal _ | .reference _ => True
  | .binary _ left right => (∃ value, left.evaluate environment = .ok value) ∧
      ∃ value, right.evaluate environment = .ok value
  | .negate operand | .not operand => ∃ value, operand.evaluate environment = .ok value
  | .group inner => ∃ value, inner.evaluate environment = .ok value

/-- Evaluation of `expr` gets as far as the last step of `stopped` and ends there with `fault`. -/
structure EndsAt (environment : Environment) (expr stopped : Expr) (fault : Fault) : Prop where
  whole : expr.evaluate environment = .error fault
  part : stopped.evaluate environment = .error fault
  reached : stopped.OperandsEvaluate environment

/-- The whole is the last part, so it is where evaluation stops only if no operand is. -/
theorem stop_snoc {whole : Expr} {operands : List Expr} (parts : whole.parts = operands ++ [whole])
    (environment : Environment) :
    whole.stop? environment =
      (operands.find? fun part => (failureOf (part.evaluate environment)).isSome).or
        ((failureOf (whole.evaluate environment)).map fun _ => whole) := by
  rw [stop?, parts, List.find?_append]
  congr 1
  cases failed : failureOf (whole.evaluate environment) <;> simp [failed]

/-- What becomes of an expression: it has a value, or it ends at the part where it stops. -/
def Concluded (environment : Environment) (expr : Expr) : Prop :=
  (expr.stop? environment = none ∧ ∃ value, expr.evaluate environment = .ok value) ∨
    ∃ part fault, expr.stop? environment = some part ∧ expr.EndsAt environment part fault

theorem concluded_of_operands {whole : Expr} (operands : List Expr)
    (parts : whole.parts = operands ++ [whole])
    (passed : operands.find? (fun part => (failureOf (part.evaluate environment)).isSome) = none)
    (reached : whole.OperandsEvaluate environment) : whole.Concluded environment := by
  rw [Concluded, stop_snoc parts, passed, Option.none_or]
  cases outcome : whole.evaluate environment with
  | ok value => exact Or.inl ⟨rfl, value, rfl⟩
  | error fault => exact Or.inr ⟨whole, fault, rfl, outcome, outcome, reached⟩

theorem concluded_of_stopped {whole part : Expr} {operands : List Expr} {fault : Fault}
    (parts : whole.parts = operands ++ [whole])
    (stopped : operands.find? (fun part => (failureOf (part.evaluate environment)).isSome) =
      some part)
    (ends : whole.EndsAt environment part fault) : whole.Concluded environment := by
  refine Or.inr ⟨part, fault, ?_, ends⟩
  rw [stop_snoc parts, stopped, Option.some_or]

theorem concluded_unary {whole operand : Expr} (apply : Value → Except Fault Value)
    (parts : whole.parts = operand.parts ++ [whole])
    (evaluated : whole.evaluate environment = operand.evaluate environment >>= apply)
    (reached : (∃ value, operand.evaluate environment = .ok value) →
      whole.OperandsEvaluate environment)
    (concluded : operand.Concluded environment) : whole.Concluded environment := by
  obtain ⟨passed, valued⟩ | ⟨part, fault, stopped, ends⟩ := concluded
  · exact concluded_of_operands operand.parts parts passed (reached valued)
  · have failed : whole.evaluate environment = .error fault := by
      rw [evaluated, ends.whole]
      rfl
    exact concluded_of_stopped parts stopped ⟨failed, ends.part, ends.reached⟩

theorem concluded (environment : Environment) (expr : Expr) : expr.Concluded environment := by
  induction expr with
  | literal value => exact concluded_of_operands [] rfl rfl trivial
  | reference name => exact concluded_of_operands [] rfl rfl trivial
  | binary operator left right leftConcluded rightConcluded =>
      have parts : (binary operator left right).parts =
          left.parts ++ right.parts ++ [binary operator left right] := rfl
      have operands : (left.parts ++ right.parts).find?
            (fun part => (failureOf (part.evaluate environment)).isSome) =
          (left.stop? environment).or (right.stop? environment) := List.find?_append
      obtain ⟨leftPassed, leftValue, leftEvaluated⟩ | ⟨part, fault, stopped, ends⟩ := leftConcluded
      · rw [leftPassed, Option.none_or] at operands
        obtain ⟨rightPassed, rightValued⟩ | ⟨part, fault, stopped, ends⟩ := rightConcluded
        · exact concluded_of_operands _ parts (operands.trans rightPassed)
            ⟨⟨leftValue, leftEvaluated⟩, rightValued⟩
        · have failed : (binary operator left right).evaluate environment = .error fault := by
            rw [evaluate, leftEvaluated, ends.whole]
            rfl
          exact concluded_of_stopped parts (operands.trans stopped)
            ⟨failed, ends.part, ends.reached⟩
      · rw [stopped, Option.some_or] at operands
        have failed : (binary operator left right).evaluate environment = .error fault := by
          rw [evaluate, ends.whole]
          rfl
        exact concluded_of_stopped parts operands ⟨failed, ends.part, ends.reached⟩
  | negate operand operandConcluded => exact concluded_unary _ rfl rfl id operandConcluded
  | not operand operandConcluded => exact concluded_unary _ rfl rfl id operandConcluded
  | group inner innerConcluded =>
      exact concluded_unary .ok rfl (bind_pure _).symm id innerConcluded

theorem ends_of_error {expr : Expr} {fault : Fault}
    (failed : expr.evaluate environment = .error fault) :
    ∃ part, expr.stop? environment = some part ∧ expr.EndsAt environment part fault := by
  obtain ⟨_, value, evaluated⟩ | ⟨part, other, stopped, ends⟩ := expr.concluded environment
  · cases evaluated.symm.trans failed
  · cases ends.whole.symm.trans failed
    exact ⟨part, stopped, ends⟩

theorem ends_of_stop {expr part : Expr} (stopped : expr.stop? environment = some part) :
    ∃ fault, expr.EndsAt environment part fault := by
  obtain ⟨passed, _⟩ | ⟨other, fault, stops, ends⟩ := expr.concluded environment
  · cases passed.symm.trans stopped
  · cases stops.symm.trans stopped
    exact ⟨fault, ends⟩

/-- Between words with exact values, a last step is the exact one, narrowed. -/
theorem evaluate_eq_narrow {part : Expr} {step : Step} (last : part.step? = some step)
    (reached : part.OperandsEvaluate environment) :
    part.evaluate environment = step.narrow (part.ideal environment) := by
  cases part with
  | binary operator left right =>
      cases last
      obtain ⟨⟨leftValue, leftEvaluated⟩, rightValue, rightEvaluated⟩ := reached
      have leftExact := ((evaluate_eq_ok_iff leftValue).mp leftEvaluated).1
      have rightExact := ((evaluate_eq_ok_iff rightValue).mp rightEvaluated).1
      rw [evaluate, ideal, leftEvaluated, leftExact, rightEvaluated, rightExact]
      exact operator.apply_eq_narrow leftValue rightValue
  | negate operand =>
      cases last
      obtain ⟨value, evaluated⟩ := reached
      have exact := ((evaluate_eq_ok_iff value).mp evaluated).1
      rw [evaluate, ideal, evaluated, exact]
      exact value.negate_eq_narrow
  | _ => cases last

/-- Only arithmetic overflows. -/
theorem step_of_overflow {part : Expr} {step : Step} (reached : part.OperandsEvaluate environment)
    (failed : part.evaluate environment = .error (.overflow step)) :
    ∃ last, part.step? = some last := by
  cases part with
  | literal value => cases failed
  | reference name =>
      rw [evaluate] at failed
      split at failed <;> cases failed
  | binary operator left right => exact ⟨.binary operator, rfl⟩
  | negate operand => exact ⟨.negation, rfl⟩
  | not operand =>
      obtain ⟨value, evaluated⟩ := reached
      rw [evaluate, evaluated, ok_bind, value.not_eq_narrow .negation] at failed
      cases value <;> cases failed
  | group inner =>
      obtain ⟨value, evaluated⟩ := reached
      cases evaluated.symm.trans failed

theorem ideal_ne_overflow (environment : Environment) (expr : Expr) (step : Step) :
    expr.ideal environment ≠ .error (.overflow step) := by
  induction expr with
  | literal value => exact fun same => nomatch same
  | reference name =>
      rw [ideal]
      split <;> exact fun same => nomatch same
  | binary operator left right leftInduction rightInduction =>
      intro failed
      rcases bind_eq_error_iff.mp failed with leftFailed | ⟨first, _, failed⟩
      · exact leftInduction leftFailed
      rcases bind_eq_error_iff.mp failed with rightFailed | ⟨second, _, failed⟩
      · exact rightInduction rightFailed
      · exact operator.ideal_ne_overflow first second step failed
  | negate operand induction =>
      intro failed
      rcases bind_eq_error_iff.mp failed with operandFailed | ⟨value, _, failed⟩
      · exact induction operandFailed
      · exact value.negate_ne_overflow step failed
  | not operand induction =>
      intro failed
      rcases bind_eq_error_iff.mp failed with operandFailed | ⟨value, _, failed⟩
      · exact induction operandFailed
      · exact value.not_ne_overflow step failed
  | group inner induction => exact induction

/-- An overflow is reported exactly where evaluation has come to a step whose exact result is out of
range, and it names this step. -/
theorem evaluate_eq_overflow_iff {expr : Expr} {step : Step} :
    expr.evaluate environment = .error (.overflow step) ↔
      ∃ part number, expr.stop? environment = some part ∧ part.step? = some step ∧
        part.ideal environment = .ok (.int number) ∧ ¬InRange number := by
  constructor
  · intro failed
    obtain ⟨part, stopped, ends⟩ := ends_of_error failed
    obtain ⟨last, isLast⟩ := step_of_overflow ends.reached ends.part
    have narrowed := (evaluate_eq_narrow isLast ends.reached).symm.trans ends.part
    obtain exactly | ⟨number, exact, exceeds, same⟩ := Step.narrow_eq_error_iff.mp narrowed
    · exact absurd exactly (part.ideal_ne_overflow environment step)
    · cases same
      exact ⟨part, number, stopped, isLast, exact, exceeds⟩
  · rintro ⟨part, number, stopped, isLast, exact, exceeds⟩
    obtain ⟨fault, ends⟩ := ends_of_stop stopped
    have narrowed : part.evaluate environment = .error (.overflow step) := by
      rw [evaluate_eq_narrow isLast ends.reached, exact]
      exact step.exact_of_out_of_range exceeds
    exact ends.whole.trans (ends.part.symm.trans narrowed)

theorem unary_eq_error {operand : Expr} {apply : Value → Except Fault Value}
    {exactly : Ideal → Except Fault Ideal} {step : Step} {fault : Fault}
    (narrows : ∀ value : Value, apply value = step.narrow (exactly value.ideal))
    (holds : operand.evaluate environment = .error fault →
      operand.ideal environment = .error fault)
    (other : fault ≠ .overflow step)
    (failed : operand.evaluate environment >>= apply = .error fault) :
    operand.ideal environment >>= exactly = .error fault := by
  rcases bind_eq_error_iff.mp failed with operandFailed | ⟨value, evaluated, refused⟩
  · exact bind_eq_error_iff.mpr (Or.inl (holds operandFailed))
  · have exact := ((evaluate_eq_ok_iff value).mp evaluated).1
    rw [narrows] at refused
    rw [exact, ok_bind]
    exact Step.narrow_eq_other refused other

/-- Whatever else evaluation fails with, exact evaluation fails with as well. -/
theorem ideal_eq_error {expr : Expr} {fault : Fault} (other : ∀ step, fault ≠ .overflow step)
    (failed : expr.evaluate environment = .error fault) :
    expr.ideal environment = .error fault := by
  induction expr with
  | literal value => cases failed
  | reference name =>
      cases bound : environment.get? name with
      | some value => simp only [evaluate, bound, reduceCtorEq] at failed
      | none =>
          simp only [evaluate, bound] at failed
          cases failed
          simp only [ideal, bound]
  | binary operator left right leftInduction rightInduction =>
      rcases bind_eq_error_iff.mp failed with leftFailed | ⟨leftValue, leftEvaluated, failed⟩
      · exact bind_eq_error_iff.mpr (Or.inl (leftInduction leftFailed))
      have leftExact := ((evaluate_eq_ok_iff leftValue).mp leftEvaluated).1
      rw [ideal, leftExact, ok_bind]
      rcases bind_eq_error_iff.mp failed with rightFailed | ⟨rightValue, rightEvaluated, failed⟩
      · exact bind_eq_error_iff.mpr (Or.inl (rightInduction rightFailed))
      have rightExact := ((evaluate_eq_ok_iff rightValue).mp rightEvaluated).1
      rw [operator.apply_eq_narrow] at failed
      rw [rightExact, ok_bind]
      exact Step.narrow_eq_other failed (other _)
  | negate operand induction =>
      exact unary_eq_error Value.negate_eq_narrow induction (other _) failed
  | not operand induction =>
      exact unary_eq_error (fun value => value.not_eq_narrow .negation) induction (other _) failed
  | group inner induction => exact induction failed

/-- Evaluation is exact integer arithmetic or an overflow. It has a value exactly when evaluation
over unbounded integers has this value and gives every part that is an integer one that 64 bits
hold. It overflows exactly when the part at which it stops is a step with an exact result outside
them, which is the step that it names. In every other case it fails as the unbounded evaluation
does. -/
theorem evaluation_exact (environment : Environment) (expr : Expr) :
    (∀ value : Value, expr.evaluate environment = .ok value ↔
      expr.ideal environment = .ok value.ideal ∧
        ∀ part ∈ expr.parts, ∀ number, part.ideal environment = .ok (.int number) →
          -2 ^ 63 ≤ number ∧ number ≤ 2 ^ 63 - 1) ∧
    (∀ step, expr.evaluate environment = .error (.overflow step) ↔
      ∃ part number, expr.stop? environment = some part ∧ part.step? = some step ∧
        part.ideal environment = .ok (.int number) ∧
          (number < -2 ^ 63 ∨ 2 ^ 63 - 1 < number)) ∧
    ∀ fault, expr.evaluate environment = .error fault → (∀ step, fault ≠ .overflow step) →
      expr.ideal environment = .error fault := by
  refine ⟨evaluate_eq_ok_iff, ?_, fun _ failed other => ideal_eq_error other failed⟩
  intro step
  have outside (number : Int) : ¬InRange number ↔ number < -2 ^ 63 ∨ 2 ^ 63 - 1 < number := by
    rw [InRange, not_and_or, Int.not_le, Int.not_le]
  simp only [evaluate_eq_overflow_iff, outside]

end Expr

def depthEnvironment : Environment :=
  Environment.empty.set "depth" (.int ((Word.ofInt? (-9223372036854775808)).getD Word.zero))

def heightless : Expr :=
  .binary .eq
    (.binary .mul (.group (.negate (.reference "depth"))) (.literal (.int Word.zero)))
    (.literal (.int Word.zero))

theorem heightless_overflows :
    heightless.ideal depthEnvironment = .ok (.bool true) ∧
      heightless.evaluate depthEnvironment = .error (.overflow .negation) ∧
      ¬∃ value, heightless.evaluate depthEnvironment = .ok value := by
  obtain ⟨_, overflows, _⟩ := Expr.evaluation_exact depthEnvironment heightless
  have overflow : heightless.evaluate depthEnvironment = .error (.overflow .negation) :=
    (overflows .negation).mpr ⟨_, 2 ^ 63, rfl, rfl, rfl, by decide⟩
  refine ⟨rfl, overflow, ?_⟩
  rintro ⟨value, evaluated⟩
  cases overflow.symm.trans evaluated

end StateMachine
