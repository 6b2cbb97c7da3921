import StateMachine.Proofs.Expr.Reference
import StateMachine.Proofs.Expr.Typing

/-!
What inference refuses has no value: evaluation ends in the fault that inference names, unless it
meets an arithmetic fault first.
-/

set_option autoImplicit false

namespace StateMachine

/-- The evaluation of an expression that was refused for `fault`. -/
def Refuses (fault : Fault) (result : Except Fault Value) : Prop :=
  result = .error fault ∨ ∃ other, result = .error other ∧ other.isArithmetic = true

theorem Refuses.bind {fault : Fault} {first : Except Fault Value}
    {next : Value → Except Fault Value} (refused : Refuses fault first) :
    Refuses fault (first >>= next) := by
  obtain rfl | ⟨other, rfl, arithmetic⟩ := refused
  · exact Or.inl rfl
  · exact Or.inr ⟨other, rfl, arithmetic⟩

/-- A fault of a later operand shows unless an earlier one ends in an arithmetic fault. -/
theorem Yields.bind_refuses {ty : Ty} {fault : Fault} {first : Except Fault Value}
    {next : Value → Except Fault Value} (firstYields : Yields ty first)
    (nextRefuses : ∀ value, value.ty = ty → Refuses fault (next value)) :
    Refuses fault (first >>= next) := by
  obtain ⟨value, rfl, typed⟩ | ⟨other, rfl, arithmetic⟩ := firstYields
  · exact nextRefuses value typed
  · exact Or.inr ⟨other, rfl, arithmetic⟩

theorem Value.negate_refuses {value : Value} (flagged : value.ty = .bool) :
    value.negate = .error (.mismatch .negated .int .bool) := by
  cases value with
  | int word => cases flagged
  | bool flag => rfl

theorem Value.not_refuses {value : Value} (integer : value.ty = .int) :
    value.not = .error (.mismatch .inverted .bool .int) := by
  cases value with
  | int word => rfl
  | bool flag => cases integer

theorem Environment.Matches.get_eq_none {environment : Environment} {declared : List Attribute}
    (agrees : environment.Matches declared) {name : String}
    (undeclared : declared.find? (fun other => other.name == name) = none) :
    environment.get? name = none := by
  apply Environment.get_eq_none_iff.mpr
  intro bound
  obtain ⟨owner, member, named⟩ := List.mem_map.mp (agrees.declared_of_bound name bound)
  exact List.find?_eq_none.mp undeclared owner member (beq_iff_eq.mpr named)

theorem Scope.lookup_eq_error {declared : List Attribute} {name : String} {fault : Fault}
    (missing : (Scope.ofAll declared).lookup name = .error fault) :
    declared.find? (fun other => other.name == name) = none ∧ fault = .unbound name := by
  simp only [Scope.lookup, Scope.visible, Scope.ofAll] at missing
  split at missing
  · cases missing
  · next undeclared _ => exact ⟨undeclared, (Except.error.inj missing).symm⟩
  · next ownerIs => cases ownerIs

namespace Operator

theorem div_infer_eq_ok {left right ty : Ty} (accepted : div.infer left right = .ok ty) :
    left = .int ∧ right = .int := by
  obtain ⟨same, typed⟩ := infer_eq_ok_iff.mp accepted
  cases left with
  | int => exact ⟨rfl, same.symm⟩
  | bool => cases typed

theorem apply_div_zero {value : Value} (integer : value.ty = .int) :
    div.apply value (.int Word.zero) = .error .divisionByZero := by
  cases value with
  | int word => rfl
  | bool flag => cases integer

end Operator

namespace Expr

/-- A constant divisor that is refused has no value, or is zero, wherever it is evaluated. -/
theorem check_divisor_eq_error {divisor : Expr} {fault : Fault}
    (constant : divisor.isConstant = true) (refused : divisor.checkDivisor = .error fault)
    (environment : Environment) :
    divisor.evaluate environment = .error fault ∨
      divisor.evaluate environment = .ok (.int Word.zero) ∧ fault = .divisionByZero := by
  rw [evaluate_constant constant environment Environment.empty]
  obtain failed | ⟨value, evaluated, final⟩ := bind_eq_error_iff.mp refused
  · exact Or.inl failed
  · split at final
    · next isZero =>
        subst isZero
        exact Or.inr ⟨evaluated, (Except.error.inj final).symm⟩
    · cases final

theorem infer_binary_eq_error {scope : Scope} {operator : Operator} {left right : Expr}
    {fault : Fault} (refused : (binary operator left right).infer scope = .error fault) :
    left.infer scope = .error fault ∨
      ∃ leftTy, left.infer scope = .ok leftTy ∧
        (right.infer scope = .error fault ∨
          ∃ rightTy, right.infer scope = .ok rightTy ∧
            (operator.infer leftTy rightTy = .error fault ∨
              operator = .div ∧ leftTy = .int ∧ rightTy = .int ∧ right.isConstant = true ∧
                right.checkDivisor = .error fault)) := by
  simp only [infer, bind_eq_error_iff] at refused
  obtain leftRefused | ⟨leftTy, leftInferred, refused⟩ := refused
  · exact Or.inl leftRefused
  refine Or.inr ⟨leftTy, leftInferred, ?_⟩
  obtain rightRefused | ⟨rightTy, rightInferred, refused⟩ := refused
  · exact Or.inl rightRefused
  refine Or.inr ⟨rightTy, rightInferred, ?_⟩
  obtain operatorRefused | ⟨result, accepted, refused⟩ := refused
  · exact Or.inl operatorRefused
  split at refused
  · next divides =>
      simp only [Bool.and_eq_true, decide_eq_true_eq] at divides
      obtain ⟨rfl, constant⟩ := divides
      obtain ⟨leftIsInt, rightIsInt⟩ := Operator.div_infer_eq_ok accepted
      obtain divisorRefused | ⟨_, _, returned⟩ := bind_eq_error_iff.mp refused
      · exact Or.inr ⟨rfl, leftIsInt, rightIsInt, constant, divisorRefused⟩
      · cases returned
  · cases refused

theorem infer_negate_eq_error {scope : Scope} {operand : Expr} {fault : Fault}
    (refused : (negate operand).infer scope = .error fault) :
    operand.infer scope = .error fault ∨
      operand.infer scope = .ok .bool ∧ fault = .mismatch .negated .int .bool := by
  simp only [infer, bind_eq_error_iff] at refused
  obtain operandRefused | ⟨operandTy, operandInferred, final⟩ := refused
  · exact Or.inl operandRefused
  · cases operandTy with
    | int => cases final
    | bool => exact Or.inr ⟨operandInferred, (Except.error.inj final).symm⟩

theorem infer_not_eq_error {scope : Scope} {operand : Expr} {fault : Fault}
    (refused : (not operand).infer scope = .error fault) :
    operand.infer scope = .error fault ∨
      operand.infer scope = .ok .int ∧ fault = .mismatch .inverted .bool .int := by
  simp only [infer, bind_eq_error_iff] at refused
  obtain operandRefused | ⟨operandTy, operandInferred, final⟩ := refused
  · exact Or.inl operandRefused
  · cases operandTy with
    | int => exact Or.inr ⟨operandInferred, (Except.error.inj final).symm⟩
    | bool => cases final

theorem evaluate_refuses {declared : List Attribute} {environment : Environment}
    (agrees : environment.Matches declared) {expr : Expr} {fault : Fault}
    (refused : expr.infer (Scope.ofAll declared) = .error fault) :
    Refuses fault (expr.evaluate environment) := by
  have yields {operand : Expr} {ty : Ty}
      (inferred : operand.infer (Scope.ofAll declared) = .ok ty) :
      Yields ty (operand.evaluate environment) :=
    evaluate_yields (Scope.ofAll declared) agrees.conforms inferred
  induction expr generalizing fault with
  | literal value => cases refused
  | reference name =>
      obtain ⟨undeclared, rfl⟩ := Scope.lookup_eq_error refused
      simp only [evaluate, agrees.get_eq_none undeclared]
      exact Or.inl rfl
  | binary operator left right leftInduction rightInduction =>
      obtain leftRefused | ⟨leftTy, leftInferred, refused⟩ := infer_binary_eq_error refused
      · exact (leftInduction leftRefused).bind
      apply (yields leftInferred).bind_refuses
      intro first firstTyped
      obtain rightRefused | ⟨rightTy, rightInferred, refused⟩ := refused
      · exact (rightInduction rightRefused).bind
      obtain operatorRefused | ⟨rfl, rfl, rfl, constant, divisorRefused⟩ := refused
      · apply (yields rightInferred).bind_refuses
        intro second secondTyped
        rw [← firstTyped, ← secondTyped] at operatorRefused
        exact Or.inl (Operator.apply_eq_error operatorRefused)
      -- The left operand is a word here, so the divisor's fault is met, or its zero divides.
      · obtain failed | ⟨isZero, rfl⟩ :=
          check_divisor_eq_error constant divisorRefused environment
        · exact Or.inl (by rw [failed]; rfl)
        · exact Or.inl (by rw [isZero]; exact Operator.apply_div_zero firstTyped)
  | negate operand induction =>
      obtain operandRefused | ⟨operandInferred, rfl⟩ := infer_negate_eq_error refused
      · exact (induction operandRefused).bind
      · exact (yields operandInferred).bind_refuses fun _ flagged =>
          Or.inl (Value.negate_refuses flagged)
  | not operand induction =>
      obtain operandRefused | ⟨operandInferred, rfl⟩ := infer_not_eq_error refused
      · exact (induction operandRefused).bind
      · exact (yields operandInferred).bind_refuses fun _ integer =>
          Or.inl (Value.not_refuses integer)
  | group inner induction => exact induction refused

/-- Inference refuses nothing that has a value, and names the fault that evaluation meets. -/
theorem evaluate_of_refused {declared : List Attribute} {environment : Environment}
    (agrees : environment.Matches declared) (expr : Expr) :
    (∀ fault, expr.infer (Scope.ofAll declared) = .error fault →
      expr.evaluate environment = .error fault ∨
        expr.evaluate environment = .error .divisionByZero ∨
        ∃ step, expr.evaluate environment = .error (.overflow step)) ∧
    ∀ value, expr.evaluate environment = .ok value →
      expr.infer (Scope.ofAll declared) = .ok value.ty := by
  constructor
  · intro fault refused
    obtain same | failed := evaluate_refuses agrees refused
    · exact Or.inl same
    · exact Or.inr (arithmetic_error_cases failed)
  · intro value evaluated
    cases inferred : expr.infer (Scope.ofAll declared) with
    | ok ty =>
        have yields := evaluate_yields (Scope.ofAll declared) agrees.conforms inferred
        rw [evaluated, Yields.ok_iff] at yields
        rw [yields]
    | error fault =>
        obtain same | ⟨other, failed, _⟩ := evaluate_refuses agrees inferred
        · rw [evaluated] at same
          cases same
        · rw [evaluated] at failed
          cases failed

end Expr

def doorMisuse : Expr :=
  .binary .and
    (.binary .add (.literal (.int ⟨9223372036854775807, by decide, by decide⟩))
      (.reference "count"))
    (.reference "shut")

theorem door_environment_matches : doorEnvironment.Matches doorAttributes where
  conforms := door_environment_conforms
  declared_of_bound := by decide

theorem door_misuse_fails :
    doorEnvironment.Matches doorAttributes ∧
      doorMisuse.infer (Scope.ofAll doorAttributes) =
        .error (.mismatch (.operands .and) .int .bool) ∧
      (doorMisuse.evaluate doorEnvironment = .error (.mismatch (.operands .and) .int .bool) ∨
        doorMisuse.evaluate doorEnvironment = .error .divisionByZero ∨
        ∃ step, doorMisuse.evaluate doorEnvironment = .error (.overflow step)) := by
  have both := Expr.evaluate_of_refused door_environment_matches doorMisuse
  exact ⟨door_environment_matches, rfl, both.1 _ rfl⟩

/-- The sum overflows before the operands are compared. -/
example : doorMisuse.evaluate doorEnvironment = .error (.overflow (.binary .add)) := rfl

end StateMachine
