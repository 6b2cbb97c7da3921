import StateMachine.Expr.Infer
import StateMachine.Proofs.Environment.Binding
import StateMachine.Proofs.Sequence

/-!
Inference and evaluation agree: an expression with a type evaluates to a value of that type or fails
arithmetically, and an expression without one fails as inference says or arithmetically.
-/

set_option autoImplicit false

namespace StateMachine

namespace Environment

/-- Every declared name is bound to a value of the type of its first declaration. Other names may
be bound as well. -/
def Conforms (environment : Environment) (declared : List Attribute) : Prop :=
  ∀ name owner, declared.find? (fun other => other.name == name) = some owner →
    ∃ value, environment.get? name = some value ∧ value.ty = owner.ty

/-- The declared names and no others are bound, each to a value of the type of its first
declaration. -/
structure Matches (environment : Environment) (declared : List Attribute) : Prop where
  conforms : environment.Conforms declared
  declared_of_bound : ∀ name ∈ environment.names, name ∈ declared.map Attribute.name

theorem conforms_of_forall_mem {environment : Environment} {declared : List Attribute}
    (bound : ∀ owner ∈ declared, ∃ value,
      environment.get? owner.name = some value ∧ value.ty = owner.ty) :
    environment.Conforms declared := by
  intro name owner found
  have named : owner.name = name := by simpa using List.find?_some found
  rw [← named]
  exact bound owner (List.mem_of_find?_eq_some found)

end Environment

theorem Fault.is_arithmetic_iff (fault : Fault) :
    fault.isArithmetic = true ↔ fault = .divisionByZero ∨ ∃ step, fault = .overflow step := by
  cases fault <;> simp [Fault.isArithmetic]

theorem arithmetic_error_cases {α : Type} {result : Except Fault α}
    (failed : ∃ fault, result = .error fault ∧ fault.isArithmetic = true) :
    result = .error .divisionByZero ∨ ∃ step, result = .error (.overflow step) := by
  obtain ⟨fault, rfl, arithmetic⟩ := failed
  obtain rfl | ⟨step, rfl⟩ := fault.is_arithmetic_iff.mp arithmetic
  · exact Or.inl rfl
  · exact Or.inr ⟨step, rfl⟩

/-- What an expression of a type evaluates to: a value of the type or an arithmetic fault. -/
def Yields (ty : Ty) (result : Except Fault Value) : Prop :=
  (∃ value, result = .ok value ∧ value.ty = ty) ∨
    ∃ fault, result = .error fault ∧ fault.isArithmetic = true

theorem Yields.ok_iff {ty : Ty} {value : Value} : Yields ty (.ok value) ↔ value.ty = ty := by
  simp [Yields]

theorem Yields.error_iff {ty : Ty} {fault : Fault} :
    Yields ty (.error fault) ↔ fault.isArithmetic = true := by
  simp [Yields]

theorem Step.exact_yields (step : Step) (result : Int) : Yields .int (step.exact result) := by
  unfold Step.exact
  split
  · exact Yields.ok_iff.mpr rfl
  · exact Yields.error_iff.mpr rfl

namespace Operator

theorem infer_eq_ok_iff {operator : Operator} {left right ty : Ty} :
    operator.infer left right = .ok ty ↔ left = right ∧ operator.resultTy? left = some ty := by
  unfold infer
  by_cases same : left = right
  · simp only [same, if_true, true_and]
    cases operator.resultTy? right <;> simp
  · simp [same]

theorem apply_ints_yields {operator : Operator} {ty : Ty} (left right : Word)
    (typed : operator.resultTy? .int = some ty) : Yields ty (operator.applyInts left right) := by
  cases operator <;> cases typed
  case add => exact Step.exact_yields _ _
  case sub => exact Step.exact_yields _ _
  case mul => exact Step.exact_yields _ _
  case div =>
    simp only [applyInts]
    split
    · exact Yields.error_iff.mpr rfl
    · exact Step.exact_yields _ _
  all_goals exact Yields.ok_iff.mpr rfl

theorem apply_flags_yields {operator : Operator} {ty : Ty} (left right : Bool)
    (typed : operator.resultTy? .bool = some ty) : Yields ty (operator.applyFlags left right) := by
  cases operator <;> cases typed <;> exact Yields.ok_iff.mpr rfl

theorem apply_yields {operator : Operator} {left right : Value} {ty : Ty}
    (inferred : operator.infer left.ty right.ty = .ok ty) :
    Yields ty (operator.apply left right) := by
  obtain ⟨same, typed⟩ := infer_eq_ok_iff.mp inferred
  cases left with
  | int first =>
      cases right with
      | int second => exact apply_ints_yields first second typed
      | bool second => cases same
  | bool first =>
      cases right with
      | int second => cases same
      | bool second => exact apply_flags_yields first second typed

/-- An operator that takes no operands of these types refuses the values as it refuses the
types. -/
theorem apply_eq_error {operator : Operator} {left right : Value} {fault : Fault}
    (refused : operator.infer left.ty right.ty = .error fault) :
    operator.apply left right = .error fault := by
  cases left with
  | int first =>
      cases right with
      | int second => cases operator <;> cases refused <;> rfl
      | bool second => cases refused; rfl
  | bool first =>
      cases right with
      | int second => cases refused; rfl
      | bool second => cases operator <;> cases refused <;> rfl

end Operator

theorem Value.negate_yields {value : Value} (integer : value.ty = .int) :
    Yields .int value.negate := by
  cases value with
  | int word => exact Step.exact_yields _ _
  | bool flag => cases integer

theorem Value.not_yields {value : Value} (flagged : value.ty = .bool) : Yields .bool value.not := by
  cases value with
  | int word => cases flagged
  | bool flag => exact Yields.ok_iff.mpr rfl

theorem Yields.bind {ty other : Ty} {first : Except Fault Value}
    {next : Value → Except Fault Value} (firstYields : Yields ty first)
    (nextYields : ∀ value, value.ty = ty → Yields other (next value)) :
    Yields other (first >>= next) := by
  obtain ⟨value, rfl, typed⟩ | ⟨fault, rfl, arithmetic⟩ := firstYields
  · exact nextYields value typed
  · exact Yields.error_iff.mpr arithmetic

theorem Scope.lookup_eq_ok {scope : Scope} {name : String} {ty : Ty}
    (found : scope.lookup name = .ok ty) :
    ∃ owner, scope.visible.find? (fun other => other.name == name) = some owner ∧
      owner.ty = ty := by
  unfold Scope.lookup at found
  split at found
  · next owner visible => exact ⟨owner, visible, Except.ok.inj found⟩
  · cases found
  · split at found <;> cases found

namespace Expr

theorem infer_binary_eq_ok {scope : Scope} {operator : Operator} {left right : Expr} {ty : Ty}
    (inferred : (binary operator left right).infer scope = .ok ty) :
    ∃ leftTy rightTy, left.infer scope = .ok leftTy ∧ right.infer scope = .ok rightTy ∧
      operator.infer leftTy rightTy = .ok ty := by
  simp only [infer, bind_eq_ok_iff] at inferred
  obtain ⟨leftTy, leftInferred, rightTy, rightInferred, result, accepted, final⟩ := inferred
  refine ⟨leftTy, rightTy, leftInferred, rightInferred, ?_⟩
  split at final
  · obtain ⟨_, _, returned⟩ := bind_eq_ok_iff.mp final
    cases returned
    exact accepted
  · cases final
    exact accepted

theorem infer_negate_eq_ok {scope : Scope} {operand : Expr} {ty : Ty}
    (inferred : (negate operand).infer scope = .ok ty) :
    operand.infer scope = .ok .int ∧ ty = .int := by
  simp only [infer, bind_eq_ok_iff] at inferred
  obtain ⟨operandTy, operandInferred, final⟩ := inferred
  cases operandTy with
  | int => cases final; exact ⟨operandInferred, rfl⟩
  | bool => cases final

theorem infer_not_eq_ok {scope : Scope} {operand : Expr} {ty : Ty}
    (inferred : (not operand).infer scope = .ok ty) :
    operand.infer scope = .ok .bool ∧ ty = .bool := by
  simp only [infer, bind_eq_ok_iff] at inferred
  obtain ⟨operandTy, operandInferred, final⟩ := inferred
  cases operandTy with
  | int => cases final
  | bool => cases final; exact ⟨operandInferred, rfl⟩

/-- The scope may be that of a default; the environment has to fit what is visible in it. -/
theorem evaluate_yields (scope : Scope) {environment : Environment}
    (conforms : environment.Conforms scope.visible) {expr : Expr} {ty : Ty}
    (inferred : expr.infer scope = .ok ty) : Yields ty (expr.evaluate environment) := by
  induction expr generalizing ty with
  | literal value =>
      cases inferred
      exact Yields.ok_iff.mpr rfl
  | reference name =>
      obtain ⟨owner, visible, rfl⟩ := Scope.lookup_eq_ok inferred
      obtain ⟨value, bound, typed⟩ := conforms name owner visible
      simp only [evaluate, bound]
      exact Yields.ok_iff.mpr typed
  | binary operator left right leftInduction rightInduction =>
      obtain ⟨leftTy, rightTy, leftInferred, rightInferred, accepted⟩ :=
        infer_binary_eq_ok inferred
      apply (leftInduction leftInferred).bind
      intro first firstTyped
      apply (rightInduction rightInferred).bind
      intro second secondTyped
      apply Operator.apply_yields
      rw [firstTyped, secondTyped]
      exact accepted
  | negate operand induction =>
      obtain ⟨operandInferred, rfl⟩ := infer_negate_eq_ok inferred
      exact (induction operandInferred).bind fun _ integer => Value.negate_yields integer
  | not operand induction =>
      obtain ⟨operandInferred, rfl⟩ := infer_not_eq_ok inferred
      exact (induction operandInferred).bind fun _ flagged => Value.not_yields flagged
  | group inner induction => exact induction inferred

/-- Type soundness. In particular no inferred expression ends in an unbound or mismatched operand or
in an operator that does not take its operands. -/
theorem evaluate_of_inferred {declared : List Attribute} {environment : Environment}
    (conforms : environment.Conforms declared) {expr : Expr} {ty : Ty}
    (inferred : expr.infer (Scope.ofAll declared) = .ok ty) :
    (∃ value, expr.evaluate environment = .ok value ∧ value.ty = ty) ∨
      expr.evaluate environment = .error .divisionByZero ∨
      ∃ step, expr.evaluate environment = .error (.overflow step) := by
  obtain evaluated | failed := evaluate_yields (Scope.ofAll declared) conforms inferred
  · exact Or.inl evaluated
  · exact Or.inr (arithmetic_error_cases failed)

end Expr

def doorAttributes : List Attribute :=
  [⟨"count", .int, none⟩,
    ⟨"shut", .bool, some (.binary .eq (.reference "count") (.literal (.int Word.zero)))⟩]

def doorEnvironment : Environment :=
  (Environment.empty.set "count" (.int ⟨4, by decide, by decide⟩)).set "shut" (.bool true)

def doorGuard : Expr :=
  .binary .eq
    (.binary .gt
      (.binary .div (.literal (.int ⟨10, by decide, by decide⟩)) (.reference "count"))
      (.literal (.int Word.zero)))
    (.not (.reference "shut"))

theorem door_environment_conforms : doorEnvironment.Conforms doorAttributes := by
  apply Environment.conforms_of_forall_mem
  simp [doorAttributes, doorEnvironment, Value.ty]

theorem door_guard_evaluates :
    doorEnvironment.Conforms doorAttributes ∧
      doorGuard.infer (Scope.ofAll doorAttributes) = .ok .bool ∧
      ((∃ value, doorGuard.evaluate doorEnvironment = .ok value ∧ value.ty = .bool) ∨
        doorGuard.evaluate doorEnvironment = .error .divisionByZero ∨
        ∃ step, doorGuard.evaluate doorEnvironment = .error (.overflow step)) :=
  ⟨door_environment_conforms, rfl, Expr.evaluate_of_inferred door_environment_conforms rfl⟩

end StateMachine
