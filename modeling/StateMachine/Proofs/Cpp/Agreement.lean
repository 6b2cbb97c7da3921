import StateMachine.Cpp.Program
import StateMachine.Proofs.Cpp.Reading

/-!
The C++ text of an expression against its value. The text has the value of the expression or no
value at all. What can be missing is a suffix of the literals, as arithmetic on small ones alone
happens in 32 bits.
-/

set_option autoImplicit false

namespace StateMachine

open Cpp

/-- Whenever an expression has a value, its text is a C++ expression that has this value or none. It
has one exactly when no integer on the way exceeds the width of its literals. -/
theorem Expr.cpp_value (path : String) {environment : Environment} {expr : Expr} {value : Value}
    (nameable : ∀ name ∈ expr.references, IsVariable (path ++ name))
    (evaluated : expr.evaluate environment = .ok value) :
    ∃ term, readTerm? (expr.cpp path) = some term ∧
      ∀ quantity, term.value? (environment.memory path) = some quantity ↔
        expr.StaysInWidth environment ∧ quantity = value.quantity expr.width :=
  ⟨expr.term path, expr.read_cpp path nameable, expr.term_value_eq_some_iff path evaluated⟩

theorem door_guard_translated :
    (∀ name ∈ doorGuard.references, IsVariable (contextPath ++ name)) ∧
      doorGuard.evaluate doorEnvironment = .ok (.bool false) ∧
      ∃ term, readTerm? (doorGuard.cpp contextPath) = some term ∧
        ∀ quantity, term.value? (doorEnvironment.memory contextPath) = some quantity ↔
          doorGuard.StaysInWidth doorEnvironment ∧
            quantity = (Value.bool false).quantity doorGuard.width := by
  have nameable : ∀ name ∈ doorGuard.references, IsVariable (contextPath ++ name) := by
    intro name member
    obtain rfl | rfl : name = "count" ∨ name = "shut" := by
      simpa [doorGuard, Expr.references] using member
    all_goals decide
  have evaluated : doorGuard.evaluate doorEnvironment = .ok (.bool false) := rfl
  exact ⟨nameable, evaluated, Expr.cpp_value contextPath nameable evaluated⟩

def largeProduct : Expr :=
  .binary .mul (.literal (.int ⟨100000, by decide, by decide⟩))
    (.literal (.int ⟨100000, by decide, by decide⟩))

/-- Inference accepts the product and a session computes it, but its text is undefined. -/
theorem large_product_undefined :
    largeProduct.infer (Scope.ofAll []) = .ok .int ∧ Environment.empty.Conforms [] ∧
      largeProduct.evaluate Environment.empty =
        .ok (.int ⟨10000000000, by decide, by decide⟩) ∧
      ∃ term, readTerm? (largeProduct.cpp contextPath) = some term ∧
        term.value? (Environment.empty.memory contextPath) = none := by
  refine ⟨rfl, ?_, rfl, largeProduct.term contextPath, ?_, rfl⟩
  · intro name owner found
    cases found
  · apply Expr.read_cpp
    intro name member
    cases member

end StateMachine
