import StateMachine.Proofs.Expr.Refusal
import StateMachine.Proofs.Expr.Scope

/-!
The scope of a default is the list of the attributes before its owner. What is refused there is
refused with those attributes alone, and for the same reason; only a name that is declared too late
is called out of scope in the one and unbound in the other.
-/

set_option autoImplicit false

namespace StateMachine

def firstPlace (declared : List Attribute) (name : String) : Nat :=
  declared.findIdx fun other => other.name == name

/-- The name is declared at or behind a position, and nowhere before it. -/
def IsLate (declared : List Attribute) (place : Nat) (name : String) : Prop :=
  name ∈ (declared.drop place).map Attribute.name ∧ name ∉ (declared.take place).map Attribute.name

instance (declared : List Attribute) (place : Nat) (name : String) :
    Decidable (IsLate declared place name) :=
  inferInstanceAs (Decidable (_ ∧ _))

/-- How the default of `owner` names a fault that the attributes before it would end in alone. -/
def Fault.inDefault (declared : List Attribute) (owner : String) : Fault → Fault
  | .unbound name =>
      if IsLate declared (firstPlace declared owner) name then .outOfScope name owner
      else .unbound name
  | fault => fault

/-- Only a fault about an unbound name may be worded in another way. -/
def KeepsOthers (change : Fault → Fault) : Prop :=
  ∀ fault, (∀ name, fault ≠ .unbound name) → change fault = fault

theorem Fault.in_default_keeps_others (declared : List Attribute) (owner : String) :
    KeepsOthers (Fault.inDefault declared owner) := by
  intro fault other
  cases fault with
  | unbound name => exact absurd rfl (other name)
  | outOfScope _ _ | mismatch _ _ _ | divisionByZero | unsupported _ _ | overflow _ => rfl

theorem mapError_bind {ε δ α β : Type} (change : ε → δ) (first : Except ε α)
    (next : α → Except ε β) :
    (first >>= next).mapError change =
      first.mapError change >>= fun value => (next value).mapError change := by
  cases first with
  | error fault => rfl
  | ok value => rfl

theorem KeepsOthers.mapError_eq {α : Type} {change : Fault → Fault} (keeps : KeepsOthers change)
    {step : Except Fault α} (bound : ∀ name, step ≠ .error (.unbound name)) :
    step.mapError change = step := by
  cases step with
  | ok value => rfl
  | error fault =>
      have other : ∀ name, fault ≠ .unbound name := fun name same => bound name (by rw [same])
      rw [Except.mapError, keeps fault other]

theorem Operator.infer_ne_unbound (operator : Operator) (left right : Ty) (name : String) :
    operator.infer left right ≠ .error (.unbound name) := by
  unfold infer
  split
  · split <;> exact fun same => nomatch same
  · exact fun same => nomatch same

namespace Expr

/-- A divisor that is computed mentions no name. -/
theorem check_divisor_ne_unbound {divisor : Expr} (constant : divisor.isConstant = true)
    (name : String) : divisor.checkDivisor ≠ .error (.unbound name) := by
  intro refused
  rcases check_divisor_eq_error constant refused Environment.empty with failed | zero
  · have mentioned := (evaluate_eq_unbound failed).1
    rw [(is_constant_iff_no_references divisor).mp constant] at mentioned
    cases mentioned
  · nomatch zero.2

/-- Two scopes that look names up alike, but for the wording of their faults, give the same types and
refuse the same expressions, in the same words otherwise. -/
theorem infer_reworded {first second : Scope} {change : Fault → Fault}
    (looks : ∀ name, second.lookup name = (first.lookup name).mapError change)
    (keeps : KeepsOthers change) (expr : Expr) :
    expr.infer second = (expr.infer first).mapError change := by
  induction expr with
  | literal value => rfl
  | reference name => exact looks name
  | binary operator left right leftInduction rightInduction =>
      simp only [infer, mapError_bind, leftInduction, rightInduction]
      congr 1
      funext leftTy
      congr 1
      funext rightTy
      rw [keeps.mapError_eq (operator.infer_ne_unbound leftTy rightTy)]
      congr 1
      funext result
      split
      · next divides =>
          have constant := (Bool.and_eq_true_iff.mp divides).2
          rw [mapError_bind, keeps.mapError_eq (check_divisor_ne_unbound constant)]
          rfl
      · rfl
  | negate operand induction =>
      simp only [infer, mapError_bind, induction]
      congr 1
      funext ty
      cases ty with
      | int => rfl
      | bool =>
          have kept := keeps (.mismatch .negated .int .bool) fun _ => Fault.noConfusion
          exact congrArg Except.error kept.symm
  | not operand induction =>
      simp only [infer, mapError_bind, induction]
      congr 1
      funext ty
      cases ty with
      | bool => rfl
      | int =>
          have kept := keeps (.mismatch .inverted .bool .int) fun _ => Fault.noConfusion
          exact congrArg Except.error kept.symm
  | group inner induction => exact induction

end Expr

theorem find_take {α : Type} (holds : α → Bool) (elements : List α) (place : Nat) :
    (elements.take place).find? holds =
      if elements.findIdx holds < place then elements.find? holds else none := by
  induction elements generalizing place with
  | nil => simp only [List.take_nil, List.find?_nil, ite_self]
  | cons element rest induction =>
      cases place with
      | zero => simp
      | succ place =>
          cases here : holds element with
          | true => simp [List.findIdx_cons, here]
          | false => simp [List.findIdx_cons, here, induction]

namespace Scope

theorem visible_before (declared : List Attribute) (owner : String) :
    (forDefault declared owner).visible = declared.take (firstPlace declared owner) := by
  simp only [forDefault, visible, List.takeWhile_eq_take_findIdx_not, Bool.not_not, firstPlace]

/-- A name is visible to a default when its first declaration stands before the owner's. -/
theorem lookup_for_default (declared : List Attribute) (owner name : String) :
    (forDefault declared owner).lookup name =
      match declared.find? fun other => other.name == name with
      | none => .error (.unbound name)
      | some found =>
          if firstPlace declared name < firstPlace declared owner then .ok found.ty
          else .error (.outOfScope name owner) := by
  rw [lookup, visible_before, find_take, ← firstPlace]
  cases search : declared.find? fun other => other.name == name with
  | none =>
      have absent : (declared.any fun other => other.name == name) = false := by
        rw [← List.isSome_find?, search]
        rfl
      simp only [ite_self, forDefault, absent]
      rfl
  | some found =>
      have present : (declared.any fun other => other.name == name) = true := by
        rw [← List.isSome_find?, search]
        rfl
      by_cases before : firstPlace declared name < firstPlace declared owner
      · simp only [before, if_true]
      · simp only [before, if_false, forDefault, present, if_true]

theorem lookup_of_all (declared : List Attribute) (name : String) :
    (ofAll declared).lookup name =
      match declared.find? fun other => other.name == name with
      | none => .error (.unbound name)
      | some found => .ok found.ty := by
  rw [lookup, visible_of_all]
  cases declared.find? fun other => other.name == name with
  | none => rfl
  | some found => rfl

theorem is_late_iff {declared : List Attribute} {place : Nat} {name : String} :
    IsLate declared place name ↔
      name ∈ declared.map Attribute.name ∧ place ≤ firstPlace declared name := by
  have whole : name ∈ declared.map Attribute.name ↔
      name ∈ (declared.take place).map Attribute.name ∨
        name ∈ (declared.drop place).map Attribute.name := by
    rw [← List.mem_append, ← List.map_append, List.take_append_drop]
  have early : name ∈ (declared.take place).map Attribute.name ↔
      name ∈ declared.map Attribute.name ∧ firstPlace declared name < place := by
    rw [← find_isSome_iff_mem_names, ← find_isSome_iff_mem_names, find_take, ← firstPlace]
    split
    · next before => simp [before]
    · next behind => simp [behind]
  rw [IsLate, early, ← Nat.not_lt]
  tauto

theorem lookup_in_default (declared : List Attribute) (owner name : String) :
    (forDefault declared owner).lookup name =
      ((ofAll (declared.take (firstPlace declared owner))).lookup name).mapError
        (Fault.inDefault declared owner) := by
  rw [lookup_for_default, lookup_of_all, find_take, ← firstPlace]
  cases search : declared.find? fun other => other.name == name with
  | none =>
      have undeclared : ¬ name ∈ declared.map Attribute.name := by
        rw [← find_isSome_iff_mem_names, search]
        exact Bool.false_ne_true
      have timely : ¬ IsLate declared (firstPlace declared owner) name := fun late =>
        undeclared (is_late_iff.mp late).1
      simp only [ite_self, Except.mapError, Fault.inDefault, timely, if_false]
  | some found =>
      have present : name ∈ declared.map Attribute.name := by
        rw [← find_isSome_iff_mem_names, search]
        rfl
      by_cases before : firstPlace declared name < firstPlace declared owner
      · simp only [before, if_true, Except.mapError]
      · have late : IsLate declared (firstPlace declared owner) name :=
          is_late_iff.mpr ⟨present, Nat.not_lt.mp before⟩
        simp only [before, if_false, Except.mapError, Fault.inDefault, late, if_true]

end Scope

/-- A default has the type that it has with the attributes before the first one of its owner's name
alone, or with all of them when there is none of that name; and where it has no type in the one scope
it has none in the other. The faults are the same then, unless the one is about an unbound name that
is declared too late: that name is out of scope for the default. -/
theorem Expr.default_scope_is_prefix (declared : List Attribute) (owner : String) (expr : Expr) :
    let place := firstPlace declared owner
    let whole := expr.infer (.forDefault declared owner)
    let alone := expr.infer (.ofAll (declared.take place))
    (∀ ty, whole = .ok ty ↔ alone = .ok ty) ∧
    ∀ fault other, whole = .error fault → alone = .error other →
      (∃ name, IsLate declared place name ∧ fault = .outOfScope name owner ∧
        other = .unbound name) ∨
      fault = other ∧ ∀ name, IsLate declared place name → other ≠ .unbound name := by
  intro place whole alone
  have reworded : whole = alone.mapError (Fault.inDefault declared owner) :=
    infer_reworded (Scope.lookup_in_default declared owner)
      (Fault.in_default_keeps_others declared owner) expr
  constructor
  · intro ty
    rw [reworded, mapError_eq_ok_iff]
  · intro fault other wholeRefused aloneRefused
    have worded : other.inDefault declared owner = fault := by
      rw [reworded, aloneRefused] at wholeRefused
      exact Except.error.inj wholeRefused
    by_cases late : ∃ name, IsLate declared place name ∧ other = .unbound name
    · obtain ⟨name, late, rfl⟩ := late
      rw [Fault.inDefault, if_pos late] at worded
      exact Or.inl ⟨name, late, worded.symm, rfl⟩
    · refine Or.inr ⟨?_, fun name isLate unbound => late ⟨name, isLate, unbound⟩⟩
      cases other with
      | unbound name =>
          have timely : ¬ IsLate declared place name := fun isLate => late ⟨name, isLate, rfl⟩
          rw [Fault.inDefault, if_neg timely] at worded
          exact worded.symm
      | outOfScope _ _ | mismatch _ _ _ | divisionByZero | unsupported _ _ | overflow _ =>
          exact worded.symm

/-- Of two declarations of a name the first one counts, also for what is too late. -/
example :
    let declared : List Attribute :=
      [⟨"load", .int, none⟩, ⟨"net", .bool, none⟩, ⟨"load", .bool, none⟩, ⟨"gross", .int, none⟩]
    (Expr.reference "load").infer (.forDefault declared "net") = .ok .int ∧
      (Expr.reference "gross").infer (.forDefault declared "net") =
        .error (.outOfScope "gross" "net") ∧
      (Expr.reference "gross").infer (.ofAll (declared.take 1)) = .error (.unbound "gross") ∧
      (Expr.reference "gross").infer (.forDefault declared "tare") = .ok .int := by
  decide

end StateMachine
