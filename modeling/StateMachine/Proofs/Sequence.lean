import Mathlib.Data.List.Forall2

/-!
A sequence of steps that may refuse: it succeeds when every step does, and fails as its first
failing step does.
-/

set_option autoImplicit false

namespace StateMachine

variable {ε δ α β : Type}

@[simp] theorem ok_bind (value : α) (next : α → Except ε β) :
    ((Except.ok value : Except ε α) >>= next) = next value := rfl

@[simp] theorem error_bind (fault : ε) (next : α → Except ε β) :
    ((Except.error fault : Except ε α) >>= next) = .error fault := rfl

theorem bind_eq_ok_iff {first : Except ε α} {next : α → Except ε β} {final : β} :
    (first >>= next) = .ok final ↔ ∃ value, first = .ok value ∧ next value = .ok final := by
  cases first with
  | error fault => simp
  | ok value => simp

theorem bind_eq_error_iff {first : Except ε α} {next : α → Except ε β} {fault : ε} :
    (first >>= next) = .error fault ↔
      first = .error fault ∨ ∃ value, first = .ok value ∧ next value = .error fault := by
  cases first with
  | error other => simp
  | ok value => simp

theorem mapError_eq_ok_iff {change : ε → δ} {step : Except ε α} {value : α} :
    step.mapError change = .ok value ↔ step = .ok value := by
  cases step with
  | error fault => simp [Except.mapError]
  | ok other => simp [Except.mapError]

theorem map_eq_ok_iff {change : α → β} {step : Except ε α} {final : β} :
    step.map change = .ok final ↔ ∃ value, step = .ok value ∧ change value = final := by
  cases step with
  | error fault => simp [Except.map]
  | ok value => simp [Except.map]

def failureOf : Except ε α → Option ε
  | .ok _ => none
  | .error fault => some fault

theorem failure_of_eq_some_iff {step : Except ε α} {fault : ε} :
    failureOf step = some fault ↔ step = .error fault := by
  cases step with
  | error other => simp [failureOf]
  | ok value => simp [failureOf]

theorem failure_of_eq_none_iff {step : Except ε α} :
    failureOf step = none ↔ ∃ value, step = .ok value := by
  cases step with
  | error fault => simp [failureOf]
  | ok value => simp [failureOf]

theorem failure_of_map (change : α → β) (step : Except ε α) :
    failureOf (step.map change) = failureOf step := by
  cases step with
  | error fault => rfl
  | ok value => rfl

theorem failure_of_mapError (change : ε → δ) (step : Except ε α) :
    failureOf (step.mapError change) = (failureOf step).map change := by
  cases step with
  | error fault => rfl
  | ok value => rfl

theorem failure_of_bind_pure (change : α → β) (step : Except ε α) :
    failureOf (step >>= fun value => pure (change value)) = failureOf step := by
  cases step with
  | error fault => rfl
  | ok value => rfl

/-- The failure of the second step may not depend on what the first one gave. -/
theorem failure_of_bind {first : Except ε α} {next : α → Except ε β} {later : Option ε}
    (same : ∀ value, failureOf (next value) = later) :
    failureOf (first >>= next) = (failureOf first).or later := by
  cases first with
  | error fault => rfl
  | ok value => exact same value

theorem failure_of_mapM (step : α → Except ε β) (values : List α) :
    failureOf (values.mapM step) = values.findSome? fun value => failureOf (step value) := by
  induction values with
  | nil => rfl
  | cons value rest induction =>
      have later (first : β) : failureOf (rest.mapM step >>= fun others => pure (first :: others)) =
          rest.findSome? fun other => failureOf (step other) := by
        rw [failure_of_bind_pure, induction]
      rw [List.mapM_cons, failure_of_bind later, List.findSome?_cons]
      cases failureOf (step value) with
      | none => rfl
      | some fault => rfl

theorem mapM_eq_ok_iff {step : α → Except ε β} {values : List α} {results : List β} :
    values.mapM step = .ok results ↔
      List.Forall₂ (fun value result => step value = .ok result) values results := by
  induction values generalizing results with
  | nil => simp [pure, Except.pure, eq_comm]
  | cons value rest induction =>
      simp only [List.mapM_cons, bind_eq_ok_iff, induction, pure, Except.pure, Except.ok.injEq,
        List.forall₂_cons_left_iff]
      constructor
      · rintro ⟨result, here, others, there, rfl⟩
        exact ⟨result, others, here, there, rfl⟩
      · rintro ⟨result, others, here, there, rfl⟩
        exact ⟨result, here, others, there, rfl⟩

end StateMachine
