import StateMachine.Proofs.Session.Consistency
import StateMachine.Proofs.Validation.Default

/-!
Sessions of a validated machine fail only where the values decide: each check at run time has its
counterpart in the validation, on every guard, action, entry action and target.
-/

set_option autoImplicit false

namespace StateMachine

/-- A failure that depends on the values met, not on names and types. -/
def Failure.IsArithmetic (failure : Failure) : Prop :=
  failure = .evaluation .divisionByZero ∨ ∃ step, failure = .evaluation (.overflow step)

theorem Failure.evaluation_is_arithmetic {fault : Fault} (arithmetic : fault.isArithmetic = true) :
    (Failure.evaluation fault).IsArithmetic := by
  obtain rfl | ⟨step, rfl⟩ := fault.is_arithmetic_iff.mp arithmetic
  · exact Or.inl rfl
  · exact Or.inr ⟨step, rfl⟩

namespace Machine

/-- What the sessions of a machine need so as to fail arithmetically at most. -/
structure Runnable (machine : Machine) : Prop where
  names_distinct : (machine.attributes.map Attribute.name).Nodup
  initial_declared : ∃ initial, machine.initialState? = some initial
  initialized : ∃ environment, Environment.init machine.attributes = .ok environment
  transition_fits : ∀ state ∈ machine.states, ∀ transition ∈ state.transitions,
    machine.TransitionFits transition
  action_fits : ∀ action, machine.Performs action → machine.ActionFits action

theorem runnable_of_no_errors {machine : Machine}
    (accepted : hasErrors machine.diagnostics = false) : machine.Runnable := by
  simp only [diagnostics, has_errors_append, has_errors_flat_map, check_state_clean_iff,
    check_unique_names_clean_iff, check_initial_state_clean_iff] at accepted
  obtain ⟨⟨⟨⟨⟨⟨distinct, _⟩, _⟩, initial⟩, _⟩, defaults⟩, states⟩ := accepted
  have names : (machine.attributes.map Attribute.name).Nodup := by
    rw [identifiers, List.map_append, List.map_append, List.map_map] at distinct
    exact (List.nodup_append.mp (List.nodup_append.mp distinct).1).1
  refine ⟨names, initial, (check_attributes_clean_iff names).mp defaults, ?_, ?_⟩
  · intro state declared
    exact (states state declared).1
  · rintro action ⟨state, declared, enters | ⟨transition, handles, acts⟩⟩
    · exact (states state declared).2 action enters
    · exact ((states state declared).1 transition handles).actions action acts

theorem Runnable.open_session {machine : Machine} (runnable : machine.Runnable) :
    ∃ session, machine.openSession = .ok session := by
  obtain ⟨initial, found⟩ := runnable.initial_declared
  obtain ⟨environment, initialized⟩ := runnable.initialized
  exact ⟨⟨environment, initial.name, false⟩, by simp only [openSession, found, initialized]⟩

theorem Runnable.evaluate_yields {machine : Machine} {session : Session} {expr : Expr} {ty : Ty}
    (runnable : machine.Runnable) (consistent : session.Consistent machine)
    (inferred : machine.inferIn expr = .ok ty) :
    Yields ty (expr.evaluate session.environment) :=
  Expr.evaluate_yields (Scope.ofAll machine.attributes)
    (consistent.conforms runnable.names_distinct) inferred

theorem Runnable.render_parts_arithmetic {machine : Machine} {session : Session}
    {parts : List Printed} {fault : Fault} (runnable : machine.Runnable)
    (consistent : session.Consistent machine) (fits : ∀ part ∈ parts, machine.PrintedFits part)
    (failed : renderParts session.environment parts = .error fault) :
    fault.isArithmetic = true := by
  induction parts generalizing fault with
  | nil => cases failed
  | cons part rest induction =>
      have restFits : ∀ other ∈ rest, machine.PrintedFits other :=
        fun other member => fits other (by simp [member])
      cases part with
      | text content =>
          obtain restFailed | ⟨_, _, returned⟩ := bind_eq_error_iff.mp failed
          · exact induction restFits restFailed
          · cases returned
      | value expr =>
          obtain ⟨ty, inferred⟩ := fits (.value expr) (by simp)
          have yields := runnable.evaluate_yields consistent inferred
          obtain exprFailed | ⟨value, _, failed⟩ := bind_eq_error_iff.mp failed
          · rw [exprFailed, Yields.error_iff] at yields
            exact yields
          · obtain restFailed | ⟨_, _, returned⟩ := bind_eq_error_iff.mp failed
            · exact induction restFits restFailed
            · cases returned

end Machine

namespace Runner

variable {runner : Runner} {session : Session}

theorem assign_arithmetic (runnable : runner.machine.Runnable)
    (consistent : session.Consistent runner.machine) {target : String} {value : Expr}
    (fits : runner.machine.ActionFits (.assign target value)) {failure : Failure}
    (failed : (runner.assign session target value).result = .error failure) :
    failure.IsArithmetic := by
  obtain ⟨declared, found, inferred⟩ := fits
  obtain ⟨result, evaluated, typed⟩ | ⟨fault, faulted, arithmetic⟩ :=
    runnable.evaluate_yields consistent inferred
  · simp [assign, found, evaluated, typed, Run.done] at failed
  · simp only [assign, found, faulted, Run.fail, Except.error.injEq] at failed
    subst failed
    exact Failure.evaluation_is_arithmetic arithmetic

theorem run_action_arithmetic (runnable : runner.machine.Runnable)
    (consistent : session.Consistent runner.machine) {action : Action}
    (fits : runner.machine.ActionFits action) {failure : Failure}
    (failed : (runner.runAction session action).result = .error failure) :
    failure.IsArithmetic := by
  cases action with
  | assign target value => exact assign_arithmetic runnable consistent fits failed
  | print parts =>
      simp only [runAction] at failed
      split at failed
      · next fault rendered =>
          cases failed
          exact Failure.evaluation_is_arithmetic
            (runnable.render_parts_arithmetic consistent fits rendered)
      · cases failed
  | timeout millis => cases failed
  | run command => cases failed

theorem judge_cases (runnable : runner.machine.Runnable)
    (consistent : session.Consistent runner.machine) {guard : Option Expr}
    (fits : runner.machine.GuardFits guard) :
    (∃ allowed, judge session.environment guard = .ok (.decided allowed)) ∨
      ∃ fault, judge session.environment guard = .error fault ∧ fault.isArithmetic = true := by
  cases guard with
  | none => exact Or.inl ⟨true, rfl⟩
  | some guard =>
      obtain ⟨value, evaluated, typed⟩ | ⟨fault, faulted, arithmetic⟩ :=
        runnable.evaluate_yields consistent fits
      · cases value with
        | int word => cases typed
        | bool flag => exact Or.inl ⟨flag, by simp only [judge, evaluated]; rfl⟩
      · exact Or.inr ⟨fault, by simp only [judge, faulted]; rfl, arithmetic⟩

theorem reset_succeeds (runnable : runner.machine.Runnable) :
    (runner.reset session).result = .ok () := by
  obtain ⟨initial, found⟩ := runnable.initial_declared
  obtain ⟨environment, initialized⟩ := runnable.initialized
  simp only [reset, found, initialized, Run.done]

theorem arithmetic_upheld (runnable : runner.machine.Runnable) :
    runner.Upholds (Session.Consistent runner.machine) Failure.IsArithmetic where
  begun := runner.consistent_upheld.begun
  action session action consistent performed := by
    have kept := (runner.consistent_upheld.action session action consistent performed).kept
    exact ⟨kept, fun _ failed =>
      run_action_arithmetic runnable consistent (runnable.action_fits action performed) failed⟩
  judged session state transition fault consistent declared handles failed := by
    have fits := (runnable.transition_fits state declared transition handles).guard
    obtain ⟨allowed, decided⟩ | ⟨other, faulted, arithmetic⟩ :=
      judge_cases runnable consistent fits
    · cases decided.symm.trans failed
    · cases faulted.symm.trans failed
      exact Failure.evaluation_is_arithmetic arithmetic
  decided session state transition event found consistent declared handles undecided := by
    have fits := (runnable.transition_fits state declared transition handles).guard
    obtain ⟨allowed, decided⟩ | ⟨other, faulted, _⟩ := judge_cases runnable consistent fits
    · cases decided.symm.trans undecided
    · cases faulted.symm.trans undecided
  resolved state transition declared handles missing := by
    obtain ⟨target, found⟩ := (runnable.transition_fits state declared transition handles).target
    cases missing.symm.trans found
  moved := runner.consistent_upheld.moved
  reset session consistent := by
    have kept := (runner.consistent_upheld.reset session consistent).kept
    exact ⟨kept, fun _ failed => nomatch (reset_succeeds runnable).symm.trans failed⟩

/-- A machine without validation errors can be run under any options. Whatever was called before and
however that ended, a call fails for a division by zero or an overflow at most, or else for a batch
with undeclared events. -/
theorem validated_session_fails_arithmetically (runner : Runner)
    (accepted : hasErrors runner.machine.diagnostics = false) :
    ∃ session, runner.machine.openSession = .ok session ∧
      ∀ (calls : List Call) (call : Call) (failure : Failure),
        (runner.call (runner.after session calls) call).result = .error failure →
          failure = .evaluation .divisionByZero ∨
            (∃ step, failure = .evaluation (.overflow step)) ∨
            ∃ events unknown, call = .runBatch events ∧ failure = .unknownEvents unknown := by
  have runnable := Machine.runnable_of_no_errors accepted
  obtain ⟨session, opened⟩ := runnable.open_session
  refine ⟨session, opened, ?_⟩
  intro calls call failure failed
  have consistent := after_consistent opened calls
  have meets := (arithmetic_upheld runnable).call consistent call
  obtain (divided | overflowed) | refused := meets.permitted failure failed
  · exact Or.inl divided
  · exact Or.inr (Or.inl overflowed)
  · exact Or.inr (Or.inr refused)

end Runner

theorem door_fails_arithmetically :
    hasErrors doorRunner.machine.diagnostics = false ∧
      ∃ session, doorRunner.machine.openSession = .ok session ∧
        ∀ failure,
          (doorRunner.call (doorRunner.after session doorCalls) (.dispatch "open")).result =
            .error failure →
          failure = .evaluation .divisionByZero ∨
            (∃ step, failure = .evaluation (.overflow step)) ∨
            ∃ events unknown, Call.dispatch "open" = .runBatch events ∧
              failure = .unknownEvents unknown := by
  have accepted : hasErrors doorRunner.machine.diagnostics = false := by decide
  obtain ⟨session, opened, fails⟩ :=
    Runner.validated_session_fails_arithmetically doorRunner accepted
  exact ⟨accepted, session, opened, fails doorCalls (.dispatch "open")⟩

end StateMachine
