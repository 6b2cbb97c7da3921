import StateMachine.Proofs.Environment.Initial
import StateMachine.Validation.Check

/-!
What a machine is known to satisfy once its validation has found no error. Every check is read back
as a property of the part it looks at.
-/

set_option autoImplicit false

namespace StateMachine

def Clean (findings : List Finding) : Prop :=
  ∀ finding ∈ findings, finding.severity ≠ .error

@[simp] theorem clean_nil : Clean [] := by simp [Clean]

@[simp] theorem clean_cons (finding : Finding) (rest : List Finding) :
    Clean (finding :: rest) ↔ finding.severity ≠ .error ∧ Clean rest := by
  simp [Clean]

@[simp] theorem clean_append (first second : List Finding) :
    Clean (first ++ second) ↔ Clean first ∧ Clean second := by
  simp only [Clean, List.mem_append, or_imp, forall_and]

theorem clean_flat_map {α : Type} (elements : List α) (check : α → List Finding) :
    Clean (elements.flatMap check) ↔ ∀ element ∈ elements, Clean (check element) := by
  simp only [Clean, List.mem_flatMap]
  constructor
  · intro clean element member finding found
    exact clean finding ⟨element, member, found⟩
  · rintro clean finding ⟨element, member, found⟩
    exact clean element member finding found

theorem has_errors_append (first second : List Diagnostic) :
    hasErrors (first ++ second) = false ↔ hasErrors first = false ∧ hasErrors second = false := by
  simp only [hasErrors, List.any_append, Bool.or_eq_false_iff]

theorem has_errors_flat_map {α : Type} (elements : List α) (check : α → List Diagnostic) :
    hasErrors (elements.flatMap check) = false ↔
      ∀ element ∈ elements, hasErrors (check element) = false := by
  simp only [hasErrors, List.any_flatMap, List.any_eq_false, Bool.not_eq_true]

theorem has_errors_at (site : Site) (findings : List Finding) :
    hasErrors (findings.map fun finding => ⟨site, finding⟩) = false ↔ Clean findings := by
  simp [hasErrors, Diagnostic.isError, Clean]

theorem has_errors_map {α : Type} (elements : List α) (diagnose : α → Diagnostic)
    (errors : ∀ element, (diagnose element).isError = true) :
    hasErrors (elements.map diagnose) = false ↔ elements = [] := by
  cases elements with
  | nil => simp [hasErrors]
  | cons element rest => simp [hasErrors, errors]

theorem forall_mem_zipIdx_iff {α : Type} (elements : List α) (property : α → Prop) :
    (∀ pair ∈ elements.zipIdx, property pair.1) ↔ ∀ element ∈ elements, property element := by
  constructor
  · intro placed element member
    obtain ⟨position, bound, rfl⟩ := List.getElem_of_mem member
    exact placed (elements[position], position) (List.mk_mem_zipIdx_iff_getElem?.mpr (by simp))
  · intro all pair member
    exact all pair.1 (List.fst_mem_of_mem_zipIdx member)

theorem repeated_eq_nil_iff {α : Type} (key : α → String) (seen : List String)
    (elements : List α) :
    repeated key seen elements = [] ↔
      (elements.map key).Nodup ∧ ∀ element ∈ elements, key element ∉ seen := by
  induction elements generalizing seen with
  | nil => simp [repeated]
  | cons element rest induction =>
      by_cases known : key element ∈ seen
      · simp [repeated, known]
      · simp only [repeated, List.contains_iff_mem, known, if_false, induction, List.map_cons,
          List.nodup_cons, List.mem_map, List.mem_cons, forall_eq_or_imp, not_or]
        constructor
        · rintro ⟨distinct, apart⟩
          refine ⟨⟨?_, distinct⟩, not_false, fun other member => (apart other member).2⟩
          rintro ⟨other, member, same⟩
          exact (apart other member).1 same
        · rintro ⟨⟨unique, distinct⟩, _, apart⟩
          exact ⟨distinct, fun other member =>
            ⟨fun same => unique ⟨other, member, same⟩, apart other member⟩⟩

namespace Machine

/-- A guard that is a truth value wherever it is evaluated. -/
def GuardFits (machine : Machine) : Option Expr → Prop
  | none => True
  | some guard => machine.inferIn guard = .ok .bool

def PrintedFits (machine : Machine) : Printed → Prop
  | .text _ => True
  | .value expr => ∃ ty, machine.inferIn expr = .ok ty

def ActionFits (machine : Machine) : Action → Prop
  | .assign target value => ∃ declared, machine.attributeNamed? target = some declared ∧
      machine.inferIn value = .ok declared.ty
  | .print parts => ∀ part ∈ parts, machine.PrintedFits part
  | .timeout _ => True
  | .run command => machine.hasCommand command = true

theorem check_guard_clean_iff (machine : Machine) (guard : Option Expr) :
    Clean (machine.checkGuard guard) ↔ machine.GuardFits guard := by
  cases guard with
  | none => simp [checkGuard, GuardFits]
  | some guard =>
      simp only [checkGuard, GuardFits]
      cases inferred : machine.inferIn guard with
      | error fault => simp [Finding.severity]
      | ok found => cases found <;> simp [Finding.severity]

theorem check_assignment_clean_iff (machine : Machine) (target : String) (value : Expr) :
    Clean (machine.checkAssignment target value) ↔
      machine.ActionFits (.assign target value) := by
  simp only [checkAssignment, ActionFits]
  cases found : machine.attributeNamed? target with
  | none => simp [Finding.severity]
  | some declared =>
      cases inferred : machine.inferIn value with
      | error fault => simp [Finding.severity]
      | ok ty => by_cases same : ty = declared.ty <;> simp [Finding.severity, same]

theorem check_printed_clean_iff (machine : Machine) (part : Printed) :
    Clean (machine.checkPrinted part) ↔ machine.PrintedFits part := by
  cases part with
  | text content => simp [checkPrinted, PrintedFits]
  | value expr =>
      simp only [checkPrinted, PrintedFits]
      cases inferred : machine.inferIn expr <;> simp [Finding.severity]

theorem check_action_clean_iff (machine : Machine) (action : Action) :
    Clean (machine.checkAction action) ↔ machine.ActionFits action := by
  cases action with
  | assign target value => exact machine.check_assignment_clean_iff target value
  | print parts => simp only [checkAction, ActionFits, clean_flat_map, check_printed_clean_iff]
  | timeout millis => simp [checkAction, ActionFits]
  | run command =>
      simp only [checkAction, ActionFits]
      by_cases declared : machine.hasCommand command <;> simp [Finding.severity, declared]

theorem check_actions_clean_iff (machine : Machine) (site : Nat → Site) (actions : List Action) :
    hasErrors (machine.checkActions site actions) = false ↔
      ∀ action ∈ actions, machine.ActionFits action := by
  simp only [checkActions, has_errors_flat_map, has_errors_at, check_action_clean_iff]
  exact forall_mem_zipIdx_iff actions machine.ActionFits

theorem check_head_clean_iff (machine : Machine) (state : State) (earlier : List Transition)
    (transition : Transition) :
    Clean (machine.checkHead state earlier transition) ↔
      machine.hasEvent transition.event = true ∧
        (∃ target, machine.stateNamed? transition.target = some target) ∧
        machine.GuardFits transition.guard := by
  have shadowed : Clean (if earlier.any (fun other => other.event == transition.event) then
      [.shadowed state.name transition.event] else []) := by
    split <;> simp [Finding.severity]
  rw [← check_guard_clean_iff, ← Option.isSome_iff_exists]
  simp only [checkHead, clean_append, shadowed, and_true]
  by_cases known : machine.hasEvent transition.event <;>
    by_cases resolved : (machine.stateNamed? transition.target).isSome <;>
    simp [known, resolved, Finding.severity]

structure TransitionFits (machine : Machine) (transition : Transition) : Prop where
  event : machine.hasEvent transition.event = true
  target : ∃ target, machine.stateNamed? transition.target = some target
  guard : machine.GuardFits transition.guard
  actions : ∀ action ∈ transition.actions, machine.ActionFits action

theorem check_transition_clean_iff (machine : Machine) (state : State) (position : Nat)
    (transition : Transition) :
    hasErrors (machine.checkTransition state position transition) = false ↔
      machine.TransitionFits transition := by
  rw [checkTransition, has_errors_append, has_errors_at, check_head_clean_iff,
    check_actions_clean_iff]
  constructor
  · rintro ⟨⟨event, target, guard⟩, actions⟩
    exact ⟨event, target, guard, actions⟩
  · rintro ⟨event, target, guard, actions⟩
    exact ⟨⟨event, target, guard⟩, actions⟩

theorem check_state_clean_iff (machine : Machine) (state : State) :
    hasErrors (machine.checkState state) = false ↔
      (∀ transition ∈ state.transitions, machine.TransitionFits transition) ∧
        ∀ action ∈ state.entry, machine.ActionFits action := by
  simp only [checkState, has_errors_append, has_errors_flat_map, check_actions_clean_iff,
    check_transition_clean_iff]
  rw [forall_mem_zipIdx_iff state.transitions machine.TransitionFits]

theorem check_unique_names_clean_iff (machine : Machine) :
    hasErrors machine.checkUniqueNames = false ↔
      (machine.identifiers.map Prod.fst).Nodup ∧ machine.commands.Nodup := by
  rw [checkUniqueNames, has_errors_append, has_errors_map _ _ fun _ => rfl,
    has_errors_map _ _ fun _ => rfl, repeated_eq_nil_iff, repeated_eq_nil_iff]
  simp

theorem check_initial_state_clean_iff (machine : Machine) :
    hasErrors machine.checkInitialState = false ↔
      ∃ initial, machine.initialState? = some initial := by
  rw [checkInitialState, ← Option.isSome_iff_exists]
  by_cases declared : machine.initialState?.isSome <;>
    simp [hasErrors, Diagnostic.isError, Finding.severity, declared]

end Machine

end StateMachine
