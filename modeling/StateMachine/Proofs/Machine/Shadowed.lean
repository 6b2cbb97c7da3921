import StateMachine.Proofs.Cpp.Table
import StateMachine.Proofs.Session.Likeness
import StateMachine.Proofs.Validation.Naming

/-!
Transitions behind another one for the same event. The validator warns about them, and a machine
without them is the same machine to all that is done with it: it has the same sessions, the same
events and the same program.
-/

set_option autoImplicit false

namespace StateMachine

def Finding.isShadowed : Finding → Bool
  | .shadowed _ _ => true
  | _ => false

def Diagnostic.isUnreachable (diagnostic : Diagnostic) : Bool :=
  diagnostic.finding.code == "UNREACHABLE_TRANSITION"

theorem Diagnostic.is_unreachable_eq (diagnostic : Diagnostic) :
    diagnostic.isUnreachable = diagnostic.finding.isShadowed := by
  obtain ⟨site, finding⟩ := diagnostic
  cases finding with
  | invalid fault => cases fault <;> rfl
  | _ => rfl

def Unflagged (diagnostics : List Diagnostic) : Prop :=
  ∀ diagnostic ∈ diagnostics, diagnostic.finding.isShadowed = false

theorem Unflagged.filter_eq_nil {diagnostics : List Diagnostic}
    (unflagged : Unflagged diagnostics) : diagnostics.filter Diagnostic.isUnreachable = [] := by
  rw [List.filter_eq_nil_iff]
  intro diagnostic member
  rw [Diagnostic.is_unreachable_eq, unflagged diagnostic member]
  exact Bool.false_ne_true

theorem unflagged_nil : Unflagged [] := List.forall_mem_nil _

theorem unflagged_singleton {diagnostic : Diagnostic}
    (other : diagnostic.finding.isShadowed = false) : Unflagged [diagnostic] :=
  List.forall_mem_singleton.mpr other

theorem unflagged_append {first second : List Diagnostic} (here : Unflagged first)
    (there : Unflagged second) : Unflagged (first ++ second) :=
  List.forall_mem_append.mpr ⟨here, there⟩

theorem unflagged_flat_map {α : Type} {elements : List α} {check : α → List Diagnostic}
    (each : ∀ element ∈ elements, Unflagged (check element)) :
    Unflagged (elements.flatMap check) := by
  intro diagnostic member
  obtain ⟨element, place, found⟩ := List.mem_flatMap.mp member
  exact each element place diagnostic found

namespace Machine

def flagsUnreachable (machine : Machine) (state : State) (placed : Transition × Nat) : Bool :=
  (machine.checkTransition state placed.2 placed.1).any Diagnostic.isUnreachable

/-- The state without the transitions that the validator flags. -/
def prunedState (machine : Machine) (state : State) : State :=
  { state with
    transitions :=
      (state.transitions.zipIdx.filter fun placed => !machine.flagsUnreachable state placed).map
        Prod.fst }

def pruned (machine : Machine) : Machine :=
  { machine with states := machine.states.map machine.prunedState }

def shadowedIn (state : State) (placed : Transition × Nat) : Bool :=
  (state.transitions.take placed.2).any fun other => other.event == placed.1.event

theorem check_assignment_unflagged (machine : Machine) (target : String) (value : Expr) :
    ∀ finding ∈ machine.checkAssignment target value, finding.isShadowed = false := by
  rw [checkAssignment, List.forall_mem_append]
  constructor
  · exact forall_mem_choice (List.forall_mem_nil _) (List.forall_mem_singleton.mpr rfl)
  · split
    · exact List.forall_mem_singleton.mpr rfl
    · exact forall_mem_choice (List.forall_mem_nil _) (List.forall_mem_singleton.mpr rfl)
    · exact List.forall_mem_nil _

theorem check_printed_unflagged (machine : Machine) (part : Printed) :
    ∀ finding ∈ machine.checkPrinted part, finding.isShadowed = false := by
  unfold checkPrinted
  split
  · exact List.forall_mem_nil _
  · split
    · exact List.forall_mem_nil _
    · exact List.forall_mem_singleton.mpr rfl

theorem check_action_unflagged (machine : Machine) (action : Action) :
    ∀ finding ∈ machine.checkAction action, finding.isShadowed = false := by
  cases action with
  | assign target value => exact machine.check_assignment_unflagged target value
  | print parts =>
      intro finding member
      obtain ⟨part, _, found⟩ := List.mem_flatMap.mp member
      exact machine.check_printed_unflagged part finding found
  | timeout millis => exact List.forall_mem_nil _
  | run command =>
      exact forall_mem_choice (List.forall_mem_nil _) (List.forall_mem_singleton.mpr rfl)

theorem check_actions_unflagged (machine : Machine) (site : Nat → Site) (actions : List Action) :
    Unflagged (machine.checkActions site actions) := by
  apply unflagged_flat_map
  rintro ⟨action, position⟩ _ diagnostic member
  obtain ⟨finding, found, rfl⟩ := List.mem_map.mp member
  exact machine.check_action_unflagged action finding found

theorem check_guard_unflagged (machine : Machine) (guard : Option Expr) :
    ∀ finding ∈ machine.checkGuard guard, finding.isShadowed = false := by
  unfold checkGuard
  split
  · exact List.forall_mem_nil _
  · split
    · exact List.forall_mem_nil _
    · exact List.forall_mem_singleton.mpr rfl
    · exact List.forall_mem_singleton.mpr rfl

/-- Of all that is found about a transition, one thing says that it is unreachable. -/
theorem check_transition_flagged (machine : Machine) (state : State) (placed : Transition × Nat) :
    (machine.checkTransition state placed.2 placed.1).filter Diagnostic.isUnreachable =
      if shadowedIn state placed then
        [⟨.transition state.name placed.2, .shadowed state.name placed.1.event⟩]
      else [] := by
  have actions := (machine.check_actions_unflagged (.transitionAction state.name placed.2)
    placed.1.actions).filter_eq_nil
  have guard : Unflagged ((machine.checkGuard placed.1.guard).map fun finding =>
      ⟨.transition state.name placed.2, finding⟩) := by
    intro diagnostic member
    obtain ⟨finding, found, rfl⟩ := List.mem_map.mp member
    exact machine.check_guard_unflagged _ finding found
  have unflagged (condition : Prop) [Decidable condition] {finding : Finding}
      (other : finding.isShadowed = false) :
      Unflagged ((if condition then [] else [finding]).map fun finding =>
        ⟨.transition state.name placed.2, finding⟩) := by
    split
    · exact unflagged_nil
    · exact unflagged_singleton other
  simp only [checkTransition, checkHead, List.map_append, List.filter_append, actions,
    guard.filter_eq_nil, List.append_nil]
  rw [(unflagged _ rfl).filter_eq_nil, (unflagged _ rfl).filter_eq_nil]
  by_cases shadowed : shadowedIn state placed = true
  · have earlier := shadowed
    rw [shadowedIn] at earlier
    rw [if_pos shadowed, if_pos earlier]
    rfl
  · have alone := shadowed
    rw [shadowedIn] at alone
    rw [if_neg shadowed, if_neg alone]
    rfl

theorem flags_unreachable_eq (machine : Machine) (state : State) (placed : Transition × Nat) :
    machine.flagsUnreachable state placed = shadowedIn state placed := by
  have flagged := machine.check_transition_flagged state placed
  rw [flagsUnreachable, Bool.eq_iff_iff, List.any_eq_true]
  cases shadowed : shadowedIn state placed with
  | false =>
      simp only [shadowed, Bool.false_eq_true, if_false, List.filter_eq_nil_iff] at flagged
      simpa using flagged
  | true =>
      simp only [shadowed, if_true] at flagged
      have member : _ ∈ List.filter Diagnostic.isUnreachable _ :=
        flagged ▸ List.mem_singleton_self _
      exact ⟨fun _ => rfl, fun _ => ⟨_, List.mem_filter.mp member⟩⟩

theorem pruned_transitions (machine : Machine) (state : State) :
    (machine.prunedState state).transitions = state.handled := by
  -- Flags look at what stands before a position, which here is nothing at the start.
  have kept := first_per_key_positions Transition.event [] state.transitions
  simp only [List.any_nil, Bool.not_false, List.filter_true, List.length_nil, List.nil_append]
    at kept
  simp only [prunedState, flags_unreachable_eq, shadowedIn]
  exact kept

theorem pruned_handled (machine : Machine) (state : State) :
    (machine.prunedState state).handled = state.handled := by
  rw [State.handled, pruned_transitions]
  exact first_per_key_of_nodup state.handled_first.distinct

theorem pruned_transition_for (machine : Machine) (state : State) (event : String) :
    (machine.prunedState state).transitionFor? event = state.transitionFor? event := by
  rw [State.transitionFor?, pruned_transitions]
  exact find_first_per_key Transition.event state.transitions event

theorem pruned_state_named (machine : Machine) (name : String) :
    machine.pruned.stateNamed? name = (machine.stateNamed? name).map machine.prunedState :=
  List.find?_map

theorem pruned_state_index (machine : Machine) (name : String) :
    machine.pruned.stateIndex? name = machine.stateIndex? name :=
  List.findIdx?_map

theorem pruned_runs_like (machine : Machine) : machine.pruned.RunsLike machine where
  name := rfl
  initial := rfl
  attributes := rfl
  events _ := rfl
  transitions state event := by
    simp only [transitionIn?, pruned_state_named, Option.bind_map]
    congr 1
    funext found
    exact machine.pruned_transition_for found event
  entries state := by
    rw [pruned_state_named, Option.map_map]
    rfl

theorem pruned_events_from (machine : Machine) (name : String) :
    machine.pruned.eventsFrom name = machine.eventsFrom name := by
  simp only [eventsFrom, pruned_state_named]
  cases machine.stateNamed? name with
  | none => rfl
  | some state => exact congrArg (List.map Transition.event) (machine.pruned_handled state)

theorem pruned_handlers (machine : Machine) (state : State) :
    Cpp.handlersOf (machine.prunedState state) = Cpp.handlersOf state := by
  rw [Cpp.handlersOf, pruned_handled]
  rfl

theorem pruned_class (machine : Machine) (state : State) :
    Cpp.stateClass (machine.prunedState state) = Cpp.stateClass state := by
  rw [Cpp.stateClass, pruned_handled]
  rfl

theorem pruned_assembled (machine : Machine) (initial : State) (values : List Value) :
    Cpp.assembled machine.pruned (machine.prunedState initial) values =
      Cpp.assembled machine initial values := by
  have classes : machine.pruned.states.map Cpp.stateClass = machine.states.map Cpp.stateClass := by
    simp only [pruned, List.map_map]
    exact List.map_congr_left fun state _ => machine.pruned_class state
  have handlers : (machine.pruned.states.map fun state => (state.name, Cpp.handlersOf state)) =
      machine.states.map fun state => (state.name, Cpp.handlersOf state) := by
    simp only [pruned, List.map_map]
    exact List.map_congr_left fun state _ =>
      congrArg (Prod.mk state.name) (machine.pruned_handlers state)
  rw [Cpp.assembled, classes, handlers]
  rfl

theorem pruned_generate (machine : Machine) :
    Cpp.generate machine.pruned = Cpp.generate machine := by
  have resolved := machine.pruned_state_named machine.initial
  cases declared : machine.initialState? with
  | none =>
      have missing : machine.pruned.initialState? = none :=
        resolved.trans (congrArg (Option.map machine.prunedState) declared)
      rw [Cpp.generate_of_undeclared_initial missing, Cpp.generate_of_undeclared_initial declared]
      rfl
  | some initial =>
      have found : machine.pruned.initialState? = some (machine.prunedState initial) :=
        resolved.trans (congrArg (Option.map machine.prunedState) declared)
      rw [Cpp.generate_of_initial found, Cpp.generate_of_initial declared]
      simp only [pruned_assembled]
      rfl

theorem check_names_unflagged (machine : Machine) :
    Unflagged (machine.checkUniqueNames ++ machine.checkGeneratedNames ++
      machine.checkInitialState ++ machine.checkStateNames) := by
  intro diagnostic member
  have naming := machine.check_names_naming diagnostic member
  cases found : diagnostic.finding with
  | shadowed state event =>
      rw [found] at naming
      nomatch naming
  | _ => rfl

theorem check_default_unflagged (declared : List Attribute) (environment : Environment)
    (owner : Attribute) : Unflagged (checkDefault declared environment owner).1 := by
  unfold checkDefault
  split
  · exact unflagged_nil
  · split
    · exact unflagged_singleton rfl
    · split
      · split
        · exact unflagged_nil
        · exact unflagged_singleton rfl
      · exact unflagged_singleton rfl

theorem check_defaults_unflagged (declared : List Attribute) (environment : Environment)
    (attributes : List Attribute) : Unflagged (checkDefaults declared environment attributes) := by
  induction attributes generalizing environment with
  | nil => exact unflagged_nil
  | cons owner rest induction =>
      exact unflagged_append (check_default_unflagged declared environment owner) (induction _)

/-- The findings that call a transition unreachable are those about the transitions that are left
out, each of them once and in order. -/
theorem unreachable_diagnostics (machine : Machine) :
    machine.diagnostics.filter Diagnostic.isUnreachable =
      machine.states.flatMap fun state =>
        (state.transitions.zipIdx.filter (machine.flagsUnreachable state)).map fun placed =>
          ⟨.transition state.name placed.2, .shadowed state.name placed.1.event⟩ := by
  have state (state : State) : (machine.checkState state).filter Diagnostic.isUnreachable =
      (state.transitions.zipIdx.filter (machine.flagsUnreachable state)).map fun placed =>
        ⟨.transition state.name placed.2, .shadowed state.name placed.1.event⟩ := by
    have entry := (machine.check_actions_unflagged (.entryAction state.name) state.entry)
    rw [checkState, List.filter_append, entry.filter_eq_nil, List.append_nil, List.filter_flatMap]
    induction state.transitions.zipIdx with
    | nil => rfl
    | cons placed rest induction =>
        rw [List.flatMap_cons, induction, List.filter_cons, flags_unreachable_eq]
        dsimp only
        rw [check_transition_flagged]
        split
        · rfl
        · rfl
  have attributes : Unflagged machine.checkAttributes := check_defaults_unflagged _ _ _
  rw [diagnostics, List.filter_append, List.filter_append, attributes.filter_eq_nil,
    machine.check_names_unflagged.filter_eq_nil, List.nil_append, List.nil_append,
    List.filter_flatMap]
  simp only [state]

/-- Without the transitions that the validator calls unreachable a state keeps the first transition
for each event, which still is the one that is found for it. Nothing else changes: neither the
program nor any session under any options, nor the events of a state. -/
theorem unreachable_transitions_dead (machine : Machine) :
    Cpp.generate machine.pruned = Cpp.generate machine ∧
      machine.pruned.openSession = machine.openSession ∧
      (∀ options session calls, Runner.runs ⟨machine.pruned, options⟩ session calls =
        Runner.runs ⟨machine, options⟩ session calls) ∧
      (∀ name, machine.pruned.eventsFrom name = machine.eventsFrom name ∧
        machine.pruned.stateIndex? name = machine.stateIndex? name) ∧
      (∀ state, state.FirstTransitions (machine.prunedState state).transitions ∧
        ∀ transition ∈ (machine.prunedState state).transitions,
          (machine.prunedState state).transitionFor? transition.event = some transition) ∧
      machine.diagnostics.filter Diagnostic.isUnreachable =
        machine.states.flatMap fun state =>
          (state.transitions.zipIdx.filter (machine.flagsUnreachable state)).map fun placed =>
            ⟨.transition state.name placed.2, .shadowed state.name placed.1.event⟩ := by
  have alike := machine.pruned_runs_like
  refine ⟨machine.pruned_generate, alike.open_session, fun options => alike.runs options,
    fun name => ⟨machine.pruned_events_from name, machine.pruned_state_index name⟩, ?_,
    machine.unreachable_diagnostics⟩
  intro state
  have first := state.handled_first
  rw [← machine.pruned_transitions state] at first
  refine ⟨first, ?_⟩
  intro transition member
  rw [pruned_transition_for]
  exact (first.first transition).mp member

end Machine

theorem forging_machine_pruned :
    ∃ closed kept, forgingMachine.stateNamed? "Closed" = some closed ∧
      closed.transitions.length = 2 ∧
      (forgingMachine.prunedState closed).transitions = [kept] ∧
      (forgingMachine.prunedState closed).transitionFor? kept.event = some kept ∧
      forgingMachine.diagnostics.filter Diagnostic.isUnreachable =
        [⟨.transition "Closed" 1, .shadowed "Closed" "open"⟩] ∧
      Cpp.generate forgingMachine.pruned = Cpp.generate forgingMachine := by
  obtain ⟨generated, _, _, _, kept, _⟩ := Machine.unreachable_transitions_dead forgingMachine
  refine ⟨_, _, rfl, rfl, rfl, ?_, by decide, generated⟩
  exact (kept _).2 _ (List.mem_singleton_self _)

end StateMachine
