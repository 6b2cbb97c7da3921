import StateMachine.Proofs.FirstPerKey
import StateMachine.Proofs.Session.Likeness
import StateMachine.Proofs.Session.Position
import StateMachine.Proofs.Validation.WellFormed

/-!
The order in which states, events and commands are declared. As long as no two states have one name,
every lookup finds the same wherever it stands, so nothing that is asked of a machine depends on the
order, whether its sessions keep names or positions. The order of attributes is another matter, since
defaults are evaluated in it.
-/

set_option autoImplicit false

namespace StateMachine

theorem find_eq_of_perm {α : Type} {key : α → String} {first second : List α}
    (perm : first.Perm second) (distinct : (first.map key).Nodup) (name : String) :
    first.find? (fun element => key element == name) =
      second.find? fun element => key element == name := by
  cases found : first.find? (fun element => key element == name) with
  | none =>
      symm
      rw [List.find?_eq_none] at found ⊢
      intro element member
      exact found element (perm.mem_iff.mpr member)
  | some element =>
      have named : key element = name := by simpa using List.find?_some found
      have member : element ∈ second := perm.mem_iff.mp (List.mem_of_find?_eq_some found)
      have unique : (second.map key).Nodup := (perm.map key).nodup_iff.mp distinct
      rw [← named, eq_comm]
      apply mem_first_per_key_iff.mp
      rw [first_per_key_of_nodup unique]
      exact member

theorem contains_eq_of_perm {first second : List String} (perm : first.Perm second)
    (name : String) : first.contains name = second.contains name := by
  rw [Bool.eq_iff_iff, List.contains_iff_mem, List.contains_iff_mem]
  exact perm.mem_iff

/-- The same declarations, except that states, events and commands may stand in another order. -/
structure Machine.Reordered (first second : Machine) : Prop where
  name : first.name = second.name
  attributes : first.attributes = second.attributes
  events : first.events.Perm second.events
  commands : first.commands.Perm second.commands
  states : first.states.Perm second.states
  initial : first.initial = second.initial

namespace Machine.Reordered

variable {first second : Machine}

theorem state_named (reordered : first.Reordered second)
    (distinct : (first.states.map State.name).Nodup) (name : String) :
    first.stateNamed? name = second.stateNamed? name :=
  find_eq_of_perm reordered.states distinct name

theorem runs_like (reordered : first.Reordered second)
    (distinct : (first.states.map State.name).Nodup) : first.RunsLike second where
  name := reordered.name
  initial := reordered.initial
  attributes := reordered.attributes
  events := contains_eq_of_perm reordered.events
  transitions state event := by
    rw [transitionIn?, transitionIn?, reordered.state_named distinct]
  entries state := by rw [reordered.state_named distinct]

/-! Validation asks only whether a name is declared, so it needs no distinct names. -/

theorem state_declared (reordered : first.Reordered second) (name : String) :
    (∃ state, first.stateNamed? name = some state) ↔
      ∃ state, second.stateNamed? name = some state := by
  rw [state_named_iff_mem, state_named_iff_mem]
  exact (reordered.states.map State.name).mem_iff

theorem infer_in (reordered : first.Reordered second) (expr : Expr) :
    first.inferIn expr = second.inferIn expr := by
  rw [inferIn, inferIn, reordered.attributes]

theorem guard_fits_iff (reordered : first.Reordered second) (guard : Option Expr) :
    first.GuardFits guard ↔ second.GuardFits guard := by
  cases guard with
  | none => exact Iff.rfl
  | some guard => rw [GuardFits, GuardFits, reordered.infer_in]

theorem action_fits_iff (reordered : first.Reordered second) (action : Action) :
    first.ActionFits action ↔ second.ActionFits action := by
  cases action with
  | assign target value =>
      rw [ActionFits, ActionFits, attributeNamed?, attributeNamed?, reordered.attributes]
      simp only [reordered.infer_in]
  | print parts =>
      apply forall₂_congr
      intro part _
      cases part with
      | text content => exact Iff.rfl
      | value expr => rw [PrintedFits, PrintedFits, reordered.infer_in]
  | timeout millis => exact Iff.rfl
  | run command =>
      rw [ActionFits, ActionFits, hasCommand, hasCommand, contains_eq_of_perm reordered.commands]

theorem transition_fits_iff (reordered : first.Reordered second) (transition : Transition) :
    first.TransitionFits transition ↔ second.TransitionFits transition := by
  have event : first.hasEvent transition.event = second.hasEvent transition.event :=
    contains_eq_of_perm reordered.events transition.event
  have target := reordered.state_declared transition.target
  have guard := reordered.guard_fits_iff transition.guard
  have actions : (∀ action ∈ transition.actions, first.ActionFits action) ↔
      ∀ action ∈ transition.actions, second.ActionFits action :=
    forall₂_congr fun action _ => reordered.action_fits_iff action
  constructor
  · rintro ⟨known, resolved, fits, acts⟩
    exact ⟨event ▸ known, target.mp resolved, guard.mp fits, actions.mp acts⟩
  · rintro ⟨known, resolved, fits, acts⟩
    exact ⟨event ▸ known, target.mpr resolved, guard.mpr fits, actions.mpr acts⟩

theorem names_distinct_iff (reordered : first.Reordered second) :
    (first.identifiers.map Prod.fst).Nodup ↔ (second.identifiers.map Prod.fst).Nodup := by
  rw [identifiers_names, identifiers_names, reordered.attributes]
  apply List.Perm.nodup_iff
  apply List.Perm.append _ (reordered.states.map State.name)
  exact reordered.events.append_left _

theorem check_states_clean_iff (reordered : first.Reordered second) :
    (∀ state ∈ first.states, hasErrors (first.checkState state) = false) ↔
      ∀ state ∈ second.states, hasErrors (second.checkState state) = false := by
  simp only [check_state_clean_iff, reordered.transition_fits_iff, reordered.action_fits_iff,
    reordered.states.mem_iff]

theorem has_errors (reordered : first.Reordered second) :
    hasErrors first.diagnostics = hasErrors second.diagnostics := by
  have attributes : first.checkAttributes = second.checkAttributes := by
    rw [checkAttributes, checkAttributes, reordered.attributes]
  have initial : (∃ state, first.initialState? = some state) ↔
      ∃ state, second.initialState? = some state := by
    rw [initialState?, initialState?, reordered.initial]
    exact reordered.state_declared second.initial
  have commands : first.commands.Nodup ↔ second.commands.Nodup := reordered.commands.nodup_iff
  rw [Bool.eq_iff_iff, ← Bool.not_eq_false, ← Bool.not_eq_false, not_iff_not]
  simp only [diagnostics, has_errors_append, has_errors_flat_map, check_unique_names_clean_iff,
    check_initial_state_clean_iff, check_generated_names_clean, check_state_names_clean, and_true,
    reordered.names_distinct_iff, reordered.check_states_clean_iff, attributes, initial, commands]

end Machine.Reordered

/-- With distinct state names, machines that differ in the order of their states, events and
commands are valid together, open the same session or fail alike, and answer any calls alike, also
after calls that failed: with the same results, emissions, values and current states. -/
theorem Machine.order_without_meaning {first second : Machine} (reordered : first.Reordered second)
    (distinct : (first.states.map State.name).Nodup) :
    hasErrors first.diagnostics = hasErrors second.diagnostics ∧
      first.openSession = second.openSession ∧
      ∀ options session calls, first.openSession = .ok session →
        Runner.runs ⟨first, options⟩ session calls =
          Runner.runs ⟨second, options⟩ session calls := by
  have alike := reordered.runs_like distinct
  refine ⟨reordered.has_errors, alike.open_session, ?_⟩
  intro options session calls _
  exact alike.runs options session calls

def mirroredTurnstile : Machine :=
  { turnstileMachine with
    states := turnstileMachine.states.reverse
    events := ["kick", "push", "coin"] }

theorem turnstile_mirrored : turnstileMachine.Reordered mirroredTurnstile where
  name := rfl
  attributes := rfl
  events := by decide
  commands := .refl _
  states := (List.reverse_perm _).symm
  initial := rfl

theorem turnstile_order_without_meaning :
    turnstileMachine.Reordered mirroredTurnstile ∧
      (turnstileMachine.states.map State.name).Nodup ∧
      turnstileMachine.stateIndex? "Locked" = some 0 ∧
      mirroredTurnstile.stateIndex? "Locked" = some 2 ∧
      hasErrors mirroredTurnstile.diagnostics = hasErrors turnstileMachine.diagnostics ∧
      mirroredTurnstile.openSession = .ok turnstileSession ∧
      Runner.runs ⟨mirroredTurnstile, .everyEntry, true⟩ turnstileSession turnstileCalls =
        turnstileRunner.runs turnstileSession turnstileCalls := by
  have distinct : (turnstileMachine.states.map State.name).Nodup := by decide
  have opened : turnstileMachine.openSession = .ok turnstileSession := rfl
  obtain ⟨errors, sessions, runs⟩ :=
    Machine.order_without_meaning turnstile_mirrored distinct
  refine ⟨turnstile_mirrored, distinct, rfl, rfl, errors.symm, sessions.symm.trans opened, ?_⟩
  exact (runs ⟨.everyEntry, true⟩ turnstileSession turnstileCalls opened).symm

/-- The runs show the same and end at the same state, each at the position that its machine gives
it. -/
structure PlacedRun.Mirrors {first second : Machine} {α : Type} (here : PlacedRun first α)
    (there : PlacedRun second α) : Prop where
  named_eq : here.named = there.named
  state_eq : here.session.state = there.session.state

namespace Machine.Reordered

variable {first second : Machine} {here : PlacedSession first} {there : PlacedSession second}

theorem state_eq (reordered : first.Reordered second)
    (distinct : (first.states.map State.name).Nodup) (hereFirst : here.IsFirst)
    (thereFirst : there.IsFirst) (same : here.named = there.named) : here.state = there.state := by
  have found := hereFirst.state_named
  rw [reordered.state_named distinct, same, thereFirst.state_named] at found
  exact (Option.some.inj found).symm

theorem open_placed (reordered : first.Reordered second)
    (distinct : (first.states.map State.name).Nodup) (opened : first.openPlaced = .ok here) :
    ∃ there, second.openPlaced = .ok there ∧ here.named = there.named := by
  have sessions := (reordered.runs_like distinct).open_session
  rw [← open_placed_named, ← open_placed_named, opened] at sessions
  cases other : second.openPlaced with
  | error failure =>
      rw [other] at sessions
      cases sessions
  | ok there =>
      rw [other] at sessions
      exact ⟨there, rfl, Except.ok.inj sessions⟩

/-- The positions are apart, but after each call they are positions of the same state. -/
theorem placed_runs (reordered : first.Reordered second)
    (distinct : (first.states.map State.name).Nodup) (options : Options) (hereFirst : here.IsFirst)
    (thereFirst : there.IsFirst) (same : here.named = there.named) (calls : List Call) :
    List.Forall₂ PlacedRun.Mirrors (here.runs options calls) (there.runs options calls) := by
  induction calls generalizing here there with
  | nil => exact .nil
  | cons call rest induction =>
      have alike := (reordered.runs_like distinct).enters_like options.entry
      obtain ⟨hereNamed, hereLast⟩ := hereFirst.call options call
      obtain ⟨thereNamed, thereLast⟩ := thereFirst.call options call
      have runs : (here.call options call).named = (there.call options call).named := by
        rw [hereNamed, thereNamed, ← same]
        exact alike.call (fun _ => (reordered.runs_like distinct).entry_actions _) call
      have sessions : (here.call options call).session.named =
          (there.call options call).session.named := congrArg Run.session runs
      have states := reordered.state_eq distinct hereLast thereLast sessions
      exact .cons ⟨runs, states⟩ (induction hereLast thereLast sessions)

end Machine.Reordered

/-- Sessions that keep positions are not told apart by the order of the states either: what one
machine opens the other opens, and whatever they are asked, they show the same and stand at the same
state. -/
theorem Machine.positions_without_meaning {first second : Machine}
    (reordered : first.Reordered second) (distinct : (first.states.map State.name).Nodup)
    {here : PlacedSession first} (opened : first.openPlaced = .ok here) :
    ∃ there, second.openPlaced = .ok there ∧ here.state = there.state ∧
      ∀ options calls,
        List.Forall₂ PlacedRun.Mirrors (here.runs options calls) (there.runs options calls) := by
  obtain ⟨there, otherOpened, same⟩ := reordered.open_placed distinct opened
  have hereFirst := open_placed_first opened
  have thereFirst := open_placed_first otherOpened
  refine ⟨there, otherOpened, reordered.state_eq distinct hereFirst thereFirst same, ?_⟩
  intro options calls
  exact reordered.placed_runs distinct options hereFirst thereFirst same calls

end StateMachine
