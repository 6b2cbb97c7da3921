import StateMachine.Proofs.Cpp.Program
import StateMachine.Proofs.Session.Likeness

/-!
Entry actions of states that are not the initial one. The generated program has none of them, and a
session under the policy that runs entry actions at the start only has none of them either, however
often it enters these states.
-/

set_option autoImplicit false

namespace StateMachine

def State.withoutEntry (state : State) : State := { state with entry := [] }

/-- The machines differ in entry actions at most, and not in those of the state that the initial
name resolves to. Another state of that name, behind it, may differ. -/
structure Machine.EqualButEntries (first second : Machine) : Prop where
  name : first.name = second.name
  attributes : first.attributes = second.attributes
  events : first.events = second.events
  commands : first.commands = second.commands
  states : first.states.map State.withoutEntry = second.states.map State.withoutEntry
  initial : first.initial = second.initial
  initialState : first.initialState? = second.initialState?

namespace Machine.EqualButEntries

variable {first second : Machine}

theorem state_named (equal : first.EqualButEntries second) (name : String) :
    (first.stateNamed? name).map State.withoutEntry =
      (second.stateNamed? name).map State.withoutEntry := by
  have bare (machine : Machine) : (machine.stateNamed? name).map State.withoutEntry =
      (machine.states.map State.withoutEntry).find? fun state => state.name == name := by
    rw [List.find?_map]
    rfl
  rw [bare, bare, equal.states]

/-- Of the declared states, both machines have the same to read for all that is read without entry
actions. -/
theorem read_states {α : Type} (equal : first.EqualButEntries second) {read : State → α}
    (reads : ∀ state : State, read state.withoutEntry = read state) :
    first.states.map read = second.states.map read := by
  have bare (states : List State) : states.map read = (states.map State.withoutEntry).map read := by
    rw [List.map_map]
    exact congrArg (List.map · states) (funext reads).symm
  rw [bare, equal.states, ← bare]

theorem enters_like (equal : first.EqualButEntries second) :
    first.EntersLike second .initialOnly where
  name := equal.name
  initial := equal.initial
  attributes := equal.attributes
  events event := by rw [hasEvent, hasEvent, equal.events]
  transitions state event := by
    have bare (found : Option State) : (found.bind fun state => state.transitionFor? event) =
        (found.map State.withoutEntry).bind fun state => state.transitionFor? event := by
      cases found <;> rfl
    rw [transitionIn?, transitionIn?, bare, equal.state_named, ← bare]
  states state := by
    have bare (found : Option State) :
        found.map State.name = (found.map State.withoutEntry).map State.name := by
      cases found <;> rfl
    rw [bare, equal.state_named, ← bare]
  atInitial := by
    have resolved := equal.initialState
    rw [initialState?, initialState?, ← equal.initial] at resolved
    rw [entryActions, entryActions, resolved]
  atEvery every := nomatch every

theorem assembled (equal : first.EqualButEntries second) (initial : State) (values : List Value) :
    Cpp.assembled first initial values = Cpp.assembled second initial values := by
  have classes : first.states.map Cpp.stateClass = second.states.map Cpp.stateClass :=
    equal.read_states fun _ => rfl
  have handlers : (first.states.map fun state => (state.name, Cpp.handlersOf state)) =
      second.states.map fun state => (state.name, Cpp.handlersOf state) :=
    equal.read_states fun _ => rfl
  simp only [Cpp.assembled, Cpp.baseClass, Cpp.contextClass, Cpp.contextMethods, Cpp.mainBody,
    Cpp.inputLoop, classes, handlers, equal.name, equal.attributes, equal.events]

theorem generate (equal : first.EqualButEntries second) :
    Cpp.generate first = Cpp.generate second := by
  cases declared : first.initialState? with
  | none =>
      have missing : second.initialState? = none := equal.initialState.symm.trans declared
      rw [Cpp.generate_of_undeclared_initial declared, Cpp.generate_of_undeclared_initial missing,
        equal.initial]
  | some initial =>
      have found : second.initialState? = some initial := equal.initialState.symm.trans declared
      rw [Cpp.generate_of_initial declared, Cpp.generate_of_initial found, equal.attributes]
      simp only [equal.assembled]

end Machine.EqualButEntries

/-- Programs and sessions made the same choice: only the entry actions of the initial state matter.
Machines that differ in others have the same program or the same failure of it, the same session to
begin with, and the same runs under the policy for the start alone: the same results, emissions,
values and current states, call by call, also when a run comes back to a state. -/
theorem Machine.other_entries_without_meaning {first second : Machine}
    (equal : first.EqualButEntries second) :
    Cpp.generate first = Cpp.generate second ∧ first.openSession = second.openSession ∧
      ∀ honorDelays session calls, first.openSession = .ok session →
        Runner.runs ⟨first, .initialOnly, honorDelays⟩ session calls =
          Runner.runs ⟨second, .initialOnly, honorDelays⟩ session calls := by
  have alike := equal.enters_like
  refine ⟨equal.generate, alike.open_session, ?_⟩
  intro honorDelays session calls opens
  have entersLike : first.EntersLike second (Options.mk .initialOnly honorDelays).entry := alike
  exact entersLike.runs (entersLike.opened_begins opens) calls

def mutedTurnstile : Machine :=
  { turnstileMachine with
    states := turnstileMachine.states.map fun state =>
      if state.name = "Open" then { state with entry := [] }
      else if state.name = "Broken" then { state with entry := [.run "mend", .timeout 60] }
      else state }

theorem turnstile_muted : turnstileMachine.EqualButEntries mutedTurnstile :=
  ⟨rfl, rfl, rfl, rfl, by decide, rfl, by decide⟩

/-- Were all entries to count, the two would differ as soon as the gate opens. -/
theorem turnstile_entries_without_meaning :
    turnstileMachine.EqualButEntries mutedTurnstile ∧
      Cpp.generate turnstileMachine = Cpp.generate mutedTurnstile ∧
      turnstileMachine.openSession = .ok turnstileSession ∧
      Runner.runs ⟨turnstileMachine, .initialOnly, true⟩ turnstileSession turnstileCalls =
        Runner.runs ⟨mutedTurnstile, .initialOnly, true⟩ turnstileSession turnstileCalls ∧
      Runner.runs ⟨turnstileMachine, .everyEntry, true⟩ turnstileSession [.dispatch "coin"] ≠
        Runner.runs ⟨mutedTurnstile, .everyEntry, true⟩ turnstileSession [.dispatch "coin"] := by
  have opened : turnstileMachine.openSession = .ok turnstileSession := rfl
  obtain ⟨programs, _, runs⟩ := Machine.other_entries_without_meaning turnstile_muted
  refine ⟨turnstile_muted, programs, opened, runs true turnstileSession turnstileCalls opened, ?_⟩
  intro same
  have lines := congrArg (List.map fun run => (traceOf run.emitted).length) same
  revert lines
  decide

end StateMachine
