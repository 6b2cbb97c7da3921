import StateMachine.Proofs.Environment.Initial
import StateMachine.Proofs.Session.Call

/-!
What all sessions of a machine have in common, whether the machine was validated or not. Nothing but
the checks at run time keeps an assignment from spoiling the environment.
-/

set_option autoImplicit false

namespace StateMachine

/-- The current state is declared, the environment has the names of the attributes in the order of
their first declarations, and it fits the attributes if their names are distinct. -/
structure Session.Consistent (machine : Machine) (session : Session) : Prop where
  current_declared : ∃ state, machine.stateNamed? session.current = some state
  names_eq : session.environment.names = (machine.attributes.map Attribute.name).eraseDups
  conforms : (machine.attributes.map Attribute.name).Nodup →
    session.environment.Conforms machine.attributes

namespace Machine

theorem open_session_eq_ok {machine : Machine} {session : Session}
    (opened : machine.openSession = .ok session) :
    ∃ initial environment, machine.initialState? = some initial ∧
      Environment.init machine.attributes = .ok environment ∧
      session = ⟨environment, initial.name, false⟩ := by
  unfold openSession at opened
  split at opened
  · cases opened
  · next initial found =>
      split at opened
      · cases opened
      · next environment initialized =>
          cases opened
          exact ⟨initial, environment, found, initialized, rfl⟩

/-- A name that was found leads to the state it was found at. -/
theorem state_named_again {machine : Machine} {name : String} {state : State}
    (found : machine.stateNamed? name = some state) :
    machine.stateNamed? state.name = some state := by
  rw [(state_named_mem found).2]
  exact found

theorem state_index_of_state_named {machine : Machine} {name : String} {state : State}
    (found : machine.stateNamed? name = some state) :
    ∃ index, machine.stateIndex? name = some index ∧ index < machine.states.length := by
  have some : (machine.stateIndex? name).isSome := by
    obtain ⟨member, named⟩ := state_named_mem found
    simp only [stateIndex?, List.findIdx?_isSome, List.any_eq_true]
    exact ⟨state, member, beq_iff_eq.mpr named⟩
  obtain ⟨index, position⟩ := Option.isSome_iff_exists.mp some
  obtain ⟨bound, _⟩ := List.findIdx?_eq_some_iff_getElem.mp position
  exact ⟨index, position, bound⟩

/-- A session that begins anew, wherever its flag stands. -/
theorem initial_consistent {machine : Machine} {initial : State} {environment : Environment}
    (found : machine.initialState? = some initial)
    (initialized : Environment.init machine.attributes = .ok environment) (started : Bool) :
    Session.Consistent machine ⟨environment, initial.name, started⟩ where
  current_declared := ⟨initial, state_named_again found⟩
  names_eq := Environment.init_names initialized
  conforms := Environment.init_conforms initialized

end Machine

namespace Session.Consistent

variable {machine : Machine} {session : Session}

theorem moved (consistent : session.Consistent machine) {name : String} {target : State}
    (found : machine.stateNamed? name = some target) :
    Session.Consistent machine { session with current := target.name } :=
  ⟨⟨target, Machine.state_named_again found⟩, consistent.names_eq, consistent.conforms⟩

theorem assigned (consistent : session.Consistent machine) {target : String}
    {declared : Attribute} {value : Value}
    (found : machine.attributeNamed? target = some declared) (typed : value.ty = declared.ty) :
    Session.Consistent machine
      { session with environment := session.environment.set target value } := by
  refine ⟨consistent.current_declared, ?_, ?_⟩
  · have named : declared.name = target := by simpa using List.find?_some found
    have bound : target ∈ session.environment.names := by
      rw [consistent.names_eq, List.mem_eraseDups, ← named]
      exact List.mem_map_of_mem (List.mem_of_find?_eq_some found)
    exact (Environment.names_set_of_mem bound value).trans consistent.names_eq
  · intro distinct
    exact (consistent.conforms distinct).set found typed

end Session.Consistent

namespace Runner

variable {runner : Runner} {session : Session}

theorem assign_consistent (consistent : session.Consistent runner.machine) (target : String)
    (value : Expr) :
    (runner.assign session target value).Meets (Session.Consistent runner.machine)
      fun _ => True := by
  unfold assign
  split
  · exact Run.meets_error consistent _ trivial
  · next declared found =>
      split
      · exact Run.meets_error consistent _ trivial
      · next result _ =>
          split
          · next typed => exact Run.meets_ok (consistent.assigned found typed) _ _
          · exact Run.meets_error consistent _ trivial

theorem run_action_consistent (consistent : session.Consistent runner.machine) (action : Action) :
    (runner.runAction session action).Meets (Session.Consistent runner.machine)
      fun _ => True := by
  cases action with
  | assign target value => exact assign_consistent consistent target value
  | print parts =>
      simp only [runAction]
      split
      · exact Run.meets_error consistent _ trivial
      · exact Run.meets_ok consistent _ _
  | timeout millis => exact Run.meets_ok consistent _ _
  | run command => exact Run.meets_ok consistent _ _

theorem reset_consistent (consistent : session.Consistent runner.machine) :
    (runner.reset session).Meets (Session.Consistent runner.machine) fun _ => True := by
  unfold reset
  split
  · exact Run.meets_error consistent _ trivial
  · next initial found =>
      dsimp only
      split
      · exact Run.meets_error (consistent.moved found) _ trivial
      · next environment initialized =>
          exact Run.meets_ok (Machine.initial_consistent found initialized false) _ _

theorem consistent_upheld (runner : Runner) :
    runner.Upholds (Session.Consistent runner.machine) fun _ => True where
  begun _ consistent := ⟨consistent.current_declared, consistent.names_eq, consistent.conforms⟩
  action _ action consistent _ := run_action_consistent consistent action
  judged _ _ _ _ _ _ _ _ := trivial
  decided _ _ _ _ _ _ _ _ _ := trivial
  resolved _ _ _ _ _ := trivial
  moved _ _ _ consistent found := consistent.moved found
  reset _ consistent := reset_consistent consistent

theorem after_consistent (opened : runner.machine.openSession = .ok session)
    (calls : List Call) : (runner.after session calls).Consistent runner.machine := by
  obtain ⟨initial, environment, found, initialized, rfl⟩ := Machine.open_session_eq_ok opened
  exact runner.consistent_upheld.after
    (Machine.initial_consistent found initialized false) calls

/-- A session keeps the name of its current state, which always leads to a state of the machine. Its
environment never gains, loses, repeats or moves a name, and every attribute has a value of its type
as long as no name is declared twice. -/
theorem session_keeps_environment (opened : runner.machine.openSession = .ok session)
    (calls : List Call) :
    (∃ index, runner.machine.stateIndex? (runner.after session calls).current = some index ∧
      index < runner.machine.states.length) ∧
    (runner.after session calls).environment.names =
      (runner.machine.attributes.map Attribute.name).eraseDups ∧
    ((runner.machine.attributes.map Attribute.name).Nodup →
      ∀ owner ∈ runner.machine.attributes, ∃ value,
        (runner.after session calls).environment.get? owner.name = some value ∧
          value.ty = owner.ty) := by
  have consistent := after_consistent opened calls
  obtain ⟨state, declared⟩ := consistent.current_declared
  refine ⟨Machine.state_index_of_state_named declared, consistent.names_eq, ?_⟩
  intro distinct owner member
  exact consistent.conforms distinct owner.name owner (find_owner_of_mem distinct member)

end Runner

/-- A closed door that was never opened cannot be opened: its guard divides by the count. -/
def doorMachine : Machine where
  name := "Door"
  attributes := doorAttributes
  events := ["open", "close"]
  commands := ["ring"]
  states :=
    [{ name := "Closed"
       transitions :=
         [⟨"open", some doorGuard, "Opened", [.assign "shut" (.literal (.bool false))]⟩]
       entry := [.run "ring"] },
     { name := "Opened"
       transitions :=
         [⟨"close", none, "Closed", [.assign "shut" (.literal (.bool true)),
           .print [.text "openings: ", .value (.reference "count")]]⟩]
       entry := [] }]
  initial := "Closed"

def doorRunner : Runner := ⟨doorMachine, .everyEntry, true⟩

def doorSession : Session where
  environment := (Environment.empty.set "count" (.int Word.zero)).set "shut" (.bool true)
  current := "Closed"
  started := false

def doorCalls : List Call := [.dispatch "open", .runBatch ["close", "kick"], .reset, .start]

theorem door_keeps_environment :
    doorRunner.machine.openSession = .ok doorSession ∧
      (∃ index, doorMachine.stateIndex? (doorRunner.after doorSession doorCalls).current =
        some index ∧ index < doorMachine.states.length) ∧
      (doorRunner.after doorSession doorCalls).environment.names =
        (doorAttributes.map Attribute.name).eraseDups ∧
      ((doorAttributes.map Attribute.name).Nodup →
        ∀ owner ∈ doorAttributes, ∃ value,
          (doorRunner.after doorSession doorCalls).environment.get? owner.name = some value ∧
            value.ty = owner.ty) :=
  ⟨rfl, Runner.session_keeps_environment rfl doorCalls⟩

end StateMachine
