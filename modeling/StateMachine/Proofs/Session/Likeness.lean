import StateMachine.Proofs.Session.Batch

/-!
What a run asks of a machine. Two machines that answer these questions alike have the same sessions,
whatever else is different about them. Entry actions are asked for in the initial state, and of the
other states only under the policy that runs them on every entry.
-/

set_option autoImplicit false

namespace StateMachine

/-- The machines have the same names and attributes, states of the same names, and the same
transition for each event in each state. -/
structure Machine.MovesLike (first second : Machine) : Prop where
  name : first.name = second.name
  initial : first.initial = second.initial
  attributes : first.attributes = second.attributes
  events : ∀ event, first.hasEvent event = second.hasEvent event
  transitions : ∀ state event, first.transitionIn? state event = second.transitionIn? state event
  states : ∀ state, (first.stateNamed? state).map State.name =
    (second.stateNamed? state).map State.name

/-- The machines have the same names and attributes, the same transition for each event in each
state, and states of the same names with the same entry actions. -/
structure Machine.RunsLike (first second : Machine) : Prop where
  name : first.name = second.name
  initial : first.initial = second.initial
  attributes : first.attributes = second.attributes
  events : ∀ event, first.hasEvent event = second.hasEvent event
  transitions : ∀ state event, first.transitionIn? state event = second.transitionIn? state event
  entries : ∀ state, (first.stateNamed? state).map State.entry =
    (second.stateNamed? state).map State.entry

/-- The machines move alike and have the same entry actions wherever this policy runs any. -/
structure Machine.EntersLike (first second : Machine) (policy : EntryPolicy) : Prop
    extends first.MovesLike second where
  atInitial : first.entryActions first.initial = second.entryActions first.initial
  atEvery : policy = .everyEntry → ∀ state, first.entryActions state = second.entryActions state

/-- If the session still has to start, it starts with the same entry actions. -/
def Session.BeginsAlike (first second : Machine) (session : Session) : Prop :=
  session.started = false →
    first.entryActions session.current = second.entryActions session.current

theorem Session.begins_alike_of_started {first second : Machine} {session : Session}
    (started : session.started = true) : session.BeginsAlike first second := by
  intro unstarted
  rw [started] at unstarted
  cases unstarted

theorem Machine.entry_actions_of_named {machine : Machine} {name : String} {state : State}
    (found : machine.stateNamed? name = some state) :
    machine.entryActions state.name = state.entry := by
  rw [(state_named_mem found).2, entryActions, found]
  rfl

namespace Machine.MovesLike

variable {first second : Machine}

theorem attribute_named (alike : first.MovesLike second) (name : String) :
    first.attributeNamed? name = second.attributeNamed? name := by
  rw [attributeNamed?, attributeNamed?, alike.attributes]

theorem state_cases (alike : first.MovesLike second) (name : String) :
    (first.stateNamed? name = none ∧ second.stateNamed? name = none) ∨
      ∃ here there, first.stateNamed? name = some here ∧ second.stateNamed? name = some there ∧
        here.name = there.name := by
  have names := alike.states name
  cases found : first.stateNamed? name with
  | none =>
      rw [found, Option.map_none, eq_comm, Option.map_eq_none_iff] at names
      exact Or.inl ⟨rfl, names⟩
  | some here =>
      rw [found, Option.map_some, eq_comm, Option.map_eq_some_iff] at names
      obtain ⟨there, other, same⟩ := names
      exact Or.inr ⟨here, there, rfl, other, same.symm⟩

theorem open_session (alike : first.MovesLike second) : first.openSession = second.openSession := by
  unfold openSession initialState?
  rw [← alike.initial, ← alike.attributes]
  rcases alike.state_cases first.initial with ⟨here, there⟩ | ⟨here, there, found, other, names⟩
  · rw [here, there]
  · rw [found, other]
    dsimp only
    rw [names]

variable (options : Options)

theorem run_action (alike : first.MovesLike second) (session : Session) (action : Action) :
    Runner.runAction ⟨first, options⟩ session action =
      Runner.runAction ⟨second, options⟩ session action := by
  cases action with
  | assign target value =>
      simp only [Runner.runAction, Runner.assign, alike.attribute_named]
  | print parts => rfl
  | timeout millis => rfl
  | run command => rfl

theorem run_actions (alike : first.MovesLike second) (session : Session) (actions : List Action) :
    Runner.runActions ⟨first, options⟩ session actions =
      Runner.runActions ⟨second, options⟩ session actions := by
  induction actions generalizing session with
  | nil => rfl
  | cons action rest induction =>
      simp only [Runner.runActions, alike.run_action options, induction]

theorem reset (alike : first.MovesLike second) (session : Session) :
    Runner.reset ⟨first, options⟩ session = Runner.reset ⟨second, options⟩ session := by
  simp only [Runner.reset, initialState?]
  rw [← alike.initial, ← alike.attributes]
  rcases alike.state_cases first.initial with ⟨here, there⟩ | ⟨here, there, found, other, names⟩
  · rw [here, there]
  · rw [found, other]
    dsimp only
    rw [names]

end Machine.MovesLike

namespace Machine.EntersLike

variable {first second : Machine} {options : Options} {session : Session}

theorem start (alike : first.EntersLike second options.entry)
    (begins : session.BeginsAlike first second) :
    Runner.start ⟨first, options⟩ session = Runner.start ⟨second, options⟩ session := by
  unfold Runner.start
  split
  · rfl
  · next unstarted =>
      simp only [alike.run_actions options, begins (Bool.eq_false_iff.mpr unstarted)]

/-- The target was resolved by its name, so that its entry actions are those of that name. -/
theorem fire (alike : first.EntersLike second options.entry) (session : Session)
    (transition : Transition) {name : String} {here there : State}
    (found : first.stateNamed? name = some here) (other : second.stateNamed? name = some there)
    (names : here.name = there.name) :
    Runner.fire ⟨first, options⟩ session transition here =
      Runner.fire ⟨second, options⟩ session transition there := by
  have entries : (if options.entry = .everyEntry then here.entry else []) =
      if options.entry = .everyEntry then there.entry else [] := by
    split
    · next every =>
        rw [← entry_actions_of_named found, ← entry_actions_of_named other, names,
          alike.atEvery every]
    · rfl
  simp only [Runner.fire, alike.run_actions options, names, entries]

theorem handle (alike : first.EntersLike second options.entry) (session : Session)
    (event : String) :
    Runner.handle ⟨first, options⟩ session event =
      Runner.handle ⟨second, options⟩ session event := by
  simp only [Runner.handle, alike.events, alike.transitions, alike.name]
  split
  · cases second.transitionIn? session.current event with
    | none => rfl
    | some transition =>
        rcases alike.state_cases transition.target with
          ⟨here, there⟩ | ⟨here, there, found, other, names⟩
        · simp only [here, there]
        · simp only [found, other, alike.fire session transition found other names]
  · rfl

theorem dispatch (alike : first.EntersLike second options.entry)
    (begins : session.BeginsAlike first second) (event : String) :
    Runner.dispatch ⟨first, options⟩ session event =
      Runner.dispatch ⟨second, options⟩ session event := by
  simp only [Runner.dispatch, alike.start begins, alike.handle]

theorem dispatch_all (alike : first.EntersLike second options.entry)
    (begins : session.BeginsAlike first second) (events : List String) :
    Runner.dispatchAll ⟨first, options⟩ session events =
      Runner.dispatchAll ⟨second, options⟩ session events := by
  induction events generalizing session with
  | nil => rfl
  | cons event rest induction =>
      have started : (Runner.dispatch ⟨second, options⟩ session event).session.started = true :=
        Runner.dispatch_started session event
      have later := induction (Session.begins_alike_of_started started)
      simp only [Runner.dispatchAll, alike.dispatch begins, Run.andThen, later]

theorem run_batch (alike : first.EntersLike second options.entry)
    (begins : session.BeginsAlike first second) (events : List String) :
    Runner.runBatch ⟨first, options⟩ session events =
      Runner.runBatch ⟨second, options⟩ session events := by
  have started : (Runner.start ⟨second, options⟩ session).session.started = true :=
    Runner.start_started session
  have later := alike.dispatch_all (Session.begins_alike_of_started started) events
  simp only [Runner.runBatch, alike.events, alike.start begins, Run.andThen, later]

theorem call (alike : first.EntersLike second options.entry)
    (begins : session.BeginsAlike first second) (call : Call) :
    Runner.call ⟨first, options⟩ session call = Runner.call ⟨second, options⟩ session call := by
  cases call with
  | start => rw [Runner.call, Runner.call, alike.start begins]
  | dispatch event => rw [Runner.call, Runner.call, alike.dispatch begins]
  | runBatch events => rw [Runner.call, Runner.call, alike.run_batch begins]
  | reset => rw [Runner.call, Runner.call, alike.reset options]

theorem begins_at_initial (alike : first.EntersLike second options.entry) {initial : State}
    (declared : first.initialState? = some initial) (environment : Environment) (started : Bool) :
    Session.BeginsAlike first second ⟨environment, initial.name, started⟩ := by
  intro _
  have named : initial.name = first.initial := (state_named_mem declared).2
  simp only [named, alike.atInitial]

/-- Sessions that have to start again are in the initial state, as only a reset leads there. -/
theorem call_begins (alike : first.EntersLike second options.entry)
    (begins : session.BeginsAlike first second) (call : Call) :
    (Runner.call ⟨first, options⟩ session call).session.BeginsAlike first second := by
  cases call with
  | start => exact Session.begins_alike_of_started (Runner.start_started session)
  | dispatch event => exact Session.begins_alike_of_started (Runner.dispatch_started session event)
  | runBatch events =>
      simp only [Runner.call, Run.map, Runner.runBatch]
      split
      · exact Session.begins_alike_of_started (Runner.in_sequence_started session events)
      · exact begins
  | reset =>
      simp only [Runner.call, Run.map, Runner.reset]
      split
      · exact begins
      · next initial declared =>
          split
          · exact alike.begins_at_initial declared _ _
          · exact alike.begins_at_initial declared _ _

theorem runs (alike : first.EntersLike second options.entry)
    (begins : session.BeginsAlike first second) (calls : List Call) :
    Runner.runs ⟨first, options⟩ session calls = Runner.runs ⟨second, options⟩ session calls := by
  induction calls generalizing session with
  | nil => rfl
  | cons call rest induction =>
      have later := induction (alike.call_begins begins call)
      rw [alike.call begins] at later
      simp only [Runner.runs, alike.call begins, later]

theorem opened_begins (alike : first.EntersLike second options.entry)
    (opens : first.openSession = .ok session) : session.BeginsAlike first second := by
  obtain ⟨initial, _, declared, _, rfl⟩ := open_session_eq_ok opens
  exact alike.begins_at_initial declared _ _

end Machine.EntersLike

namespace Machine.RunsLike

variable {first second : Machine}

theorem entry_actions (alike : first.RunsLike second) (state : String) :
    first.entryActions state = second.entryActions state := by
  rw [entryActions, entryActions, alike.entries]

theorem enters_like (alike : first.RunsLike second) (policy : EntryPolicy) :
    first.EntersLike second policy where
  name := alike.name
  initial := alike.initial
  attributes := alike.attributes
  events := alike.events
  transitions := alike.transitions
  states state := by
    have entries := alike.entries state
    cases found : first.stateNamed? state with
    | none =>
        rw [found, Option.map_none, eq_comm, Option.map_eq_none_iff] at entries
        rw [entries, Option.map_none]
    | some here =>
        rw [found, Option.map_some, eq_comm, Option.map_eq_some_iff] at entries
        obtain ⟨there, other, _⟩ := entries
        rw [other, Option.map_some, Option.map_some, (state_named_mem found).2,
          (state_named_mem other).2]
  atInitial := alike.entry_actions _
  atEvery _ := alike.entry_actions

theorem open_session (alike : first.RunsLike second) : first.openSession = second.openSession :=
  (alike.enters_like .initialOnly).open_session

theorem runs (alike : first.RunsLike second) (options : Options) (session : Session)
    (calls : List Call) :
    Runner.runs ⟨first, options⟩ session calls = Runner.runs ⟨second, options⟩ session calls :=
  (alike.enters_like options.entry).runs (fun _ => alike.entry_actions session.current) calls

end Machine.RunsLike

end StateMachine
