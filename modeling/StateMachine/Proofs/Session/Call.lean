import StateMachine.Session.Basic

/-!
Calls on a session, and how a property of sessions is carried through them. A call may fail on the
way; what it did before stays, so an invariant has to hold wherever it stops.
-/

set_option autoImplicit false

namespace StateMachine

inductive Call where
  | start
  | dispatch (event : String)
  | runBatch (events : List String)
  | reset
deriving DecidableEq, Repr

inductive Reply where
  | done
  | outcome (outcome : Outcome)
  | outcomes (outcomes : List Outcome)
deriving DecidableEq, Repr

def Run.map {α β : Type} (run : Run α) (reply : α → β) : Run β :=
  ⟨run.session, run.emitted, run.result.map reply⟩

theorem Run.map_of_ok {α β : Type} {run : Run α} {value : α} (succeeded : run.result = .ok value)
    (reply : α → β) : (run.map reply).result = .ok (reply value) := by
  simp only [map, succeeded, Except.map]

theorem Run.map_of_error {α β : Type} {run : Run α} {failure : Failure}
    (failed : run.result = .error failure) (reply : α → β) :
    (run.map reply).result = .error failure := by
  simp only [map, failed, Except.map]

namespace Runner

def call (runner : Runner) (session : Session) : Call → Run Reply
  | .start => (runner.start session).map fun _ => .done
  | .dispatch event => (runner.dispatch session event).map .outcome
  | .runBatch events => (runner.runBatch session events).map .outcomes
  | .reset => (runner.reset session).map fun _ => .done

/-- The session after calls in order. A call that fails does not end the sequence. -/
def after (runner : Runner) (session : Session) : List Call → Session
  | [] => session
  | call :: rest => runner.after (runner.call session call).session rest

def runs (runner : Runner) (session : Session) : List Call → List (Run Reply)
  | [] => []
  | call :: rest =>
      let run := runner.call session call
      run :: runner.runs run.session rest

end Runner

namespace Run

variable {α β : Type} {kept : Session → Prop} {permitted : Failure → Prop}

/-- The session that a run leaves is `kept` even where it fails, and it fails only as
`permitted`. -/
structure Meets (kept : Session → Prop) (permitted : Failure → Prop) (run : Run α) : Prop where
  kept : kept run.session
  permitted : ∀ failure, run.result = .error failure → permitted failure

theorem meets_ok {session : Session} (holds : kept session) (emitted : List Emission)
    (value : α) : (⟨session, emitted, .ok value⟩ : Run α).Meets kept permitted :=
  ⟨holds, fun _ failed => nomatch failed⟩

theorem meets_error {session : Session} {failure : Failure} (holds : kept session)
    (emitted : List Emission) (allowed : permitted failure) :
    (⟨session, emitted, .error failure⟩ : Run α).Meets kept permitted := by
  refine ⟨holds, ?_⟩
  intro other failed
  cases failed
  exact allowed

theorem Meets.andThen {run : Run α} {next : Session → α → Run β}
    (first : run.Meets kept permitted)
    (second : ∀ session value, kept session → (next session value).Meets kept permitted) :
    (run.andThen next).Meets kept permitted := by
  obtain ⟨session, emitted, result⟩ := run
  cases result with
  | error failure => exact meets_error first.kept _ (first.permitted failure rfl)
  | ok value =>
      have following := second session value first.kept
      exact ⟨following.kept, following.permitted⟩

theorem Meets.map {run : Run α} (meets : run.Meets kept permitted) (reply : α → β) :
    (run.map reply).Meets kept permitted := by
  obtain ⟨session, emitted, result⟩ := run
  cases result with
  | error failure => exact meets_error meets.kept _ (meets.permitted failure rfl)
  | ok value => exact meets_ok meets.kept _ _

theorem Meets.weaken {run : Run α} {weaker : Failure → Prop} (meets : run.Meets kept permitted)
    (weakened : ∀ failure, permitted failure → weaker failure) : run.Meets kept weaker :=
  ⟨meets.kept, fun failure failed => weakened failure (meets.permitted failure failed)⟩

end Run

def Machine.Performs (machine : Machine) (action : Action) : Prop :=
  ∃ state ∈ machine.states, action ∈ state.entry ∨
    ∃ transition ∈ state.transitions, action ∈ transition.actions

theorem Machine.state_named_mem {machine : Machine} {name : String} {state : State}
    (found : machine.stateNamed? name = some state) :
    state ∈ machine.states ∧ state.name = name :=
  ⟨List.mem_of_find?_eq_some found, by simpa using List.find?_some found⟩

theorem Machine.transition_in_mem {machine : Machine} {current event : String}
    {transition : Transition} (found : machine.transitionIn? current event = some transition) :
    ∃ state, machine.stateNamed? current = some state ∧ transition ∈ state.transitions := by
  obtain ⟨state, named, handles⟩ := Option.bind_eq_some_iff.mp found
  exact ⟨state, named, List.mem_of_find?_eq_some handles⟩

namespace Runner

/-- What makes `kept` an invariant of a runner's sessions, and bounds its failures by `permitted`:
one obligation for each thing a call can do to a session and for each way it can fail. A batch with
undeclared events is refused before it does anything and stands apart. -/
structure Upholds (runner : Runner) (kept : Session → Prop) (permitted : Failure → Prop) :
    Prop where
  begun : ∀ session, kept session → kept { session with started := true }
  action : ∀ session action, kept session → runner.machine.Performs action →
    (runner.runAction session action).Meets kept permitted
  judged : ∀ session state transition fault, kept session → state ∈ runner.machine.states →
    transition ∈ state.transitions →
    judge session.environment transition.guard = .error fault → permitted (.evaluation fault)
  decided : ∀ session state transition event found, kept session →
    state ∈ runner.machine.states → transition ∈ state.transitions →
    judge session.environment transition.guard = .ok (.notBoolean found) →
    permitted (.guardNotBoolean session.current event found)
  resolved : ∀ state transition, state ∈ runner.machine.states →
    transition ∈ state.transitions → runner.machine.stateNamed? transition.target = none →
    permitted (.unknownState transition.target)
  moved : ∀ session name target, kept session →
    runner.machine.stateNamed? name = some target → kept { session with current := target.name }
  reset : ∀ session, kept session → (runner.reset session).Meets kept permitted

namespace Upholds

variable {runner : Runner} {kept : Session → Prop} {permitted : Failure → Prop}

theorem run_actions (upholds : runner.Upholds kept permitted) {session : Session}
    (holds : kept session) {actions : List Action}
    (performed : ∀ action ∈ actions, runner.machine.Performs action) :
    (runner.runActions session actions).Meets kept permitted := by
  induction actions generalizing session with
  | nil => exact Run.meets_ok holds _ _
  | cons action rest induction =>
      have first := upholds.action session action holds (performed action (by simp))
      apply first.andThen
      intro after _ afterHolds
      exact induction afterHolds fun other member => performed other (by simp [member])

theorem start (upholds : runner.Upholds kept permitted) {session : Session}
    (holds : kept session) : (runner.start session).Meets kept permitted := by
  unfold Runner.start
  split
  · exact Run.meets_ok holds _ _
  · refine Run.Meets.andThen (Run.meets_ok (upholds.begun session holds) _ _) ?_
    intro begun _ begunHolds
    apply upholds.run_actions begunHolds
    intro action member
    unfold Machine.entryActions at member
    cases found : runner.machine.stateNamed? session.current with
    | none => simp [found] at member
    | some state =>
        have enters : action ∈ state.entry := by simpa [found] using member
        exact ⟨state, (Machine.state_named_mem found).1, Or.inl enters⟩

theorem fire (upholds : runner.Upholds kept permitted) {session : Session}
    (holds : kept session) {state target : State} {transition : Transition}
    (declared : state ∈ runner.machine.states) (handles : transition ∈ state.transitions)
    (found : runner.machine.stateNamed? transition.target = some target) :
    (runner.fire session transition target).Meets kept permitted := by
  have acted := upholds.run_actions holds fun action member =>
    ⟨state, declared, Or.inr ⟨transition, handles, member⟩⟩
  apply acted.andThen
  intro after _ afterHolds
  refine Run.Meets.andThen (Run.meets_ok (upholds.moved after _ target afterHolds found) _ _) ?_
  intro moved _ movedHolds
  refine Run.Meets.andThen (upholds.run_actions movedHolds ?_) ?_
  · intro action member
    split at member
    · exact ⟨target, (Machine.state_named_mem found).1, Or.inl member⟩
    · cases member
  · intro entered _ enteredHolds
    exact Run.meets_ok enteredHolds _ _

theorem handle (upholds : runner.Upholds kept permitted) {session : Session}
    (holds : kept session) (event : String) :
    (runner.handle session event).Meets kept permitted := by
  unfold Runner.handle
  split
  · cases found : runner.machine.transitionIn? session.current event with
    | none => exact Run.meets_ok holds _ _
    | some transition =>
        obtain ⟨state, named, handles⟩ := Machine.transition_in_mem found
        have declared := (Machine.state_named_mem named).1
        dsimp only
        split
        · next fault failed =>
            exact Run.meets_error holds _
              (upholds.judged session state transition fault holds declared handles failed)
        · next type undecided =>
            exact Run.meets_error holds _
              (upholds.decided session state transition event type holds declared handles undecided)
        · exact Run.meets_ok holds _ _
        · split
          · next missing =>
              exact Run.meets_error holds _
                (upholds.resolved state transition declared handles missing)
          · next target resolved => exact upholds.fire holds declared handles resolved
  · exact Run.meets_ok holds _ _

theorem dispatch (upholds : runner.Upholds kept permitted) {session : Session}
    (holds : kept session) (event : String) :
    (runner.dispatch session event).Meets kept permitted :=
  (upholds.start holds).andThen fun _ _ begunHolds => upholds.handle begunHolds event

theorem dispatch_all (upholds : runner.Upholds kept permitted) {session : Session}
    (holds : kept session) (events : List String) :
    (runner.dispatchAll session events).Meets kept permitted := by
  induction events generalizing session with
  | nil => exact Run.meets_ok holds _ _
  | cons event rest induction =>
      apply (upholds.dispatch holds event).andThen
      intro after outcome afterHolds
      apply (induction afterHolds).andThen
      intro final outcomes finalHolds
      exact Run.meets_ok finalHolds _ _

theorem run_batch (upholds : runner.Upholds kept permitted) {session : Session}
    (holds : kept session) (events : List String) :
    (runner.runBatch session events).Meets kept fun failure =>
      permitted failure ∨ ∃ unknown, failure = .unknownEvents unknown := by
  unfold Runner.runBatch
  split
  · have batch := (upholds.start holds).andThen fun _ _ begunHolds =>
      upholds.dispatch_all begunHolds events
    exact batch.weaken fun _ => Or.inl
  · exact Run.meets_error holds _ (Or.inr ⟨_, rfl⟩)

/-- One call keeps the invariant, and only a batch is refused for its events. -/
theorem call (upholds : runner.Upholds kept permitted) {session : Session}
    (holds : kept session) (call : Call) :
    (runner.call session call).Meets kept fun failure =>
      permitted failure ∨ ∃ events unknown, call = .runBatch events ∧
        failure = .unknownEvents unknown := by
  cases call with
  | start => exact ((upholds.start holds).map _).weaken fun _ => Or.inl
  | dispatch event => exact ((upholds.dispatch holds event).map _).weaken fun _ => Or.inl
  | runBatch events =>
      apply ((upholds.run_batch holds events).map _).weaken
      rintro failure (allowed | ⟨unknown, rfl⟩)
      · exact Or.inl allowed
      · exact Or.inr ⟨events, unknown, rfl, rfl⟩
  | reset => exact ((upholds.reset session holds).map _).weaken fun _ => Or.inl

/-- Any calls keep the invariant, those after a failed one included. -/
theorem after (upholds : runner.Upholds kept permitted) {session : Session}
    (holds : kept session) (calls : List Call) : kept (runner.after session calls) := by
  induction calls generalizing session with
  | nil => exact holds
  | cons call rest induction => exact induction (upholds.call holds call).kept

end Upholds

end Runner

end StateMachine
