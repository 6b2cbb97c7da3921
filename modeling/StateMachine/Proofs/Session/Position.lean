import Mathlib.Data.List.Forall2
import StateMachine.Proofs.Session.Journal

/-!
Sessions that keep the position of the current state where other sessions keep its name. With
several states of one name a position says more than the name, but every position that a session
comes to was looked up by a name, so it is the first of that name. Hence a session by position does,
call after call, what the session by name does.
-/

set_option autoImplicit false

namespace StateMachine

namespace Machine

def position? (machine : Machine) (name : String) : Option (Fin machine.states.length) :=
  machine.states.findFinIdx? fun state => state.name == name

variable {machine : Machine} {name : String}

theorem state_index_eq_position (machine : Machine) (name : String) :
    machine.stateIndex? name = (machine.position? name).map Fin.val :=
  List.findIdx?_eq_map_findFinIdx?_val

theorem state_named_eq_position (machine : Machine) (name : String) :
    machine.stateNamed? name = (machine.position? name).map fun position =>
      machine.states[position] :=
  List.find?_eq_map_findFinIdx?_getElem

theorem name_at_position {position : Fin machine.states.length}
    (found : machine.position? name = some position) : machine.states[position].name = name := by
  have named : machine.stateNamed? name = some machine.states[position] := by
    rw [state_named_eq_position, found]
    rfl
  exact (state_named_mem named).2

end Machine

/-- A session as before, except that it keeps the position of the current state. -/
structure PlacedSession (machine : Machine) where
  environment : Environment
  position : Fin machine.states.length
  started : Bool

structure PlacedRun (machine : Machine) (α : Type) where
  session : PlacedSession machine
  emitted : List Emission
  result : Except Failure α

variable {machine : Machine} {α β : Type}

namespace PlacedSession

def state (session : PlacedSession machine) : State := machine.states[session.position]

def named (session : PlacedSession machine) : Session :=
  ⟨session.environment, session.state.name, session.started⟩

/-- No state before the current one has its name. -/
def IsFirst (session : PlacedSession machine) : Prop :=
  machine.position? session.state.name = some session.position

theorem is_first_of_position {name : String} {position : Fin machine.states.length}
    (found : machine.position? name = some position) (environment : Environment) (started : Bool) :
    IsFirst ⟨environment, position, started⟩ := by
  have same : machine.states[position].name = name := Machine.name_at_position found
  rw [IsFirst, state, same]
  exact found

theorem IsFirst.state_named {session : PlacedSession machine} (first : session.IsFirst) :
    machine.stateNamed? session.named.current = some session.state := by
  rw [Machine.state_named_eq_position, named, first]
  rfl

end PlacedSession

namespace PlacedRun

def done (session : PlacedSession machine) (value : α) : PlacedRun machine α :=
  ⟨session, [], .ok value⟩

def fail (session : PlacedSession machine) (failure : Failure) : PlacedRun machine α :=
  ⟨session, [], .error failure⟩

def say (session : PlacedSession machine) (line : TraceLine) (value : α) : PlacedRun machine α :=
  ⟨session, [.line line], .ok value⟩

def andThen (run : PlacedRun machine α) (next : PlacedSession machine → α → PlacedRun machine β) :
    PlacedRun machine β :=
  match run.result with
  | .error failure => ⟨run.session, run.emitted, .error failure⟩
  | .ok value =>
      let following := next run.session value
      ⟨following.session, run.emitted ++ following.emitted, following.result⟩

def map (run : PlacedRun machine α) (reply : α → β) : PlacedRun machine β :=
  ⟨run.session, run.emitted, run.result.map reply⟩

def named (run : PlacedRun machine α) : Run α := ⟨run.session.named, run.emitted, run.result⟩

/-- The run by position is the run by name, and what it leaves stands at the first state of its
name, also where it fails. -/
structure Refines (placed : PlacedRun machine α) (run : Run α) : Prop where
  named_eq : placed.named = run
  first : placed.session.IsFirst

theorem Refines.andThen {placed : PlacedRun machine α} {run : Run α}
    {placedNext : PlacedSession machine → α → PlacedRun machine β} {next : Session → α → Run β}
    (refines : placed.Refines run)
    (following : ∀ session value, session.IsFirst →
      (placedNext session value).Refines (next session.named value)) :
    (placed.andThen placedNext).Refines (run.andThen next) := by
  obtain ⟨rfl, first⟩ := refines
  obtain ⟨session, emitted, result⟩ := placed
  cases result with
  | error failure => exact ⟨rfl, first⟩
  | ok value =>
      obtain ⟨same, final⟩ := following session value first
      refine ⟨?_, final⟩
      simp only [Run.andThen, named, ← same]
      rfl

theorem Refines.map {placed : PlacedRun machine α} {run : Run α} (refines : placed.Refines run)
    (reply : α → β) : (placed.map reply).Refines (run.map reply) := by
  obtain ⟨rfl, first⟩ := refines
  exact ⟨rfl, first⟩

end PlacedRun

/-! A session by position does what a session by name does; where that one looks for a name, this
one takes the state that it stands at. -/

def Machine.openPlaced (machine : Machine) : Except Failure (PlacedSession machine) :=
  match machine.position? machine.initial with
  | none => .error (.undeclaredInitial machine.initial)
  | some initial =>
      match Environment.init machine.attributes with
      | .error fault => .error (.evaluation fault)
      | .ok environment => .ok ⟨environment, initial, false⟩

namespace PlacedSession

variable (options : Options) (session : PlacedSession machine)

/-- Actions read and write values only, so it does not matter to them how the state is kept. -/
def perform (actions : List Action) : PlacedRun machine Unit :=
  let run := Runner.runActions ⟨machine, options⟩ session.named actions
  ⟨{ session with environment := run.session.environment }, run.emitted, run.result⟩

def start : PlacedRun machine Unit :=
  if session.started then .done session ()
  else
    (PlacedRun.say { session with started := true } (.entered session.state.name) ()).andThen
      fun begun _ => begun.perform options session.state.entry

def fire (transition : Transition) (target : Fin machine.states.length) :
    PlacedRun machine Outcome :=
  let reached := machine.states[target]
  (session.perform options transition.actions).andThen fun acted _ =>
    (PlacedRun.say { acted with position := target }
        (.transitioned session.state.name reached.name) ()).andThen fun moved _ =>
      let entry := if options.entry = .everyEntry then reached.entry else []
      (moved.perform options entry).andThen fun entered _ =>
        .done entered (.fired session.state.name reached.name)

def handle (event : String) : PlacedRun machine Outcome :=
  if machine.hasEvent event then
    match session.state.transitionFor? event with
    | none => .say session (.noTransition event session.state.name) .noTransition
    | some transition =>
        match judge session.environment transition.guard with
        | .error fault => .fail session (.evaluation fault)
        | .ok (.notBoolean found) =>
            .fail session (.guardNotBoolean session.state.name event found)
        | .ok (.decided false) => .say session .notAllowed .guardRejected
        | .ok (.decided true) =>
            match machine.position? transition.target with
            | none => .fail session (.unknownState transition.target)
            | some target => session.fire options transition target
  else .say session (.unknownEvent event machine.name) .unknownEvent

def dispatch (event : String) : PlacedRun machine Outcome :=
  (session.start options).andThen fun begun _ => begun.handle options event

def dispatchAll (session : PlacedSession machine) : List String → PlacedRun machine (List Outcome)
  | [] => .done session []
  | event :: rest =>
      (session.dispatch options event).andThen fun after outcome =>
        (after.dispatchAll rest).andThen fun final outcomes => .done final (outcome :: outcomes)

def runBatch (events : List String) : PlacedRun machine (List Outcome) :=
  match events.filter fun event => !machine.hasEvent event with
  | [] => (session.start options).andThen fun begun _ => begun.dispatchAll options events
  | unknown => .fail session (.unknownEvents unknown)

def reset : PlacedRun machine Unit :=
  match machine.position? machine.initial with
  | none => .fail session (.undeclaredInitial machine.initial)
  | some initial =>
      let moved := { session with position := initial }
      match Environment.init machine.attributes with
      | .error fault => .fail moved (.evaluation fault)
      | .ok environment => .done { moved with environment := environment, started := false } ()

def call : Call → PlacedRun machine Reply
  | .start => (session.start options).map fun _ => .done
  | .dispatch event => (session.dispatch options event).map .outcome
  | .runBatch events => (session.runBatch options events).map .outcomes
  | .reset => session.reset.map fun _ => .done

def runs (session : PlacedSession machine) : List Call → List (PlacedRun machine Reply)
  | [] => []
  | call :: rest =>
      let run := session.call options call
      run :: run.session.runs rest

end PlacedSession

theorem Runner.run_actions_environment (runner : Runner) (session : Session)
    (actions : List Action) :
    (runner.runActions session actions).session =
      { session with environment := (runner.runActions session actions).session.environment } := by
  induction actions generalizing session with
  | nil => rfl
  | cons action rest induction =>
      rcases runner.run_action_cases session action with
        ⟨failure, failed⟩ | ⟨environment, stored⟩ | ⟨line, pauses, _, remarked⟩
      · rw [runActions, failed]
        rfl
      · rw [runActions, stored, Run.done_and_then]
        exact induction { session with environment := environment }
      · rw [runActions, remarked]
        exact induction session

theorem Machine.open_placed_named (machine : Machine) :
    machine.openPlaced.map PlacedSession.named = machine.openSession := by
  rw [openPlaced, openSession, initialState?, state_named_eq_position]
  cases machine.position? machine.initial with
  | none => rfl
  | some initial =>
      cases Environment.init machine.attributes with
      | error fault => rfl
      | ok environment => rfl

theorem Machine.open_placed_first {session : PlacedSession machine}
    (opened : machine.openPlaced = .ok session) : session.IsFirst := by
  unfold openPlaced at opened
  split at opened
  · cases opened
  · next initial found =>
      split at opened
      · cases opened
      · cases opened
        exact PlacedSession.is_first_of_position found _ _

namespace PlacedSession.IsFirst

variable {session : PlacedSession machine} (first : session.IsFirst) (options : Options)

include first

theorem perform (actions : List Action) :
    (session.perform options actions).Refines
      (Runner.runActions ⟨machine, options⟩ session.named actions) := by
  refine ⟨?_, first⟩
  have unmoved := Runner.run_actions_environment ⟨machine, options⟩ session.named actions
  simp only [PlacedRun.named, PlacedSession.perform]
  exact congrArg (fun last => Run.mk last _ _) unmoved.symm

theorem start :
    (session.start options).Refines (Runner.start ⟨machine, options⟩ session.named) := by
  have entry : machine.entryActions session.named.current = session.state.entry := by
    rw [Machine.entryActions, first.state_named]
    rfl
  rw [PlacedSession.start, Runner.start, entry]
  cases started : session.started with
  | true =>
      rw [if_pos rfl, if_pos (show session.named.started = true from started)]
      exact ⟨rfl, first⟩
  | false =>
      rw [if_neg Bool.false_ne_true, if_neg (by simp [named, started])]
      refine PlacedRun.Refines.andThen ⟨rfl, first⟩ ?_
      intro begun _ begunFirst
      exact begunFirst.perform options _

theorem fire {transition : Transition} {target : Fin machine.states.length}
    (found : machine.position? transition.target = some target) :
    (session.fire options transition target).Refines
      (Runner.fire ⟨machine, options⟩ session.named transition machine.states[target]) := by
  simp only [PlacedSession.fire, Runner.fire]
  apply (first.perform options transition.actions).andThen
  intro acted _ _
  refine PlacedRun.Refines.andThen ⟨rfl, is_first_of_position found _ _⟩ ?_
  intro moved _ movedFirst
  apply (movedFirst.perform options _).andThen
  intro entered _ enteredFirst
  exact ⟨rfl, enteredFirst⟩

theorem handle (event : String) :
    (session.handle options event).Refines
      (Runner.handle ⟨machine, options⟩ session.named event) := by
  have handled : machine.transitionIn? session.named.current event =
      session.state.transitionFor? event := by
    rw [Machine.transitionIn?, first.state_named]
    rfl
  have unmoved {run : PlacedRun machine Outcome} (stays : run.session = session) :
      run.Refines run.named := ⟨rfl, stays ▸ first⟩
  simp only [PlacedSession.handle, Runner.handle, handled]
  split
  · cases session.state.transitionFor? event with
    | none => exact unmoved rfl
    | some transition =>
        have same : judge session.named.environment transition.guard =
            judge session.environment transition.guard := rfl
        simp only [same]
        cases judge session.environment transition.guard with
        | error fault => exact unmoved rfl
        | ok verdict =>
            cases verdict with
            | notBoolean found => exact unmoved rfl
            | decided allowed =>
                cases allowed with
                | false => exact unmoved rfl
                | true =>
                    rw [Machine.state_named_eq_position]
                    cases found : machine.position? transition.target with
                    | none => exact unmoved rfl
                    | some target => exact first.fire options found
  · exact unmoved rfl

theorem dispatch (event : String) :
    (session.dispatch options event).Refines
      (Runner.dispatch ⟨machine, options⟩ session.named event) := by
  apply (first.start options).andThen
  intro begun _ begunFirst
  exact begunFirst.handle options event

theorem dispatchAll (events : List String) :
    (session.dispatchAll options events).Refines
      (Runner.dispatchAll ⟨machine, options⟩ session.named events) := by
  induction events generalizing session with
  | nil => exact ⟨rfl, first⟩
  | cons event rest induction =>
      apply (first.dispatch options event).andThen
      intro after outcome afterFirst
      apply (induction afterFirst).andThen
      intro final outcomes finalFirst
      exact ⟨rfl, finalFirst⟩

theorem runBatch (events : List String) :
    (session.runBatch options events).Refines
      (Runner.runBatch ⟨machine, options⟩ session.named events) := by
  simp only [PlacedSession.runBatch, Runner.runBatch]
  cases events.filter fun event => !machine.hasEvent event with
  | nil =>
      apply (first.start options).andThen
      intro begun _ begunFirst
      exact begunFirst.dispatchAll options events
  | cons event rest => exact ⟨rfl, first⟩

theorem reset : session.reset.Refines (Runner.reset ⟨machine, options⟩ session.named) := by
  simp only [PlacedSession.reset, Runner.reset, Machine.initialState?,
    Machine.state_named_eq_position]
  cases found : machine.position? machine.initial with
  | none => exact ⟨rfl, first⟩
  | some initial =>
      cases Environment.init machine.attributes with
      | error fault => exact ⟨rfl, is_first_of_position found _ _⟩
      | ok environment => exact ⟨rfl, is_first_of_position found _ _⟩

theorem call (call : Call) :
    (session.call options call).Refines (Runner.call ⟨machine, options⟩ session.named call) := by
  cases call with
  | start => exact (first.start options).map _
  | dispatch event => exact (first.dispatch options event).map _
  | runBatch events => exact (first.runBatch options events).map _
  | reset => exact (first.reset options).map _

/-- Call after call, those after a failed one included, the run by position refines the one by
name. -/
theorem runs (calls : List Call) :
    List.Forall₂ PlacedRun.Refines (session.runs options calls)
      (Runner.runs ⟨machine, options⟩ session.named calls) := by
  induction calls generalizing session with
  | nil => exact .nil
  | cons call rest induction =>
      have refines := first.call options call
      have later := induction refines.first
      have last : (session.call options call).session.named =
          (Runner.call ⟨machine, options⟩ session.named call).session := by
        rw [← refines.named_eq]
        rfl
      rw [last] at later
      exact .cons refines later

end PlacedSession.IsFirst

theorem PlacedSession.IsFirst.state_index {session : PlacedSession machine}
    (first : session.IsFirst) :
    machine.stateIndex? session.state.name = some session.position.val := by
  rw [Machine.state_index_eq_position, first]
  rfl

/-- By position or by name, a machine opens the same session or fails alike, and whatever the
session is asked, both do the same. The name of the state that a session by position stands at leads
back to the position. -/
theorem Machine.placed_sessions_alike (machine : Machine) :
    machine.openPlaced.map PlacedSession.named = machine.openSession ∧
      ∀ options session calls, machine.openPlaced = .ok session →
        (session.runs options calls).map PlacedRun.named =
            Runner.runs ⟨machine, options⟩ session.named calls ∧
          ∀ run ∈ session.runs options calls,
            machine.stateIndex? run.session.state.name = some run.session.position.val := by
  refine ⟨machine.open_placed_named, ?_⟩
  intro options session calls opened
  have refines := (open_placed_first opened).runs options calls
  constructor
  · have same : List.Forall₂ Eq ((session.runs options calls).map PlacedRun.named)
        (Runner.runs ⟨machine, options⟩ session.named calls) := by
      rw [List.forall₂_map_left_iff]
      exact refines.imp fun _ _ => PlacedRun.Refines.named_eq
    rwa [List.forall₂_eq_eq_eq] at same
  · intro run member
    obtain ⟨place, bound, rfl⟩ := List.getElem_of_mem member
    exact (refines.get bound (refines.length_eq ▸ bound)).first.state_index

end StateMachine
