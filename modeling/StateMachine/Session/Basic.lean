import StateMachine.Machine.Defaults
import StateMachine.Machine.Failure
import StateMachine.Session.Trace

/-!
Sessions: one machine reacting to events, one at a time. A call that fails keeps the effects it had
before the failure, and the session can be used further.
-/

set_option autoImplicit false

namespace StateMachine

/-- When entry actions run: those of the initial state always run once, at the start. -/
inductive EntryPolicy where
  | initialOnly
  | everyEntry
deriving DecidableEq, Repr

structure Options where
  entry : EntryPolicy
  /-- Otherwise timeouts show in the trace but do not pause. -/
  honorDelays : Bool
deriving DecidableEq, Repr

structure Runner where
  machine : Machine
  options : Options

structure Session where
  environment : Environment
  /-- Name of the current state. Of several states of that name it is the first. -/
  current : String
  started : Bool
deriving DecidableEq

inductive Outcome where
  | fired (source target : String)
  | guardRejected
  | noTransition
  | unknownEvent
deriving DecidableEq, Repr

structure Run (α : Type) where
  session : Session
  emitted : List Emission
  result : Except Failure α

namespace Run

variable {α β : Type}

def done (session : Session) (value : α) : Run α := ⟨session, [], .ok value⟩

def fail (session : Session) (failure : Failure) : Run α := ⟨session, [], .error failure⟩

def say (session : Session) (line : TraceLine) (value : α) : Run α :=
  ⟨session, [.line line], .ok value⟩

/-- Continues after success; a failure ends the call where it is. -/
def andThen (run : Run α) (next : Session → α → Run β) : Run β :=
  match run.result with
  | .error failure => ⟨run.session, run.emitted, .error failure⟩
  | .ok value =>
      let following := next run.session value
      ⟨following.session, run.emitted ++ following.emitted, following.result⟩

end Run

def renderParts (environment : Environment) : List Printed → Except Fault String
  | [] => .ok ""
  | .text content :: rest => do
      let following ← renderParts environment rest
      return content ++ following
  | .value expr :: rest => do
      let value ← expr.evaluate environment
      let following ← renderParts environment rest
      return value.text ++ following

namespace Machine

def transitionIn? (machine : Machine) (state event : String) : Option Transition :=
  (machine.stateNamed? state).bind fun found => found.transitionFor? event

def entryActions (machine : Machine) (state : String) : List Action :=
  ((machine.stateNamed? state).map State.entry).getD []

def openSession (machine : Machine) : Except Failure Session :=
  match machine.initialState? with
  | none => .error (.undeclaredInitial machine.initial)
  | some initial =>
      match Environment.init machine.attributes with
      | .error fault => .error (.evaluation fault)
      | .ok environment => .ok ⟨environment, initial.name, false⟩

end Machine

namespace Runner

/-- Assigns a value of the declared type. The attribute is looked up before the value is
evaluated. -/
def assign (runner : Runner) (session : Session) (target : String) (value : Expr) : Run Unit :=
  match runner.machine.attributeNamed? target with
  | none => .fail session (.unknownAttribute target)
  | some declared =>
      match value.evaluate session.environment with
      | .error fault => .fail session (.evaluation fault)
      | .ok result =>
          if result.ty = declared.ty then
            .done { session with environment := session.environment.set target result } ()
          else
            .fail session (.evaluation (.mismatch (.assignment target) declared.ty result.ty))

def runAction (runner : Runner) (session : Session) : Action → Run Unit
  | .assign target value => runner.assign session target value
  | .print parts =>
      match renderParts session.environment parts with
      | .error fault => .fail session (.evaluation fault)
      | .ok content => .say session (.print content) ()
  | .timeout millis =>
      let pauses := if runner.options.honorDelays then [Emission.pause millis] else []
      ⟨session, .line (.delay millis) :: pauses, .ok ()⟩
  | .run command => .say session (.command command) ()

def runActions (runner : Runner) (session : Session) : List Action → Run Unit
  | [] => .done session ()
  | action :: rest =>
      (runner.runAction session action).andThen fun after _ => runner.runActions after rest

/-- Reports the initial state and runs its entry actions; does nothing once started. A session whose
entry actions fail counts as started. -/
def start (runner : Runner) (session : Session) : Run Unit :=
  if session.started then .done session ()
  else
    (Run.say { session with started := true } (.entered session.current) ()).andThen fun begun _ =>
      runner.runActions begun (runner.machine.entryActions session.current)

/-- Fires a transition whose guard holds: its actions, the move, then the entry actions of the
target when every entry counts. -/
def fire (runner : Runner) (session : Session) (transition : Transition) (target : State) :
    Run Outcome :=
  (runner.runActions session transition.actions).andThen fun acted _ =>
    (Run.say { acted with current := target.name }
        (.transitioned session.current target.name) ()).andThen fun moved _ =>
      let entry := if runner.options.entry = .everyEntry then target.entry else []
      (runner.runActions moved entry).andThen fun entered _ =>
        .done entered (.fired session.current target.name)

/-- Handles an event in a session that has started. The target is resolved before any action
runs. -/
def handle (runner : Runner) (session : Session) (event : String) : Run Outcome :=
  if runner.machine.hasEvent event then
    match runner.machine.transitionIn? session.current event with
    | none => .say session (.noTransition event session.current) .noTransition
    | some transition =>
        match judge session.environment transition.guard with
        | .error fault => .fail session (.evaluation fault)
        | .ok (.notBoolean found) =>
            .fail session (.guardNotBoolean session.current event found)
        | .ok (.decided false) => .say session .notAllowed .guardRejected
        | .ok (.decided true) =>
            match runner.machine.stateNamed? transition.target with
            | none => .fail session (.unknownState transition.target)
            | some target => runner.fire session transition target
  else .say session (.unknownEvent event runner.machine.name) .unknownEvent

/-- Handles an event, starting the session first if needed. -/
def dispatch (runner : Runner) (session : Session) (event : String) : Run Outcome :=
  (runner.start session).andThen fun begun _ => runner.handle begun event

def dispatchAll (runner : Runner) (session : Session) : List String → Run (List Outcome)
  | [] => .done session []
  | event :: rest =>
      (runner.dispatch session event).andThen fun after outcome =>
        (runner.dispatchAll after rest).andThen fun final outcomes =>
          .done final (outcome :: outcomes)

/-- Handles a whole sequence of events. It is refused, without any effect, when some of the events
are not declared. -/
def runBatch (runner : Runner) (session : Session) (events : List String) : Run (List Outcome) :=
  match events.filter fun event => !runner.machine.hasEvent event with
  | [] => (runner.start session).andThen fun begun _ => runner.dispatchAll begun events
  | unknown => .fail session (.unknownEvents unknown)

def reset (runner : Runner) (session : Session) : Run Unit :=
  match runner.machine.initialState? with
  | none => .fail session (.undeclaredInitial runner.machine.initial)
  | some initial =>
      let moved := { session with current := initial.name }
      match Environment.init runner.machine.attributes with
      | .error fault => .fail moved (.evaluation fault)
      | .ok environment => .done { moved with environment := environment, started := false } ()

end Runner

end StateMachine
