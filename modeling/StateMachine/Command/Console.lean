import StateMachine.Command.Basic
import StateMachine.Text.Split

/-!
The console: a session that is steered line by line. A line is a request to the console or the name
of an event for the machine; the first word decides, and an event is a single word.
-/

set_option autoImplicit false

namespace StateMachine.Console

inductive Request where
  | blank
  | help
  | quit
  | state
  | values
  | events
  | restart
  | event (name : String)
  /-- Several words of which the first is no request. -/
  | unclear
deriving DecidableEq, Repr

def Request.ofLine (line : String) : Request :=
  match (Text.words line.toList).map String.ofList with
  | [] => .blank
  | first :: rest =>
      match first with
      | "help" | "?" => .help
      | "quit" | "exit" | "q" => .quit
      | "state" => .state
      | "env" => .values
      | "events" => .events
      | "reset" => .restart
      | _ => if rest.isEmpty then .event first else .unclear

def helpText : String :=
  "\n".intercalate ["",
    "Available commands:",
    "  help                Show this help",
    "  state               Show the current state and attributes",
    "  env                 Show attribute values",
    "  events              List events handled by the current state",
    "  reset               Restart the session from the initial state",
    "  quit, exit          Exit the REPL",
    "",
    "Anything else is sent to the machine as an event.",
    ""]

def hint : String := "Type 'help' for help."

inductive Reply where
  /-- The console goes on, after showing a text unless it is empty. -/
  | shown (text : String)
  | quit
  /-- A failure also ends the console. -/
  | failed (failure : Failure)
deriving DecidableEq, Repr

structure Turn where
  session : Session
  emitted : List Emission
  reply : Reply

def valuesText (environment : Environment) : String :=
  if environment.isEmpty then "No attributes" else "\n".intercalate environment.lines

def eventsText (events : List String) : String :=
  if events.isEmpty then "No transitions from this state" else "  " ++ ", ".intercalate events

def answer (session : Session) (text : String) : Turn := ⟨session, [], .shown text⟩

def ofRun {α : Type} (run : Run α) (text : α → String) : Turn :=
  ⟨run.session, run.emitted,
    match run.result with
    | .ok value => .shown (text value)
    | .error failure => .failed failure⟩

def outcomeText : Outcome → String
  | .unknownEvent => hint
  | _ => ""

def turn (runner : Runner) (session : Session) : Request → Turn
  | .blank => answer session ""
  | .help => answer session helpText
  | .quit => ⟨session, [], .quit⟩
  | .state => answer session session.text
  | .values => answer session (valuesText session.environment)
  | .events => answer session (eventsText (runner.machine.eventsFrom session.current))
  | .restart =>
      ofRun ((runner.reset session).andThen fun fresh _ => runner.start fresh) fun _ => ""
  | .event name => ofRun (runner.dispatch session name) outcomeText
  | .unclear => answer session ("Events are single words. " ++ hint)

/-- Answers lines in order, up to the end of the console. -/
def turns (runner : Runner) (session : Session) : List String → List Turn
  | [] => []
  | line :: rest =>
      let answered := turn runner session (Request.ofLine line)
      match answered.reply with
      | .shown _ => answered :: turns runner answered.session rest
      | .quit | .failed _ => [answered]

def Turn.text (turn : Turn) : String :=
  traceText turn.emitted ++
    match turn.reply with
    | .shown "" | .quit => ""
    | .shown content => content ++ "\n"
    | .failed failure => "Error: " ++ failure.message ++ "\n"

def greeting : String := "Type 'help' for available commands.\n\n"

def farewell : String := "^D\n"

def isOpen (answered : List Turn) : Bool :=
  answered.all fun turn =>
    match turn.reply with
    | .shown _ => true
    | .quit | .failed _ => false

def transcript (runner : Runner) (session : Session) (lines : List String) : String :=
  let answered := turns runner session lines
  greeting ++ String.join (answered.map Turn.text) ++ if isOpen answered then farewell else ""

def options : Options := ⟨.initialOnly, true⟩

end StateMachine.Console
