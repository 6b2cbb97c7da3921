import StateMachine.Command.Arguments
import StateMachine.Command.Screen
import StateMachine.Session.Live
import StateMachine.Settings

/-!
The live program: it runs one model on the events of its input, or writes the model's C++ program,
as the settings say.
-/

set_option autoImplicit false

namespace StateMachine.LiveProgram

structure Request where
  model : String
  settings : Option String
  /-- Writes the C++ program instead of running the model. -/
  emit : Bool
deriving DecidableEq, Repr

def configFlag : Flag :=
  ⟨"config", some 'c', some "CONFIG", "Configuration file (YAML)"⟩

def emitFlag : Flag :=
  ⟨"emit", none, none, "Write the generated C++ program to the configured output directory " ++
    "instead of starting a session"⟩

def modelOperand : Operand := ⟨"MODEL", false, "Model document (.json, .yaml)"⟩

def grammar (known : Settings.Variables) : Grammar where
  name := "fsml"
  about := "Run an fsml state machine on events read from stdin"
  flags := [{ configFlag with
    about := configFlag.about ++ " [env: " ++ Settings.fileVariable ++ "=" ++
      (known Settings.fileVariable).getD "" ++ "]" }, emitFlag]
  operands := [modelOperand]
  commands := []
  version := some "fsml 0.1.0"
  hasHelp := true

/-- Reads a command line. A variable names the settings when no option does. -/
def read (known : Settings.Variables) (line : List String) : Reading Request :=
  (Arguments.ofLine (grammar known) line).andThen fun arguments =>
    match arguments.operands, (arguments.value? configFlag).or (known Settings.fileVariable) with
    | _, some "" => Arguments.refuseValue (grammar known) configFlag.text
    | model :: _, settings => .asked ⟨model, settings, arguments.has emitFlag⟩
    | [], _ => Arguments.refuseMissing (grammar known) arguments modelOperand

def isRefused (settings : SessionSettings) (found : List Diagnostic) : Bool :=
  settings.strict && (hasErrors found || (settings.warningsAsErrors && !found.isEmpty))

def prepare (storage : Storage) (known : Settings.Variables) (request : Request) :
    Except String (Settings × Machine) := do
  let settings ←
    (Settings.load storage known request.settings).mapError fun failure =>
      failure.message (request.settings.getD "")
  let machine ← (Machine.load storage request.model).mapError LoadFailure.message
  let found := machine.diagnostics
  if isRefused settings.session found then
    throw ("model '" ++ machine.name ++ "' failed validation (" ++ toString found.length ++
      " diagnostic(s))")
  return (settings, machine)

def emitProgram (settings : Settings) (machine : Machine) : Screen :=
  match Command.programFile machine settings.generator.directory settings.generator.extension with
  | .error failure => Screen.fails failure.message
  | .ok file => { Screen.shows (Command.announce file ++ "\n") with file := some file }

/-- Runs a model on an input, of which each line is read when the event before it is done. -/
def play (settings : Settings) (machine : Machine) (input : List UInt8) : Screen :=
  match machine.openSession with
  | .error failure => Screen.fails failure.message
  | .ok session =>
      let live := Live.run ⟨machine, settings.session.options⟩ false session [.bytes input]
      (match live.ended with
        | some (.error (.machine failure)) => Screen.fails failure.message
        | some (.error .input) => Screen.fails "the input is not UTF-8 text"
        | some (.ok ()) | none => Screen.shows "").after (traceText live.emitted)

def respond (storage : Storage) (known : Settings.Variables) (input : List UInt8)
    (request : Request) : Screen :=
  match prepare storage known request with
  | .error message => Screen.fails message
  | .ok (settings, machine) =>
      if request.emit then emitProgram settings machine else play settings machine input

def run (storage : Storage) (known : Settings.Variables) (arguments : List String)
    (input : List UInt8) : Screen :=
  match read known arguments with
  | .asked request => respond storage known input request
  | .shown text => Screen.shows text
  | .refused rejection => Screen.refuses rejection

end StateMachine.LiveProgram
