import StateMachine.Cpp.Program
import StateMachine.Document.Load
import StateMachine.Json.Writer
import StateMachine.Machine.Codec
import StateMachine.Session.Basic
import StateMachine.Validation.Check

/-!
Commands on one model file. What a command would do beside giving its output (warn, pause, write a
file) is part of its report, so a command is a function of the file.
-/

set_option autoImplicit false

namespace StateMachine

inductive Command where
  | validate (file : String)
  | interpret (file : String) (events : List String) (options : Options)
  | generate (file directory : String)
  /-- Shows the model as data. -/
  | tree (file : String)
deriving DecidableEq, Repr

inductive CommandFailure where
  | load (failure : LoadFailure)
  | invalid (found : List Diagnostic)
  | machine (failure : Failure)
deriving DecidableEq, Repr

/-- A file to be written; the directory is made first if need be. -/
structure NewFile where
  directory : String
  path : String
  content : String
deriving DecidableEq, Repr

structure Report where
  warnings : List Diagnostic
  pauses : List UInt64
  file : Option NewFile
  output : Except CommandFailure String

def countErrors (found : List Diagnostic) : Nat := (found.filter Diagnostic.isError).length

namespace CommandFailure

def message : CommandFailure → String
  | .load failure => failure.message
  | .invalid found =>
      "model has " ++ toString (countErrors found) ++ " error(s)\n" ++ reportText found
  | .machine failure => failure.message

end CommandFailure

namespace Report

def fail (failure : CommandFailure) : Report := ⟨[], [], none, .error failure⟩

def done (output : String) : Report := ⟨[], [], none, .ok output⟩

end Report

/-- Refuses a model with errors; gives the warnings of any other. -/
def Machine.check (machine : Machine) : Except CommandFailure (List Diagnostic) :=
  let found := machine.diagnostics
  if hasErrors found then .error (.invalid found) else .ok found

def loadChecked (storage : Storage) (file : String) :
    Except CommandFailure (Machine × List Diagnostic) := do
  let machine ← (Machine.load storage file).mapError CommandFailure.load
  let warnings ← machine.check
  return (machine, warnings)

def Environment.lines (environment : Environment) : List String :=
  environment.bindings.map fun (name, value) => "  " ++ name ++ " = " ++ value.text

def Session.text (session : Session) : String :=
  "\n".intercalate (("State: " ++ session.current) :: session.environment.lines)

def linesText (lines : List String) : String := String.join (lines.map (· ++ "\n"))

def traceText (emitted : List Emission) : String :=
  linesText ((traceOf emitted).map TraceLine.text)

namespace Command

/-- Runs a batch of events in a new session. The trace shows only when all went well. -/
def interpretModel (machine : Machine) (events : List String) (options : Options) :
    List UInt64 × Except CommandFailure String :=
  match machine.openSession with
  | .error failure => ([], .error (.machine failure))
  | .ok session =>
      let run := (Runner.mk machine options).runBatch session events
      (pausesOf run.emitted,
        match run.result with
        | .error failure => .error (.machine failure)
        | .ok _ => .ok (traceText run.emitted ++ run.session.text))

def programFile (machine : Machine) (directory extension : String) : Except Failure NewFile := do
  let content ← Cpp.generate machine
  return ⟨directory, Path.join directory (Cpp.fileName machine extension), content⟩

def announce (file : NewFile) : String := "Generated " ++ file.path

def validateOutput (machine : Machine) (warnings : List Diagnostic) : String :=
  if warnings.isEmpty then "OK " ++ machine.name
  else
    reportText warnings ++ "\nOK " ++ machine.name ++ " (" ++ toString warnings.length ++
      " warning(s))"

def execute (storage : Storage) : Command → Report
  | .validate file =>
      match loadChecked storage file with
      | .error failure => .fail failure
      | .ok (machine, warnings) => .done (validateOutput machine warnings)
  | .interpret file events options =>
      match loadChecked storage file with
      | .error failure => .fail failure
      | .ok (machine, warnings) =>
          let (pauses, output) := interpretModel machine events options
          ⟨warnings, pauses, none, output⟩
  | .generate file directory =>
      match loadChecked storage file with
      | .error failure => .fail failure
      | .ok (machine, warnings) =>
          match programFile machine directory "cpp" with
          | .error failure => ⟨warnings, [], none, .error (.machine failure)⟩
          | .ok program => ⟨warnings, [], some program, .ok (announce program)⟩
  | .tree file =>
      match Machine.load storage file with
      | .error failure => .fail (.load failure)
      | .ok machine => .done (Json.pretty machine.toDatum)

end Command

end StateMachine
