import StateMachine.Command.Arguments
import StateMachine.Command.Console
import StateMachine.Command.Screen
import StateMachine.Terminal.Input

/-!
The command line tool: it validates and runs model files, writes their programs, and opens the
console.
-/

set_option autoImplicit false

namespace StateMachine.Tool

inductive Request where
  | command (command : Command)
  | console (file : String)
deriving DecidableEq, Repr

/-! The command line -/

def fileOperand : Operand := ⟨"FILE", false, "Model document (.json, .yaml)"⟩

def everyEntryFlag : Flag :=
  ⟨"every-entry", none, none,
    "Run entry actions on every state entry, not just the initial one"⟩

def noDelayFlag : Flag := ⟨"no-delay", none, none, "Trace timeouts without pausing"⟩

def directoryFlag : Flag :=
  ⟨"dir", some 'd', some "DIR", "Output directory [default: generated]"⟩

inductive Verb where
  | validate
  | interpret
  | generate
  | ast
  | repl
deriving DecidableEq, Repr

namespace Verb

def all : List Verb := [.validate, .interpret, .generate, .ast, .repl]

def name : Verb → String
  | .validate => "validate"
  | .interpret => "interpret"
  | .generate => "generate"
  | .ast => "ast"
  | .repl => "repl"

def about : Verb → String
  | .validate => "Check a model and print its diagnostics"
  | .interpret => "Run a sequence of events through a model"
  | .generate => "Generate a C++ program from a model"
  | .ast => "Print the resolved model as JSON"
  | .repl => "Start an interactive session over a model"

def ofName? (name : String) : Option Verb := all.find? fun verb => verb.name == name

def flags : Verb → List Flag
  | .interpret => [everyEntryFlag, noDelayFlag]
  | .generate => [directoryFlag]
  | _ => []

def operands : Verb → List Operand
  | .interpret => [fileOperand, ⟨"EVENTS", true, "Events, in order"⟩]
  | _ => [fileOperand]

end Verb

def programName : String := "fsml-cli"

def helpName : String := "help"

def helpAbout : String := "Print this message or the help of the given subcommand(s)"

def grammar : Grammar where
  name := programName
  about := "Validate, interpret and generate code for fsml state machines"
  flags := []
  operands := []
  commands := Verb.all.map (fun verb => (verb.name, verb.about)) ++ [(helpName, helpAbout)]
  version := some (programName ++ " 0.1.0")
  hasHelp := true

def Verb.grammar (verb : Verb) : Grammar where
  name := programName ++ " " ++ verb.name
  about := verb.about
  flags := verb.flags
  operands := verb.operands
  commands := []
  version := none
  hasHelp := true

def helpGrammar : Grammar where
  name := programName ++ " " ++ helpName
  about := helpAbout
  flags := []
  operands := [⟨"COMMAND", true, "Print help for the subcommand(s)"⟩]
  commands := []
  version := none
  hasHelp := false

def grammarOf? (name : String) : Option Grammar :=
  if name == helpName then some helpGrammar else (Verb.ofName? name).map Verb.grammar

def readHelp (line : List String) : Reading Request :=
  match line with
  | [] => .shown grammar.helpText
  | name :: rest =>
      match grammarOf? name, rest with
      | none, _ => Arguments.refuse grammar (.unknownCommand name) [] grammar.usage
      | some found, [] => .shown found.helpText
      | some found, other :: _ => Arguments.refuse found (.unknownCommand other) [] found.usage

def requestOf (verb : Verb) (arguments : Arguments) : Reading Request :=
  match arguments.operands with
  | [] => Arguments.refuseMissing verb.grammar arguments fileOperand
  | file :: events =>
      match verb with
      | .validate => .asked (.command (.validate file))
      | .interpret =>
          .asked (.command (.interpret file events {
            entry := if arguments.has everyEntryFlag then .everyEntry else .initialOnly
            honorDelays := !arguments.has noDelayFlag }))
      | .generate =>
          .asked (.command (.generate file ((arguments.value? directoryFlag).getD "generated")))
      | .ast => .asked (.command (.tree file))
      | .repl => .asked (.console file)

def refuseNothing : Reading Request :=
  .refused ⟨.nothing grammar.helpText, [], none, true⟩

/-- The tips for an option that stands before the command: an option of a command that is named
behind it, the first such one. -/
def commandTips (flag : String) (behind : List String) : List Tip :=
  (behind.findSome? fun word => do
    let found ← grammarOf? word
    let long ← (Text.wordsLike flag (found.allFlags.map Flag.long)).getLast?
    return Tip.flagOf word ("--" ++ long)).toList

def refuseCommand (name : String) : Reading Request :=
  let similar := Text.wordsLike name (grammar.commands.map Prod.fst)
  Arguments.refuse grammar (.unknownCommand name)
    (if similar.isEmpty then [] else [.similarCommands similar]) grammar.usage

def refuseBehindDashes (word : String) : Reading Request :=
  if (grammarOf? word).isSome then
    Arguments.refuse grammar (.unexpected word) [.withoutDashes word] grammar.usage
  else refuseCommand word

def read : List String → Reading Request
  | [] => refuseNothing
  | first :: rest =>
      match first.toList, rest with
      | ['-', '-'], [] => refuseNothing
      | ['-', '-'], word :: _ => refuseBehindDashes word
      | '-' :: '-' :: name, rest =>
          (Arguments.readLong grammar Arguments.empty name
            (commandTips (Arguments.splitAttached name).1 rest)).andThen fun _ => read rest
      | '-' :: letter :: letters, rest =>
          (Arguments.readShort grammar Arguments.empty (letter :: letters)).andThen fun _ =>
            read rest
      | _, rest =>
          if first == helpName then readHelp rest
          else
            match Verb.ofName? first with
            | some verb => (Arguments.ofLine verb.grammar rest).andThen (requestOf verb)
            | none => refuseCommand first

def ofReport (report : Report) : Screen :=
  (match report.output with
    | .ok output => { Screen.shows (output ++ "\n") with file := report.file }
    | .error failure => Screen.fails failure.message).warned report.warnings

def title (machine : Machine) : String := "fsml " ++ machine.name ++ "\n"

def console (machine : Machine) (lines : List String) : Screen :=
  let runner : Runner := ⟨machine, Console.options⟩
  (match machine.openSession with
    | .error failure => Screen.fails failure.message
    | .ok session =>
        let begun := runner.start session
        (match begun.result with
          | .error failure => Screen.fails failure.message
          | .ok () => Screen.shows (Console.transcript runner begun.session lines)).after
          (traceText begun.emitted)).after (title machine)

def respond (storage : Storage) (lines : List String) : Request → Screen
  | .command command => ofReport (command.execute storage)
  | .console file =>
      match loadChecked storage file with
      | .error failure => Screen.fails failure.message
      | .ok (machine, warnings) => (console machine lines).warned warnings

/-- A whole run of the tool, with `input` typed into its terminal. -/
def run (storage : Storage) (arguments : List String) (input : String) : Screen :=
  match read arguments with
  | .asked request => respond storage (Terminal.inputLines input) request
  | .shown text => Screen.shows text
  | .refused rejection => Screen.refuses rejection

end StateMachine.Tool
