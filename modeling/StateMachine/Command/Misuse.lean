import StateMachine.Command.Grammar

/-!
Why a command line is not understood, and what is said about it: the cause, tips that may help, and
how the program is called.
-/

set_option autoImplicit false

namespace StateMachine

inductive Misuse where
  /-- An option or operand without a value, or with an empty one. -/
  | valueMissing (owner : String)
  | valueUnneeded (owner value : String)
  | repeated (owner : String)
  | unexpected (argument : String)
  | operandMissing (operand : String)
  | unknownCommand (name : String)
  /-- Nothing is asked for, so that the help text is shown. -/
  | nothing (help : String)
deriving DecidableEq, Repr

inductive Tip where
  | similarFlag (flag : String)
  /-- Commands that are called alike, the most alike last. -/
  | similarCommands (names : List String)
  /-- An option of a command that is named later. -/
  | flagOf (command flag : String)
  /-- An argument can be taken as it stands behind two dashes. -/
  | behindDashes (argument : String)
  /-- A command cannot stand behind two dashes. -/
  | withoutDashes (command : String)
deriving DecidableEq, Repr

structure Rejection where
  cause : Misuse
  tips : List Tip
  usage : Option String
  hasHelp : Bool
deriving DecidableEq, Repr

namespace Misuse

def message : Misuse → String
  | .valueMissing owner => "a value is required for '" ++ owner ++ "' but none was supplied"
  | .valueUnneeded owner value =>
      "unexpected value '" ++ value ++ "' for '" ++ owner ++ "' found; no more were expected"
  | .repeated owner => "the argument '" ++ owner ++ "' cannot be used multiple times"
  | .unexpected argument => "unexpected argument '" ++ argument ++ "' found"
  | .operandMissing operand =>
      "the following required arguments were not provided:\n  " ++ operand
  | .unknownCommand name => "unrecognized subcommand '" ++ name ++ "'"
  | .nothing help => help

end Misuse

namespace Tip

def text : Tip → String
  | .similarFlag flag => "a similar argument exists: '" ++ flag ++ "'"
  | .similarCommands names =>
      (if names.length = 1 then "a similar subcommand exists: "
        else "some similar subcommands exist: ") ++
        ", ".intercalate (names.map fun name => "'" ++ name ++ "'")
  | .flagOf command flag => "'" ++ command ++ " " ++ flag ++ "' exists"
  | .behindDashes argument =>
      "to pass '" ++ argument ++ "' as a value, use '-- " ++ argument ++ "'"
  | .withoutDashes command =>
      "subcommand '" ++ command ++ "' exists; to use it, remove the '--' before it"

end Tip

namespace Rejection

/-- The parts of the message stand apart by blank lines. -/
def text (rejection : Rejection) : String :=
  match rejection.cause with
  | .nothing help => help
  | cause =>
      let tips := "\n".intercalate (rejection.tips.map fun tip => "  tip: " ++ tip.text)
      "\n\n".intercalate (("error: " ++ cause.message) ::
        (if tips.isEmpty then [] else [tips]) ++ rejection.usage.toList ++
        if rejection.hasHelp then ["For more information, try '--help'."] else []) ++ "\n"

end Rejection

end StateMachine
