/-!
What a program takes on its command line, and how it says so: the line that shows its usage, and the
help text.
-/

set_option autoImplicit false

namespace StateMachine

structure Flag where
  long : String
  short : Option Char
  value : Option String
  about : String
deriving DecidableEq, Repr

namespace Flag

def help : Flag := ⟨"help", some 'h', none, "Print help"⟩

def version : Flag := ⟨"version", some 'V', none, "Print version"⟩

def takesValue (flag : Flag) : Bool := flag.value.isSome

def text (flag : Flag) : String :=
  "--" ++ flag.long ++ (flag.value.map fun value => " <" ++ value ++ ">").getD ""

/-- The option as the help text lists it, below one another with and without a short name. -/
def listed (flag : Flag) : String :=
  (flag.short.map fun letter => "-" ++ letter.toString ++ ", ").getD "    " ++ flag.text

end Flag

structure Operand where
  name : String
  /-- Takes all further arguments, of which there may be none. -/
  isRest : Bool
  about : String
deriving DecidableEq, Repr

namespace Operand

def givenText (operand : Operand) : String :=
  "<" ++ operand.name ++ ">" ++ if operand.isRest then "..." else ""

/-- The operand as messages show it, in square brackets when it may be left out. -/
def text (operand : Operand) : String :=
  if operand.isRest then "[" ++ operand.name ++ "]..." else operand.givenText

end Operand

structure Grammar where
  name : String
  about : String
  /-- The options beside those for help and version. -/
  flags : List Flag
  operands : List Operand
  commands : List (String × String)
  version : Option String
  hasHelp : Bool
deriving DecidableEq, Repr

namespace Grammar

def allFlags (grammar : Grammar) : List Flag :=
  grammar.flags ++ (if grammar.hasHelp then [Flag.help] else []) ++
    if grammar.version.isSome then [Flag.version] else []

def operandAt? (grammar : Grammar) (count : Nat) : Option Operand :=
  (grammar.operands[count]?).or (grammar.operands.getLast?.filter Operand.isRest)

def usageOf (grammar : Grammar) (flags operands : List String) : String :=
  let command := if grammar.commands.isEmpty then [] else ["<COMMAND>"]
  "Usage: " ++ " ".intercalate (grammar.name :: flags ++ operands ++ command)

def usage (grammar : Grammar) : String :=
  grammar.usageOf (if grammar.flags.isEmpty then [] else ["[OPTIONS]"])
    (grammar.operands.map Operand.text)

/-! The help text -/

def listing (title : String) (rows : List (String × String)) : List String :=
  if rows.isEmpty then []
  else
    let width := (rows.map fun row => row.1.length).foldl max 0
    "" :: title :: rows.map fun (name, about) =>
      "  " ++ name ++ String.ofList (List.replicate (width - name.length) ' ') ++ "  " ++ about

def helpText (grammar : Grammar) : String :=
  "\n".intercalate ([grammar.about, "", grammar.usage] ++
    listing "Commands:" grammar.commands ++
    listing "Arguments:" (grammar.operands.map fun operand => (operand.text, operand.about)) ++
    listing "Options:" (grammar.allFlags.map fun flag => (flag.listed, flag.about)) ++ [""])

def versionText (grammar : Grammar) : String := (grammar.version.getD "") ++ "\n"

end Grammar

end StateMachine
