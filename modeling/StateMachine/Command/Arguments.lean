import StateMachine.Command.Misuse
import StateMachine.Text.Likeness

/-!
Reading command lines. Options may stand anywhere; after two dashes every argument is an operand. A
single dash is an argument like any other. A value in an argument of its own is looked at when
something known follows or the line ends, so an unknown argument right behind it is reported first.
-/

set_option autoImplicit false

namespace StateMachine

inductive Reading (α : Type) where
  | asked (request : α)
  /-- A text is to be shown and nothing else is to be done. -/
  | shown (text : String)
  | refused (rejection : Rejection)
deriving DecidableEq, Repr

namespace Reading

def andThen {α β : Type} (reading : Reading α) (next : α → Reading β) : Reading β :=
  match reading with
  | .asked request => next request
  | .shown text => .shown text
  | .refused rejection => .refused rejection

end Reading

inductive Part where
  /-- An option; one that takes no value has the empty one. -/
  | option (flag : Flag) (value : String)
  | waiting (flag : Flag)
  | operand (operand : Operand) (value : String)
deriving DecidableEq, Repr

structure Arguments where
  parts : List Part
  pending : Option Part
deriving DecidableEq, Repr

namespace Arguments

def empty : Arguments := ⟨[], none⟩

def allParts (arguments : Arguments) : List Part := arguments.parts ++ arguments.pending.toList

def operands (arguments : Arguments) : List String :=
  arguments.allParts.filterMap fun part =>
    match part with
    | .operand _ value => some value
    | _ => none

def flags (arguments : Arguments) : List Flag :=
  arguments.allParts.filterMap fun part =>
    match part with
    | .option flag _ => some flag
    | _ => none

def value? (arguments : Arguments) (flag : Flag) : Option String :=
  arguments.parts.findSome? fun part =>
    match part with
    | .option given value => if given.long = flag.long then some value else none
    | _ => none

def has (arguments : Arguments) (flag : Flag) : Bool := (arguments.value? flag).isSome

def usage (grammar : Grammar) (arguments : Arguments) (others : List Flag) : String :=
  let flags := arguments.flags ++ others
  let count := arguments.operands.length
  if flags.isEmpty && count == 0 then grammar.usage
  else
    grammar.usageOf (flags.map Flag.text).eraseDups
      (grammar.operands.mapIdx fun place operand =>
        if place < count then operand.givenText else operand.text)

def refuse {α : Type} (grammar : Grammar) (cause : Misuse) (tips : List Tip) (usage : String) :
    Reading α :=
  .refused ⟨cause, tips, some usage, grammar.hasHelp⟩

def refuseValue {α : Type} (grammar : Grammar) (owner : String) : Reading α :=
  .refused ⟨.valueMissing owner, [], none, grammar.hasHelp⟩

/-- Accepts a part. An option may be given only once; no value may be empty but those of the operand
that takes the rest. The options for help and version end the reading. -/
def accept (grammar : Grammar) (arguments : Arguments) (part : Part) : Reading Arguments :=
  match part with
  | .waiting flag => refuseValue grammar flag.text
  | .option flag value =>
      if flag = Flag.help then .shown grammar.helpText
      else if flag = Flag.version then .shown grammar.versionText
      else if arguments.has flag then refuse grammar (.repeated flag.text) [] grammar.usage
      else if flag.takesValue && value.isEmpty then refuseValue grammar flag.text
      else .asked ⟨arguments.parts ++ [part], none⟩
  | .operand operand value =>
      if !operand.isRest && value.isEmpty then refuseValue grammar operand.text
      else .asked ⟨arguments.parts ++ [part], none⟩

def settle (grammar : Grammar) (arguments : Arguments) : Reading Arguments :=
  match arguments.pending with
  | none => .asked arguments
  | some part => accept grammar arguments part

def hold (grammar : Grammar) (arguments : Arguments) (part : Part) : Reading Arguments :=
  (settle grammar arguments).andThen fun before => .asked { before with pending := some part }

def add (grammar : Grammar) (arguments : Arguments) (part : Part) : Reading Arguments :=
  (settle grammar arguments).andThen fun before => accept grammar before part

def operandTips (grammar : Grammar) (argument : String) : List Tip :=
  if grammar.operands.isEmpty then [] else [.behindDashes argument]

def readOperand (grammar : Grammar) (arguments : Arguments) (argument : String) :
    Reading Arguments :=
  match grammar.operandAt? arguments.operands.length with
  | some operand => hold grammar arguments (.operand operand argument)
  | none => refuse grammar (.unexpected argument) [] grammar.usage

def readOperands (grammar : Grammar) (arguments : Arguments) : List String → Reading Arguments
  | [] => .asked arguments
  | argument :: rest =>
      (readOperand grammar arguments argument).andThen fun before =>
        readOperands grammar before rest

/-- Refuses an option that is not known. The most similar one is suggested, and shown as in use. -/
def refuseLong {α : Type} (grammar : Grammar) (arguments : Arguments) (name : String)
    (tips : List Tip) : Reading α :=
  let similar := (Text.wordsLike name (grammar.allFlags.map Flag.long)).getLast?
  match similar.bind fun long => grammar.allFlags.find? fun flag => flag.long == long with
  | some flag =>
      refuse grammar (.unexpected ("--" ++ name)) [.similarFlag ("--" ++ flag.long)]
        (usage grammar arguments [flag])
  | none => refuse grammar (.unexpected ("--" ++ name)) tips (usage grammar arguments [])

def splitAttached (name : List Char) : String × Option String :=
  (String.ofList (name.takeWhile (· != '=')),
    match name.dropWhile (· != '=') with
    | _ :: value => some (String.ofList value)
    | [] => none)

/-- Reads an option by its long name, with which a value may stand; `tips` are for one that is not
known. -/
def readLong (grammar : Grammar) (arguments : Arguments) (written : List Char) (tips : List Tip) :
    Reading Arguments :=
  let (name, attached) := splitAttached written
  match grammar.allFlags.find? (fun flag => flag.long == name), attached with
  | none, _ => refuseLong grammar arguments name tips
  | some flag, some value =>
      if flag.takesValue then add grammar arguments (.option flag value)
      else refuse grammar (.valueUnneeded flag.text value) [] (usage grammar arguments [flag])
  | some flag, none =>
      if flag.takesValue then hold grammar arguments (.waiting flag)
      else add grammar arguments (.option flag "")

/-- Reads options by their short names behind one dash; the last of them may take a value, attached
or behind it. -/
def readShort (grammar : Grammar) (arguments : Arguments) : List Char → Reading Arguments
  | [] => .asked arguments
  | letter :: rest =>
      match grammar.allFlags.find? fun flag => flag.short == some letter with
      | none =>
          let argument := "-" ++ letter.toString
          refuse grammar (.unexpected argument) (operandTips grammar argument) grammar.usage
      | some flag =>
          if flag.takesValue then
            match rest with
            | [] => hold grammar arguments (.waiting flag)
            | '=' :: value | value => add grammar arguments (.option flag (String.ofList value))
          else
            (add grammar arguments (.option flag "")).andThen fun given =>
              readShort grammar given rest

def read (grammar : Grammar) (arguments : Arguments) : List String → Reading Arguments
  | [] => settle grammar arguments
  | argument :: rest =>
      match argument.toList, arguments.pending with
      | ['-', '-'], _ =>
          (readOperands grammar arguments rest).andThen (settle grammar)
      | '-' :: '-' :: name, _ =>
          let argument := "--" ++ (splitAttached name).1
          (readLong grammar arguments name (operandTips grammar argument)).andThen fun before =>
            read grammar before rest
      | '-' :: letter :: letters, _ =>
          (readShort grammar arguments (letter :: letters)).andThen fun before =>
            read grammar before rest
      | _, some (.waiting flag) =>
          read grammar { arguments with pending := some (.option flag argument) } rest
      | _, _ =>
          (readOperand grammar arguments argument).andThen fun before => read grammar before rest

def refuseMissing {α : Type} (grammar : Grammar) (arguments : Arguments) (operand : Operand) :
    Reading α :=
  refuse grammar (.operandMissing operand.text) []
    (grammar.usageOf (arguments.flags.map Flag.text) (grammar.operands.map Operand.text))

/-- Reads a whole command line; every operand but one that takes the rest must be there. -/
def ofLine (grammar : Grammar) (line : List String) : Reading Arguments :=
  (read grammar empty line).andThen fun arguments =>
    match (grammar.operands.filter fun operand => !operand.isRest)[arguments.operands.length]? with
    | some operand => refuseMissing grammar arguments operand
    | none => .asked arguments

end Arguments

end StateMachine
