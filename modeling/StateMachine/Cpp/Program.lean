import StateMachine.Cpp.Row
import StateMachine.Cpp.Statement
import StateMachine.Expr.Eval
import StateMachine.Machine.Failure

/-!
The C++ program of a machine. An abstract class has one handler for each event, a context class owns
the current state and the attributes, every state is a class of its own, and the main function reads
the names of events from its input.
-/

set_option autoImplicit false

namespace StateMachine.Cpp

/-- A declaration inside a class and the name it introduces there. -/
structure Member where
  name : String
  rows : List Row
deriving DecidableEq, Repr

/-- Members under one access label. A blank row stands between groups. -/
structure Section where
  label : String
  groups : List (List Member)
deriving DecidableEq, Repr

structure Class where
  name : String
  parent : Option String
  sections : List Section
deriving DecidableEq, Repr

/-- What a state does on an event: the transition fires when the guard holds. -/
structure Handler where
  state : String
  event : String
  guard : String
  body : List String
  target : String
deriving DecidableEq, Repr

structure Program where
  /-- Name of the context class. -/
  machine : String
  base : Class
  context : Class
  states : List Class
  handlers : List (String × List Handler)
  body : List Row
deriving DecidableEq, Repr

/-- Leads from a handler or from the main function to the attributes. -/
def contextPath : String := "statemachine->"

namespace Section

def rows (part : Section) : List Row :=
  line (part.label ++ ":") ::
    deeper (spaced (part.groups.map fun group => group.flatMap Member.rows))

end Section

namespace Class

def heading (declared : Class) : String :=
  "class " ++ declared.name ++
    match declared.parent with
    | some parent => " : public " ++ parent
    | none => ""

def rows (declared : Class) : List Row :=
  line (declared.heading ++ " \x7b") :: spaced (declared.sections.map Section.rows) ++ [line "\x7d;"]

def scope (declared : Class) : List String :=
  declared.name :: declared.sections.flatMap fun part => part.groups.flatten.map Member.name

end Class

namespace Handler

def rows (handler : Handler) : List Row :=
  braced ("void " ++ handler.state ++ "::" ++ handler.event ++ "()")
    (line ("if (" ++ handler.guard ++ ") \x7b") ::
      deeper (flat handler.body ++
        [line ("statemachine->transition_to(new " ++ handler.target ++ ");")]) ++
      braced "\x7d else"
        [line "std::cout << \"Transition not allowed.\" << std::endl;"] "") ""

def ofTransition (state : State) (transition : Transition) : Handler where
  state := state.name
  event := transition.event
  guard := (transition.guard.map (Expr.cpp contextPath)).getD "true"
  body := transition.actions.flatMap (Action.cpp contextPath)
  target := transition.target

end Handler

/-- The handlers of a state: one for each event, by its first transition. -/
def handlersOf (state : State) : List Handler := state.handled.map (Handler.ofTransition state)

def method (name heading : String) (body : List Row) : Member := ⟨name, braced heading body ""⟩

def baseClass (machine : Machine) : Class where
  name := "State"
  parent := none
  sections := [
    ⟨"protected", [[⟨"statemachine", [line (machine.name ++ " *statemachine;")]⟩]]⟩,
    ⟨"public",
      [[⟨"~State", [line "virtual ~State() \x7b\x7d"]⟩],
        [method "set_context" ("void set_context(" ++ machine.name ++ " *statemachine)")
          [line "this->statemachine = statemachine;"]],
        [method "get_name" "virtual std::string get_name()" [line "return \"Unknown\";"]]] ++
      machine.events.map fun event =>
        [method event ("virtual void " ++ event ++ "()")
          [line "std::cout << \"Impossible event for the current state.\" << std::endl;"]]⟩]

def defaultNote : Option Expr → String
  | none | some (.literal _) => ""
  | some default => " // " ++ default.cpp ""

def field (owner : Attribute) (value : Value) : Member :=
  ⟨owner.name, [line (owner.ty.cpp ++ " " ++ owner.name ++ " = " ++ value.cpp ++ ";" ++
    defaultNote owner.default)]⟩

def deleteState : List Row := braced "if (state != nullptr)" [line "delete state;"] ""

def contextMethods (machine : Machine) : List Member := [
  method machine.name (machine.name ++ "(State* initial_state)") [
    line "initial_state->set_context(this);",
    line "state = initial_state;",
    line "std::cout << \"[\" << state->get_name() << \"]\" << std::endl;"],
  method ("~" ++ machine.name) ("~" ++ machine.name ++ "()") deleteState,
  method "transition_to" "void transition_to(State *new_state)"
    (line ("std::cout << state->get_name() << \" ===> \" << new_state->get_name() << std::endl;") ::
      deleteState ++ flat ["new_state->set_context(this);", "state = new_state;"])]

def contextClass (machine : Machine) (values : List Value) : Class :=
  let fields := List.zipWith field machine.attributes values
  let events := machine.events.map fun event =>
    method event ("void " ++ event ++ "()") [line ("state->" ++ event ++ "();")]
  { name := machine.name
    parent := none
    sections := [
      ⟨"private", [[⟨"state", [line "State* state = nullptr;"]⟩]]⟩,
      ⟨"public", (if fields.isEmpty then [] else [fields]) ++
        (contextMethods machine ++ events).map fun member => [member]⟩] }

def stateClass (state : State) : Class where
  name := state.name
  parent := some "State"
  sections := [⟨"public",
    [⟨"get_name", [line ("std::string get_name() override \x7b return " ++
        Text.Quoted.encode state.name ++ "; \x7d")]⟩ ::
      state.handled.map fun transition =>
        ⟨transition.event, [line ("void " ++ transition.event ++ "() override;")]⟩]⟩]

def inputLoop (machine : Machine) : List Row :=
  braced "for (std::string input; std::getline(std::cin, input);)"
    (line ("std::map<std::string, Event>::const_iterator event_by_name_it = " ++
        "event_by_name.find(input);") ::
      braced "if (event_by_name_it == event_by_name.end())" [
        line ("std::cout << \"There is no event <\" << input << \"> in the " ++ machine.name ++
          " statemachine.\" << std::endl;"),
        line "continue;"] "" ++
      flat ["Event event_invoker = event_by_name_it->second;",
        "(statemachine->*event_invoker)();"]) ""

/-- The body of the main function. The initial state's entry actions run once, before any input. -/
def mainBody (machine : Machine) (initial : State) : List Row :=
  spaced [
    line "std::cout << std::boolalpha;" ::
      line (machine.name ++ " *statemachine = new " ++ machine.name ++ "(new " ++ initial.name ++
        ");") ::
      flat (initial.entry.flatMap (Action.cpp contextPath)),
    line "static std::map<std::string, Event> event_by_name;" ::
      flat (machine.events.map fun event =>
        "event_by_name[" ++ Text.Quoted.encode event ++ "] = &" ++ machine.name ++ "::" ++ event ++
          ";"),
    inputLoop machine,
    flat ["delete statemachine;", "return 0;"]]

/-- Computes the defaults in declaration order; each may use the constants before it. -/
def foldDefaults (known : Environment) : List Attribute → Except Failure (List Value)
  | [] => .ok []
  | owner :: rest => do
      let value ←
        match owner.default with
        | none => .ok owner.ty.zero
        | some default =>
            match default.evaluate known with
            | .error fault => .error (.unfoldable owner.name fault)
            | .ok value =>
                if value.ty = owner.ty then .ok value
                else
                  .error (.unfoldable owner.name
                    (.mismatch (.default owner.name) owner.ty value.ty))
      let values ← foldDefaults (known.set owner.name value) rest
      return value :: values

namespace Program

/-- The program of a machine. Only the defaults are evaluated; guards and actions stay text. -/
def ofMachine (machine : Machine) : Except Failure Program := do
  let some initial := machine.initialState? | .error (.undeclaredInitial machine.initial)
  let values ← foldDefaults Environment.empty machine.attributes
  return {
    machine := machine.name
    base := baseClass machine
    context := contextClass machine values
    states := machine.states.map stateClass
    handlers := machine.states.map fun state => (state.name, handlersOf state)
    body := mainBody machine initial }

def handlerRows (state : String) (handlers : List Handler) : List Row :=
  if handlers.isEmpty then []
  else line ("// " ++ state) :: handlers.flatMap fun handler => handler.rows ++ [.blank]

def rows (program : Program) : List Row :=
  flat ["#include <iostream>", "#include <map>", "#include <string>", "#include <chrono>",
      "#include <thread>"] ++
    [.blank, line ("class " ++ program.machine ++ ";"), .blank] ++
    (program.base :: program.context :: program.states).flatMap
      (fun declared => declared.rows ++ [.blank]) ++
    program.handlers.flatMap (fun (state, handlers) => handlerRows state handlers) ++
    [line ("typedef void (" ++ program.machine ++ "::*Event)();"), .blank] ++
    braced "int main()" program.body ""

def text (program : Program) : String := rowsText program.rows

end Program

def generate (machine : Machine) : Except Failure String := do
  let program ← Program.ofMachine machine
  return program.text

/-- Name of the file for the program; the extension may be given with or without dots before it. -/
def fileName (machine : Machine) (extension : String) : String :=
  machine.name ++ "." ++ String.ofList (extension.toList.dropWhile (· == '.'))

end StateMachine.Cpp
