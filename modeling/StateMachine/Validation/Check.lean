import StateMachine.Cpp.Reserved
import StateMachine.Expr.Infer
import StateMachine.Text.Char
import StateMachine.Validation.Diagnostic

/-!
Static validation. Every check runs whatever the others find, and the findings are listed in the
order of the checks. A model without error findings does not fail for a reason that can be told
from its text.
-/

set_option autoImplicit false

namespace StateMachine

/-- The elements whose key occurred before them or in `seen`. -/
def repeated {α : Type} (key : α → String) (seen : List String) : List α → List α
  | [] => []
  | element :: rest =>
      if seen.contains (key element) then element :: repeated key seen rest
      else repeated key (key element :: seen) rest

namespace Machine

/-- The names that must differ from one another, each with its declaration. -/
def identifiers (machine : Machine) : List (String × Site) :=
  machine.attributes.map (fun declared => (declared.name, Site.owner declared.name)) ++
    machine.events.map (fun name => (name, Site.event name)) ++
    machine.states.map (fun state => (state.name, Site.state state.name))

def checkUniqueNames (machine : Machine) : List Diagnostic :=
  (repeated Prod.fst [] machine.identifiers).map
      (fun (name, site) => ⟨site, .duplicateName name⟩) ++
    (repeated id [] machine.commands).map
      fun name => ⟨.command name, .duplicateCommand name⟩

def checkReserved (site : Site) (name : String) : List Diagnostic :=
  if Cpp.isReserved name then [⟨site, .reservedName name⟩] else []

def checkGeneratedNames (machine : Machine) : List Diagnostic :=
  checkReserved .machine machine.name ++
    machine.attributes.flatMap (fun declared => checkReserved (.owner declared.name) declared.name) ++
    machine.events.flatMap (fun name => checkReserved (.event name) name) ++
    machine.states.flatMap fun state =>
      if Cpp.isReserved state.name then [⟨.state state.name, .reservedName state.name⟩]
      else if state.name = machine.name then
        [⟨.state state.name, .stateNamedAsMachine state.name⟩]
      else []

def checkInitialState (machine : Machine) : List Diagnostic :=
  if machine.initialState?.isSome then [] else [⟨.machine, .undeclaredInitial machine.initial⟩]

def isCapitalized (name : String) : Bool :=
  match name.toList with
  | first :: _ => Text.isCapital first
  | [] => false

def checkStateNames (machine : Machine) : List Diagnostic :=
  machine.states.flatMap fun state =>
    if isCapitalized state.name then [] else [⟨.state state.name, .stateNameCase⟩]

/-- Checks one default against the values of the attributes before it. After a finding the
attribute counts as zero. -/
def checkDefault (declared : List Attribute) (environment : Environment) (owner : Attribute) :
    List Diagnostic × Value :=
  match owner.default with
  | none => ([], owner.ty.zero)
  | some default =>
      match default.infer (Scope.forDefault declared owner.name) with
      | .error fault => ([⟨.owner owner.name, .invalid fault⟩], owner.ty.zero)
      | .ok found =>
          if found = owner.ty then
            match default.evaluate environment with
            | .ok value => ([], value)
            | .error fault => ([⟨.owner owner.name, .invalid fault⟩], owner.ty.zero)
          else
            ([⟨.owner owner.name, .defaultMismatch default found owner.name owner.ty⟩],
              owner.ty.zero)

def checkDefaults (declared : List Attribute) (environment : Environment) :
    List Attribute → List Diagnostic
  | [] => []
  | owner :: rest =>
      let (found, value) := checkDefault declared environment owner
      found ++ checkDefaults declared (environment.set owner.name value) rest

def checkAttributes (machine : Machine) : List Diagnostic :=
  checkDefaults machine.attributes Environment.empty machine.attributes

def inferIn (machine : Machine) (expr : Expr) : Except Fault Ty :=
  expr.infer (Scope.ofAll machine.attributes)

def checkAssignment (machine : Machine) (target : String) (value : Expr) : List Finding :=
  let declared := (machine.attributeNamed? target).map Attribute.ty
  (if declared.isSome then [] else [.undeclaredAttribute target]) ++
    match machine.inferIn value, declared with
    | .error fault, _ => [.invalid fault]
    | .ok found, some expected =>
        if found = expected then [] else [.assignmentMismatch found value expected target]
    | .ok _, none => []

def checkPrinted (machine : Machine) : Printed → List Finding
  | .text _ => []
  | .value expr =>
      match machine.inferIn expr with
      | .ok _ => []
      | .error fault => [.invalid fault]

def checkAction (machine : Machine) : Action → List Finding
  | .assign target value => machine.checkAssignment target value
  | .print parts => parts.flatMap machine.checkPrinted
  | .timeout _ => []
  | .run command => if machine.hasCommand command then [] else [.undeclaredCommand command]

def checkActions (machine : Machine) (site : Nat → Site) (actions : List Action) :
    List Diagnostic :=
  actions.zipIdx.flatMap fun (action, position) =>
    (machine.checkAction action).map fun finding => ⟨site position, finding⟩

def checkGuard (machine : Machine) : Option Expr → List Finding
  | none => []
  | some guard =>
      match machine.inferIn guard with
      | .ok .bool => []
      | .ok found => [.guardNotBoolean guard found]
      | .error fault => [.invalid fault]

def checkHead (machine : Machine) (state : State) (earlier : List Transition)
    (transition : Transition) : List Finding :=
  (if machine.hasEvent transition.event then [] else [.undeclaredEvent transition.event]) ++
    (if (machine.stateNamed? transition.target).isSome then []
      else [.undeclaredTarget transition.target]) ++
    (if earlier.any (fun other => other.event == transition.event) then
      [.shadowed state.name transition.event] else []) ++
    machine.checkGuard transition.guard

def checkTransition (machine : Machine) (state : State) (position : Nat)
    (transition : Transition) : List Diagnostic :=
  (machine.checkHead state (state.transitions.take position) transition).map
      (fun finding => ⟨.transition state.name position, finding⟩) ++
    machine.checkActions (.transitionAction state.name position) transition.actions

def checkState (machine : Machine) (state : State) : List Diagnostic :=
  state.transitions.zipIdx.flatMap (fun (transition, position) =>
      machine.checkTransition state position transition) ++
    machine.checkActions (.entryAction state.name) state.entry

def diagnostics (machine : Machine) : List Diagnostic :=
  machine.checkUniqueNames ++ machine.checkGeneratedNames ++ machine.checkInitialState ++
    machine.checkStateNames ++ machine.checkAttributes ++ machine.states.flatMap machine.checkState

end Machine

def hasErrors (diagnostics : List Diagnostic) : Bool := diagnostics.any Diagnostic.isError

end StateMachine
