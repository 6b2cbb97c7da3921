import StateMachine.Expr.Basic

/-!
State machine models. A model is taken as written: names may be repeated and references may point
nowhere, so every lookup says what it finds. Of several declarations of one name the first counts.
-/

set_option autoImplicit false

namespace StateMachine

/-- A typed attribute. Without a default it starts with the zero of its type. -/
structure Attribute where
  name : String
  ty : Ty
  default : Option Expr
deriving DecidableEq, Repr

inductive Printed where
  | text (content : String)
  | value (expr : Expr)
deriving DecidableEq, Repr

inductive Action where
  | assign (target : String) (value : Expr)
  | print (parts : List Printed)
  | timeout (millis : UInt64)
  /-- Commands have no effect of their own; they only show in the trace. -/
  | run (command : String)
deriving DecidableEq, Repr

structure Transition where
  event : String
  guard : Option Expr
  target : String
  actions : List Action
deriving DecidableEq, Repr

structure State where
  name : String
  transitions : List Transition
  entry : List Action
deriving DecidableEq, Repr

structure Machine where
  name : String
  attributes : List Attribute
  events : List String
  commands : List String
  states : List State
  initial : String
deriving DecidableEq, Repr

/-- The first transition that handles an event; later ones for the same event never fire. -/
def State.transitionFor? (state : State) (event : String) : Option Transition :=
  state.transitions.find? fun transition => transition.event == event

/-- Keeps the first element of each key. -/
def firstPerKey {α : Type} (key : α → String) : List α → List α
  | [] => []
  | element :: rest =>
      element :: (firstPerKey key rest).filter fun other => !(key other == key element)

/-- The transitions that can fire: the first one of each event, in declaration order. -/
def State.handled (state : State) : List Transition :=
  firstPerKey Transition.event state.transitions

namespace Machine

def stateNamed? (machine : Machine) (name : String) : Option State :=
  machine.states.find? fun state => state.name == name

def stateIndex? (machine : Machine) (name : String) : Option Nat :=
  machine.states.findIdx? fun state => state.name == name

def attributeNamed? (machine : Machine) (name : String) : Option Attribute :=
  machine.attributes.find? fun declared => declared.name == name

def hasEvent (machine : Machine) (name : String) : Bool := machine.events.contains name

def hasCommand (machine : Machine) (name : String) : Bool := machine.commands.contains name

def initialState? (machine : Machine) : Option State := machine.stateNamed? machine.initial

def eventsFrom (machine : Machine) (name : String) : List String :=
  match machine.stateNamed? name with
  | some state => state.handled.map Transition.event
  | none => []

end Machine

end StateMachine
