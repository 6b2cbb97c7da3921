import StateMachine.Datum.Record
import StateMachine.Machine.Basic

/-!
Models as data. The written form names the kind of every expression and action. The reader also
takes a record written as the list of its parts, and what may be empty may be left out.
-/

set_option autoImplicit false

namespace StateMachine

namespace Expr

def toDatum : Expr → Datum
  | .literal value => .record [("kind", .text "literal"), ("value", value.toDatum)]
  | .reference name => .record [("kind", .text "ref"), ("name", .text name)]
  | .binary operator left right =>
      .record [("kind", .text "bin"), ("left", left.toDatum), ("op", .text operator.symbol),
        ("right", right.toDatum)]
  | .negate operand => .record [("kind", .text "neg"), ("operand", operand.toDatum)]
  | .not operand => .record [("kind", .text "not"), ("operand", operand.toDatum)]
  | .group inner => .record [("inner", inner.toDatum), ("kind", .text "group")]

/-- A part of an expression's record together with the expression that it reads as, if it does. -/
structure Branch where
  datum : Datum
  expr : Option Expr

def ofKind? (kind : String) (pick : List String → Option (List (Option Branch))) : Option Expr :=
  match kind with
  | "literal" => do
      let [some value] ← pick ["value"] | none
      return .literal (← value.datum.value?)
  | "ref" => do
      let [some name] ← pick ["name"] | none
      return .reference (← name.datum.name?)
  | "bin" => do
      let [some operator, some left, some right] ← pick ["op", "left", "right"] | none
      return .binary (← (← operator.datum.innerWord?) |> Operator.ofSymbol?) (← left.expr)
        (← right.expr)
  | "neg" => do
      let [some operand] ← pick ["operand"] | none
      return .negate (← operand.expr)
  | "not" => do
      let [some operand] ← pick ["operand"] | none
      return .not (← operand.expr)
  | "group" => do
      let [some inner] ← pick ["inner"] | none
      return .group (← inner.expr)
  | _ => none

/-- The kinds in the order of their numbers. -/
def kinds : List String := ["literal", "ref", "bin", "neg", "not", "group"]

/-- The kind that a datum names. Inside another record a kind may also be given by its number. -/
def kind? (inner : Bool) : Datum → Option String
  | .text kind => some kind
  | .integer (.ofNat number) => if inner then kinds[number]? else none
  | _ => none

/-- Assembles an expression from the fields of its record; `kind` occurs once. -/
def ofFields? (inner : Bool) (fields : List (String × Branch)) : Option Expr := do
  let [(_, named)] := fields.filter fun field => field.1 == "kind" | none
  ofKind? (← kind? inner named.datum) fun names =>
    pickNamed? names (fields.filter fun field => !(field.1 == "kind"))

/-- Assembles an expression from a list whose first item is its kind. -/
def ofItems? (inner : Bool) : List Branch → Option Expr
  | named :: rest => do ofKind? (← kind? inner named.datum) fun names => pickPlaced? names rest
  | [] => none

mutual

/-- Reads an expression that is a part of another record. -/
def ofInner? : Datum → Option Expr
  | .record fields => ofFields? true (fieldBranches fields)
  | .list items => ofItems? true (itemBranches items)
  | _ => none

def fieldBranches : List (String × Datum) → List (String × Branch)
  | [] => []
  | (name, part) :: rest => (name, ⟨part, ofInner? part⟩) :: fieldBranches rest

def itemBranches : List Datum → List Branch
  | [] => []
  | item :: rest => ⟨item, ofInner? item⟩ :: itemBranches rest

end

/-- Reads an expression that stands for itself, or is the guard or the default of something. -/
def ofDatum? : Datum → Option Expr
  | .record fields => ofFields? false (fieldBranches fields)
  | .list items => ofItems? false (itemBranches items)
  | _ => none

end Expr

/-- The kind of a tagged record and what is left of it for its parts. -/
def Datum.tagged? (tag : String) : Datum → Option (String × Datum)
  | .record fields =>
      match fields.filter fun field => field.1 == tag with
      | [(_, .text kind)] => some (kind, .record (fields.filter fun field => !(field.1 == tag)))
      | _ => none
  | .list (.text kind :: rest) => some (kind, .list rest)
  | _ => none

/-- An absent part and a null part are both no expression. -/
def Expr.ofOptional? : Option Datum → Option (Option Expr) :=
  Datum.optional Expr.ofDatum?

def optionalField (name : String) : Option Expr → List (String × Datum)
  | some expr => [(name, expr.toDatum)]
  | none => []

namespace Printed

def toDatum : Printed → Datum
  | .text content => .record [("text", .text content)]
  | .value expr => .record [("expr", expr.toDatum)]

def ofDatum? : Datum → Option Printed
  | .record [("text", part)] => part.name?.map .text
  | .record [("expr", part)] => (Expr.ofInner? part).map .value
  | _ => none

end Printed

namespace Action

def toDatum : Action → Datum
  | .assign target value =>
      .record [("action", .text "assign"), ("attribute", .text target), ("value", value.toDatum)]
  | .print parts =>
      .record [("action", .text "print"), ("values", .list (parts.map Printed.toDatum))]
  | .timeout millis =>
      .record [("action", .text "timeout"), ("millis", .integer (millis.toNat : Int))]
  | .run command => .record [("action", .text "run"), ("command", .text command)]

def ofDatum? (datum : Datum) : Option Action := do
  let (kind, rest) ← datum.tagged? "action"
  match kind with
  | "assign" =>
      let [target, value] ← rest.parts? ["attribute", "value"] | none
      return .assign (← Datum.required Datum.name? target) (← Datum.required Expr.ofInner? value)
  | "print" =>
      let [some parts] ← rest.parts? ["values"] | none
      return .print (← Datum.listed Printed.ofDatum? (some parts))
  | "timeout" =>
      let [millis] ← rest.parts? ["millis"] | none
      return .timeout (← Datum.required Datum.millis? millis)
  | "run" =>
      let [command] ← rest.parts? ["command"] | none
      return .run (← Datum.required Datum.name? command)
  | _ => none

end Action

namespace Attribute

def toDatum (owner : Attribute) : Datum :=
  .record (optionalField "default" owner.default ++
    [("name", .text owner.name), ("type", .text owner.ty.name)])

def ofDatum? (datum : Datum) : Option Attribute := do
  let [name, ty, default] ← datum.parts? ["name", "type", "default"] | none
  return {
    name := ← Datum.required Datum.name? name
    ty := ← (← Datum.required Datum.word? ty) |> Ty.ofName?
    default := ← Expr.ofOptional? default }

end Attribute

namespace Transition

def toDatum (transition : Transition) : Datum :=
  .record ([("actions", .list (transition.actions.map Action.toDatum)),
    ("event", .text transition.event)] ++ optionalField "guard" transition.guard ++
    [("target", .text transition.target)])

def ofDatum? (datum : Datum) : Option Transition := do
  let [event, guard, target, actions] ← datum.parts? ["event", "guard", "target", "actions"] | none
  return {
    event := ← Datum.required Datum.name? event
    guard := ← Expr.ofOptional? guard
    target := ← Datum.required Datum.name? target
    actions := ← Datum.listed Action.ofDatum? actions }

end Transition

namespace State

def toDatum (state : State) : Datum :=
  .record [("actions", .list (state.entry.map Action.toDatum)), ("name", .text state.name),
    ("transitions", .list (state.transitions.map Transition.toDatum))]

def ofDatum? (datum : Datum) : Option State := do
  let [name, transitions, entry] ← datum.parts? ["name", "transitions", "actions"] | none
  return {
    name := ← Datum.required Datum.name? name
    transitions := ← Datum.listed Transition.ofDatum? transitions
    entry := ← Datum.listed Action.ofDatum? entry }

end State

def declarationToDatum (name : String) : Datum := .record [("name", .text name)]

def declarationOfDatum? (datum : Datum) : Option String := do
  let [name] ← datum.parts? ["name"] | none
  Datum.required Datum.name? name

namespace Machine

def toDatum (machine : Machine) : Datum :=
  .record [("attributes", .list (machine.attributes.map Attribute.toDatum)),
    ("commands", .list (machine.commands.map declarationToDatum)),
    ("events", .list (machine.events.map declarationToDatum)),
    ("initial", .text machine.initial), ("name", .text machine.name),
    ("states", .list (machine.states.map State.toDatum))]

def ofDatum? (datum : Datum) : Option Machine := do
  let [name, attributes, events, commands, states, initial] ←
    datum.parts? ["name", "attributes", "events", "commands", "states", "initial"] | none
  let some states := states | none
  return {
    name := ← Datum.required Datum.name? name
    attributes := ← Datum.listed Attribute.ofDatum? attributes
    events := ← Datum.listed declarationOfDatum? events
    commands := ← Datum.listed declarationOfDatum? commands
    states := ← Datum.listed State.ofDatum? (some states)
    initial := ← Datum.required Datum.name? initial }

end Machine

end StateMachine
