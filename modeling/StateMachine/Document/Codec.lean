import StateMachine.Datum.Record
import StateMachine.Document.Basic

/-!
Documents as data. An action is told by its parts: it is the first kind whose parts are all there and
well formed, whatever else its record holds.
-/

set_option autoImplicit false

namespace StateMachine

namespace Datum

/-- The source text of an expression. Integers and truth values stand for their usual text. -/
def source? : Datum → Option String
  | .text content => some content
  | .integer number => some (toString number)
  | .flag holds => some (flagText holds)
  | _ => none

def optionalSource? : Option Datum → Option (Option String) := optional source?

end Datum

def sourceField (name : String) : Option String → List (String × Datum)
  | some source => [(name, .text source)]
  | none => []

namespace ActionDraft

def toDatum : ActionDraft → Datum
  | .assign target value => .record [("assign", .text target), ("value", .text value)]
  | .print parts => .record [("print", .list (parts.map Datum.text))]
  | .timeout millis => .record [("timeout", .integer (millis.toNat : Int))]
  | .run command => .record [("run", .text command)]

def assign? (pairs : List (Key × Datum)) : Option ActionDraft := do
  let [some target, some value] ← pickKeyed? ["assign", "value"] pairs | none
  return .assign (← target.name?) (← value.source?)

def print? (pairs : List (Key × Datum)) : Option ActionDraft := do
  let [some parts] ← pickKeyed? ["print"] pairs | none
  return .print (← (← parts.items?).mapM Datum.source?)

def timeout? (pairs : List (Key × Datum)) : Option ActionDraft := do
  let [some millis] ← pickKeyed? ["timeout"] pairs | none
  return .timeout (← millis.millis?)

def run? (pairs : List (Key × Datum)) : Option ActionDraft := do
  let [some command] ← pickKeyed? ["run"] pairs | none
  return .run (← command.name?)

def ofPairs? (pairs : List (Key × Datum)) : Option ActionDraft :=
  (assign? pairs).or ((print? pairs).or ((timeout? pairs).or (run? pairs)))

/-- The record has to be readable throughout, since its kind hangs on all of its parts. -/
def ofDatum? (datum : Datum) : Option ActionDraft :=
  if datum.isReadable then datum.pairs?.bind ofPairs? else none

end ActionDraft

namespace AttributeDraft

def toDatum (owner : AttributeDraft) : Datum :=
  .record (sourceField "default" owner.default ++
    [("name", .text owner.name), ("type", .text owner.ty)])

def ofDatum? (datum : Datum) : Option AttributeDraft := do
  let [name, ty, default] ← datum.parts? ["name", "type", "default"] | none
  return {
    name := ← Datum.required Datum.name? name
    ty := ← Datum.required Datum.name? ty
    default := ← Datum.optionalSource? default }

end AttributeDraft

namespace TransitionDraft

def toDatum (transition : TransitionDraft) : Datum :=
  .record ([("actions", .list (transition.actions.map ActionDraft.toDatum)),
    ("event", .text transition.event)] ++ sourceField "guard" transition.guard ++
    [("target", .text transition.target)])

def ofDatum? (datum : Datum) : Option TransitionDraft := do
  let [event, guard, target, actions] ← datum.parts? ["event", "guard", "target", "actions"] | none
  return {
    event := ← Datum.required Datum.name? event
    guard := ← Datum.optionalSource? guard
    target := ← Datum.required Datum.name? target
    actions := ← Datum.listed ActionDraft.ofDatum? actions }

end TransitionDraft

namespace StateDraft

def toDatum (state : StateDraft) : Datum :=
  .record [("actions", .list (state.entry.map ActionDraft.toDatum)), ("name", .text state.name),
    ("transitions", .list (state.transitions.map TransitionDraft.toDatum))]

def ofDatum? (datum : Datum) : Option StateDraft := do
  let [name, entry, transitions] ← datum.parts? ["name", "actions", "transitions"] | none
  return {
    name := ← Datum.required Datum.name? name
    entry := ← Datum.listed ActionDraft.ofDatum? entry
    transitions := ← Datum.listed TransitionDraft.ofDatum? transitions }

end StateDraft

namespace Document

def toDatum (document : Document) : Datum :=
  .record [("attributes", .list (document.attributes.map AttributeDraft.toDatum)),
    ("commands", .list (document.commands.map Datum.text)),
    ("events", .list (document.events.map Datum.text)), ("initial", .text document.initial),
    ("name", .text document.name), ("states", .list (document.states.map StateDraft.toDatum))]

def ofDatum? (datum : Datum) : Option Document := do
  let [name, events, commands, attributes, initial, states] ←
    datum.parts? ["name", "events", "commands", "attributes", "initial", "states"] | none
  let some states := states | none
  return {
    name := ← Datum.required Datum.name? name
    events := ← Datum.listed Datum.name? events
    commands := ← Datum.listed Datum.name? commands
    attributes := ← Datum.listed AttributeDraft.ofDatum? attributes
    initial := ← Datum.required Datum.name? initial
    states := ← Datum.listed StateDraft.ofDatum? (some states) }

end Document

end StateMachine
