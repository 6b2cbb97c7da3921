import StateMachine.Document.Basic
import StateMachine.Document.Failure
import StateMachine.Expr.Parser
import StateMachine.Machine.Mention

/-!
From documents to models. The first type or expression that cannot be read decides; only a document
without such a fault is checked for undeclared names, and those are reported all at once. The initial
state is left to validation.
-/

set_option autoImplicit false

namespace StateMachine

def readSource (source : String) : Except LoadFailure Expr :=
  (Expr.parse source).mapError .syntaxError

def readOptionalSource : Option String → Except LoadFailure (Option Expr)
  | none => .ok none
  | some source => (readSource source).map some

namespace ActionDraft

def build : ActionDraft → Except LoadFailure Action
  | .assign target value => (readSource value).map (Action.assign target)
  | .print parts =>
      (parts.mapM fun part => (Printed.parse part).mapError LoadFailure.syntaxError).map Action.print
  | .timeout millis => .ok (.timeout millis)
  | .run command => .ok (.run command)

end ActionDraft

namespace AttributeDraft

def build (owner : AttributeDraft) : Except LoadFailure Attribute := do
  let some ty := Ty.ofName? owner.ty | .error (.unsupportedType owner.ty)
  let default ← readOptionalSource owner.default
  return ⟨owner.name, ty, default⟩

end AttributeDraft

namespace TransitionDraft

def build (transition : TransitionDraft) : Except LoadFailure Transition := do
  let guard ← readOptionalSource transition.guard
  let actions ← transition.actions.mapM ActionDraft.build
  return ⟨transition.event, guard, transition.target, actions⟩

end TransitionDraft

namespace StateDraft

def build (state : StateDraft) : Except LoadFailure State := do
  let transitions ← state.transitions.mapM TransitionDraft.build
  let entry ← state.entry.mapM ActionDraft.build
  return ⟨state.name, transitions, entry⟩

end StateDraft

namespace Document

def build (document : Document) : Except LoadFailure Machine := do
  let attributes ← document.attributes.mapM AttributeDraft.build
  let states ← document.states.mapM StateDraft.build
  return {
    name := document.name
    attributes := attributes
    events := document.events
    commands := document.commands
    states := states
    initial := document.initial }

/-- The model that a document describes, with every mentioned name declared. -/
def resolve (document : Document) : Except LoadFailure Machine := do
  let machine ← document.build
  match machine.unresolved with
  | [] => return machine
  | mentions => throw (.unresolved mentions)

end Document

end StateMachine
