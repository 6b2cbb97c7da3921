import StateMachine.Machine.Basic

/-!
The names a model mentions, with the place of each mention, in the order in which the model is
written: defaults first, then state by state the transitions and after them the entry actions.
-/

set_option autoImplicit false

namespace StateMachine

/-- What a mentioned name has to be declared as. -/
inductive NameKind where
  | event
  | state
  | owner
  | command
deriving DecidableEq, Repr

inductive MentionSite where
  | default (owner : String)
  | transition (state event : String)
  | entry (state : String)
deriving DecidableEq, Repr

structure Mention where
  kind : NameKind
  name : String
  site : MentionSite
deriving DecidableEq, Repr

def NameKind.text : NameKind → String
  | .event => "event"
  | .state => "state"
  | .owner => "attribute"
  | .command => "command"

def MentionSite.text : MentionSite → String
  | .default owner => "attribute '" ++ owner ++ "'"
  | .transition state event => "state '" ++ state ++ "' on '" ++ event ++ "'"
  | .entry state => "state '" ++ state ++ "'"

def Mention.text (mention : Mention) : String :=
  mention.kind.text ++ " '" ++ mention.name ++ "' (" ++ mention.site.text ++ ")"

def Expr.mentions (site : MentionSite) (expr : Expr) : List Mention :=
  expr.references.map fun name => ⟨.owner, name, site⟩

def Printed.mentions (site : MentionSite) : Printed → List Mention
  | .text _ => []
  | .value expr => expr.mentions site

def Action.mentions (site : MentionSite) : Action → List Mention
  | .assign target value => ⟨.owner, target, site⟩ :: value.mentions site
  | .print parts => parts.flatMap (Printed.mentions site)
  | .timeout _ => []
  | .run command => [⟨.command, command, site⟩]

def optionalMentions (site : MentionSite) : Option Expr → List Mention
  | none => []
  | some expr => expr.mentions site

def Attribute.mentions (owner : Attribute) : List Mention :=
  optionalMentions (.default owner.name) owner.default

def Transition.mentions (state : String) (transition : Transition) : List Mention :=
  let site := MentionSite.transition state transition.event
  [⟨.event, transition.event, site⟩, ⟨.state, transition.target, site⟩] ++
    optionalMentions site transition.guard ++ transition.actions.flatMap (Action.mentions site)

def State.mentions (state : State) : List Mention :=
  state.transitions.flatMap (Transition.mentions state.name) ++
    state.entry.flatMap (Action.mentions (.entry state.name))

namespace Machine

/-- All mentions but that of the initial state. -/
def mentions (machine : Machine) : List Mention :=
  machine.attributes.flatMap Attribute.mentions ++ machine.states.flatMap State.mentions

def declares (machine : Machine) (mention : Mention) : Bool :=
  match mention.kind with
  | .event => machine.hasEvent mention.name
  | .state => (machine.stateNamed? mention.name).isSome
  | .owner => (machine.attributeNamed? mention.name).isSome
  | .command => machine.hasCommand mention.name

/-- The mentions of undeclared names, each text once, at its first place. -/
def unresolved (machine : Machine) : List Mention :=
  firstPerKey Mention.text (machine.mentions.filter fun mention => !machine.declares mention)

end Machine

end StateMachine
