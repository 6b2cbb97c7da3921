import StateMachine.Document.Resolve
import StateMachine.Proofs.FirstPerKey
import StateMachine.Proofs.Sequence
import StateMachine.Proofs.Text.Line

/-!
What becomes of a document. It is walked from its first attribute to the last entry action of its
last state: the first item that cannot be read decides, otherwise the undeclared names that were met,
and otherwise the model holds what the document holds, with every source read.
-/

set_option autoImplicit false

namespace StateMachine

open Text (Lacks)

inductive DraftItem where
  | type (word : String)
  | source (site : MentionSite) (text : String)
  | printed (site : MentionSite) (text : String)
  | mention (met : Mention)

namespace DraftItem

def failure? : DraftItem → Option LoadFailure
  | .type word => if (Ty.ofName? word).isNone then some (.unsupportedType word) else none
  | .source _ text => (failureOf (Expr.parse text)).map .syntaxError
  | .printed _ text => (failureOf (Printed.parse text)).map .syntaxError
  | .mention _ => none

def mentions : DraftItem → List Mention
  | .type _ => []
  | .source site text =>
      match Expr.parse text with
      | .ok expr => expr.references.map fun name => ⟨.owner, name, site⟩
      | .error _ => []
  | .printed site text =>
      match Printed.parse text with
      | .ok (.value expr) => expr.references.map fun name => ⟨.owner, name, site⟩
      | _ => []
  | .mention met => [met]

def optional (site : MentionSite) (source : Option String) : List DraftItem :=
  source.toList.map (.source site)

end DraftItem

def AttributeDraft.items (owner : AttributeDraft) : List DraftItem :=
  DraftItem.type owner.ty :: DraftItem.optional (.default owner.name) owner.default

def ActionDraft.items (site : MentionSite) : ActionDraft → List DraftItem
  | .assign target value => [.mention ⟨.owner, target, site⟩, .source site value]
  | .print parts => parts.map (.printed site)
  | .timeout _ => []
  | .run command => [.mention ⟨.command, command, site⟩]

def TransitionDraft.items (state : String) (transition : TransitionDraft) : List DraftItem :=
  let site := MentionSite.transition state transition.event
  [.mention ⟨.event, transition.event, site⟩, .mention ⟨.state, transition.target, site⟩] ++
    DraftItem.optional site transition.guard ++ transition.actions.flatMap (ActionDraft.items site)

def StateDraft.items (state : StateDraft) : List DraftItem :=
  state.transitions.flatMap (TransitionDraft.items state.name) ++
    state.entry.flatMap (ActionDraft.items (.entry state.name))

namespace Document

/-- The walk. The initial state is no part of it. -/
def items (document : Document) : List DraftItem :=
  document.attributes.flatMap AttributeDraft.items ++ document.states.flatMap StateDraft.items

/-- Why the first item that cannot be read cannot be read. -/
def failure? (document : Document) : Option LoadFailure :=
  document.items.findSome? DraftItem.failure?

def declares (document : Document) (mention : Mention) : Bool :=
  match mention.kind with
  | .event => document.events.contains mention.name
  | .state => (document.states.map StateDraft.name).contains mention.name
  | .owner => (document.attributes.map AttributeDraft.name).contains mention.name
  | .command => document.commands.contains mention.name

/-- The mentions of undeclared names in the order of the walk, repetitions included. -/
def undeclared (document : Document) : List Mention :=
  (document.items.flatMap DraftItem.mentions).filter fun mention => !document.declares mention

end Document

def ReadAs (source : String) (expr : Expr) : Prop := Expr.parse source = .ok expr

/-- The action has the parts of its draft, with every source read. -/
inductive ActionDraft.Describes : ActionDraft → Action → Prop where
  | assign {target source : String} {value : Expr} (read : ReadAs source value) :
      Describes (.assign target source) (.assign target value)
  | print {sources : List String} {parts : List Printed}
      (read : List.Forall₂ (fun source part => Printed.parse source = .ok part) sources parts) :
      Describes (.print sources) (.print parts)
  | timeout (millis : UInt64) : Describes (.timeout millis) (.timeout millis)
  | run (command : String) : Describes (.run command) (.run command)

structure AttributeDraft.Describes (draft : AttributeDraft) (owner : Attribute) : Prop where
  name : owner.name = draft.name
  ty : Ty.ofName? draft.ty = some owner.ty
  default : Option.Rel ReadAs draft.default owner.default

structure TransitionDraft.Describes (draft : TransitionDraft) (transition : Transition) : Prop where
  event : transition.event = draft.event
  guard : Option.Rel ReadAs draft.guard transition.guard
  target : transition.target = draft.target
  actions : List.Forall₂ ActionDraft.Describes draft.actions transition.actions

structure StateDraft.Describes (draft : StateDraft) (state : State) : Prop where
  name : state.name = draft.name
  transitions : List.Forall₂ TransitionDraft.Describes draft.transitions state.transitions
  entry : List.Forall₂ ActionDraft.Describes draft.entry state.entry

/-- The machine has what the document has, in the same order, with every source read. -/
structure Document.Describes (document : Document) (machine : Machine) : Prop where
  name : machine.name = document.name
  attributes : List.Forall₂ AttributeDraft.Describes document.attributes machine.attributes
  events : machine.events = document.events
  commands : machine.commands = document.commands
  states : List.Forall₂ StateDraft.Describes document.states machine.states
  initial : machine.initial = document.initial

section Lists

variable {α β γ : Type}

theorem findSome_flatMap (look : β → Option γ) (branch : α → List β) (values : List α) :
    (values.flatMap branch).findSome? look =
      values.findSome? fun value => (branch value).findSome? look := by
  induction values with
  | nil => rfl
  | cons value rest induction =>
      rw [List.flatMap_cons, List.findSome?_append, List.findSome?_cons, induction]
      cases (branch value).findSome? look with
      | none => rfl
      | some found => rfl

theorem flatMap_eq_of_forall {related : α → β → Prop} {first : α → List γ} {second : β → List γ}
    {values : List α} {others : List β} (pairs : List.Forall₂ related values others)
    (same : ∀ value other, related value other → second other = first value) :
    others.flatMap second = values.flatMap first := by
  induction pairs with
  | nil => rfl
  | cons here _ induction => rw [List.flatMap_cons, List.flatMap_cons, same _ _ here, induction]

theorem map_eq_of_forall {related : α → β → Prop} {first : α → γ} {second : β → γ}
    {values : List α} {others : List β} (pairs : List.Forall₂ related values others)
    (same : ∀ value other, related value other → second other = first value) :
    others.map second = values.map first := by
  induction pairs with
  | nil => rfl
  | cons here _ induction => rw [List.map_cons, List.map_cons, same _ _ here, induction]

theorem find_by_key (key : α → String) (values : List α) (name : String) :
    (values.find? fun value => key value == name).isSome = (values.map key).contains name := by
  rw [List.isSome_find?, List.contains_eq_any_beq, List.any_map]
  apply congrArg (fun holds => values.any holds)
  funext value
  exact Bool.beq_comm

end Lists

section Reading

/-! What can be read fails as its item does, and is read as the parser says. -/

theorem failure_of_read (site : MentionSite) (source : String) :
    failureOf (readSource source) = (DraftItem.source site source).failure? :=
  failure_of_mapError LoadFailure.syntaxError (Expr.parse source)

theorem read_source_eq_ok_iff {source : String} {expr : Expr} :
    readSource source = .ok expr ↔ ReadAs source expr :=
  mapError_eq_ok_iff

theorem failure_of_read_optional (site : MentionSite) (source : Option String) :
    failureOf (readOptionalSource source) =
      (DraftItem.optional site source).findSome? DraftItem.failure? := by
  cases source with
  | none => rfl
  | some text =>
      simp only [readOptionalSource, failure_of_map, failure_of_read site, DraftItem.optional,
        Option.toList_some, List.map_cons, List.map_nil, List.findSome?_singleton]

theorem read_optional_eq_ok_iff {source : Option String} {expr : Option Expr} :
    readOptionalSource source = .ok expr ↔ Option.Rel ReadAs source expr := by
  cases source with
  | none =>
      constructor
      · rintro ⟨⟩
        exact .none
      · rintro ⟨⟩
        rfl
  | some text =>
      simp only [readOptionalSource, map_eq_ok_iff, read_source_eq_ok_iff]
      constructor
      · rintro ⟨value, read, rfl⟩
        exact .some read
      · rintro ⟨read⟩
        exact ⟨_, read, rfl⟩

end Reading

namespace ActionDraft

theorem failure_of_build (site : MentionSite) (action : ActionDraft) :
    failureOf action.build = (action.items site).findSome? DraftItem.failure? := by
  cases action with
  | assign target source =>
      rw [build, failure_of_map, failure_of_read site, items, List.findSome?_cons,
        List.findSome?_singleton]
      rfl
  | print parts =>
      rw [build, failure_of_map, failure_of_mapM, items, List.findSome?_map]
      apply congrArg (fun look => parts.findSome? look)
      funext part
      exact failure_of_mapError LoadFailure.syntaxError (Printed.parse part)
  | timeout millis => rfl
  | run command => rfl

theorem build_eq_ok_iff {draft : ActionDraft} {action : Action} :
    draft.build = .ok action ↔ draft.Describes action := by
  cases draft with
  | assign target source =>
      simp only [build, map_eq_ok_iff, read_source_eq_ok_iff]
      constructor
      · rintro ⟨value, read, rfl⟩
        exact .assign read
      · rintro ⟨read⟩
        exact ⟨_, read, rfl⟩
  | print sources =>
      simp only [build, map_eq_ok_iff, mapM_eq_ok_iff, mapError_eq_ok_iff]
      constructor
      · rintro ⟨parts, read, rfl⟩
        exact .print read
      · intro described
        cases described with
        | print read => exact ⟨_, read, rfl⟩
  | timeout millis =>
      constructor
      · rintro ⟨⟩
        exact .timeout millis
      · rintro ⟨⟩
        rfl
  | run command =>
      constructor
      · rintro ⟨⟩
        exact .run command
      · rintro ⟨⟩
        rfl

theorem Describes.mentions {draft : ActionDraft} {action : Action} (site : MentionSite)
    (described : draft.Describes action) :
    action.mentions site = (draft.items site).flatMap DraftItem.mentions := by
  cases described with
  | assign read =>
      rw [ReadAs] at read
      simp [Action.mentions, items, DraftItem.mentions, read, Expr.mentions]
  | print read =>
      rw [Action.mentions, items, List.flatMap_map]
      apply flatMap_eq_of_forall read
      intro source part parsed
      simp only [DraftItem.mentions, parsed]
      cases part with
      | text content => rfl
      | value expr => rfl
  | timeout millis => rfl
  | run command => rfl

end ActionDraft

theorem optional_mentions {source : Option String} {expr : Option Expr} (site : MentionSite)
    (read : Option.Rel ReadAs source expr) :
    optionalMentions site expr = (DraftItem.optional site source).flatMap DraftItem.mentions := by
  cases read with
  | none => rfl
  | some read =>
      rw [ReadAs] at read
      simp [optionalMentions, DraftItem.optional, DraftItem.mentions, read, Expr.mentions]

namespace AttributeDraft

theorem failure_of_build (owner : AttributeDraft) :
    failureOf owner.build = owner.items.findSome? DraftItem.failure? := by
  rw [build, items, List.findSome?_cons, ← failure_of_read_optional, DraftItem.failure?]
  cases Ty.ofName? owner.ty with
  | none => rfl
  | some ty =>
      exact failure_of_bind_pure (fun default => (⟨owner.name, ty, default⟩ : Attribute))
        (readOptionalSource owner.default)

theorem build_eq_ok_iff {draft : AttributeDraft} {owner : Attribute} :
    draft.build = .ok owner ↔ draft.Describes owner := by
  rw [build]
  constructor
  · intro built
    cases typed : Ty.ofName? draft.ty with
    | none =>
        rw [typed] at built
        cases built
    | some ty =>
        rw [typed] at built
        obtain ⟨default, read, ⟨⟩⟩ := bind_eq_ok_iff.mp built
        exact ⟨rfl, typed, read_optional_eq_ok_iff.mp read⟩
  · rintro ⟨name, typed, read⟩
    rw [typed]
    apply bind_eq_ok_iff.mpr
    exact ⟨owner.default, read_optional_eq_ok_iff.mpr read, by rw [← name]; rfl⟩

theorem Describes.mentions {draft : AttributeDraft} {owner : Attribute}
    (described : draft.Describes owner) :
    owner.mentions = draft.items.flatMap DraftItem.mentions := by
  rw [Attribute.mentions, items, List.flatMap_cons, described.name,
    optional_mentions _ described.default]
  rfl

end AttributeDraft

namespace TransitionDraft

theorem failure_of_build (state : String) (transition : TransitionDraft) :
    failureOf transition.build = (transition.items state).findSome? DraftItem.failure? := by
  -- Whether the actions can be read does not hang on what the guard was read as.
  have later (guard : Option Expr) : failureOf (do
        let actions ← transition.actions.mapM ActionDraft.build
        return (⟨transition.event, guard, transition.target, actions⟩ : Transition)) =
      transition.actions.findSome? fun action => failureOf action.build := by
    rw [failure_of_bind_pure, failure_of_mapM]
  let site := MentionSite.transition state transition.event
  rw [build, failure_of_bind later, failure_of_read_optional site, items, List.findSome?_append,
    List.findSome?_append, findSome_flatMap]
  simp only [ActionDraft.failure_of_build site]
  rfl

theorem build_eq_ok_iff {draft : TransitionDraft} {transition : Transition} :
    draft.build = .ok transition ↔ draft.Describes transition := by
  simp only [build, bind_eq_ok_iff, read_optional_eq_ok_iff, mapM_eq_ok_iff,
    ActionDraft.build_eq_ok_iff]
  constructor
  · rintro ⟨guard, read, actions, described, ⟨⟩⟩
    exact ⟨rfl, read, rfl, described⟩
  · rintro ⟨event, read, target, described⟩
    exact ⟨transition.guard, read, transition.actions, described, by rw [← event, ← target]; rfl⟩

theorem Describes.mentions {draft : TransitionDraft} {transition : Transition} (state : String)
    (described : draft.Describes transition) :
    transition.mentions state = (draft.items state).flatMap DraftItem.mentions := by
  have actions (site : MentionSite) : transition.actions.flatMap (Action.mentions site) =
      draft.actions.flatMap fun action => (action.items site).flatMap DraftItem.mentions :=
    flatMap_eq_of_forall described.actions fun _ _ same => same.mentions site
  simp only [Transition.mentions, items, List.flatMap_append, List.flatMap_assoc, described.event,
    described.target, optional_mentions _ described.guard, actions]
  rfl

end TransitionDraft

namespace StateDraft

theorem failure_of_build (state : StateDraft) :
    failureOf state.build = state.items.findSome? DraftItem.failure? := by
  have later (transitions : List Transition) : failureOf (do
        let entry ← state.entry.mapM ActionDraft.build
        return (⟨state.name, transitions, entry⟩ : State)) =
      state.entry.findSome? fun action => failureOf action.build := by
    rw [failure_of_bind_pure, failure_of_mapM]
  rw [build, failure_of_bind later, failure_of_mapM, items, List.findSome?_append,
    findSome_flatMap, findSome_flatMap]
  simp only [TransitionDraft.failure_of_build state.name,
    ActionDraft.failure_of_build (.entry state.name)]

theorem build_eq_ok_iff {draft : StateDraft} {state : State} :
    draft.build = .ok state ↔ draft.Describes state := by
  simp only [build, bind_eq_ok_iff, mapM_eq_ok_iff, TransitionDraft.build_eq_ok_iff,
    ActionDraft.build_eq_ok_iff]
  constructor
  · rintro ⟨transitions, described, entry, entryDescribed, ⟨⟩⟩
    exact ⟨rfl, described, entryDescribed⟩
  · rintro ⟨name, described, entryDescribed⟩
    exact ⟨state.transitions, described, state.entry, entryDescribed, by rw [← name]; rfl⟩

theorem Describes.mentions {draft : StateDraft} {state : State}
    (described : draft.Describes state) :
    state.mentions = draft.items.flatMap DraftItem.mentions := by
  have transitions := flatMap_eq_of_forall described.transitions
    fun _ _ same => same.mentions draft.name
  have entry := flatMap_eq_of_forall described.entry
    fun _ _ same => same.mentions (.entry draft.name)
  rw [State.mentions, items, List.flatMap_append, List.flatMap_assoc, List.flatMap_assoc,
    described.name, transitions, entry]

end StateDraft

namespace Document

theorem failure_of_build (document : Document) : failureOf document.build = document.failure? := by
  have later (attributes : List Attribute) : failureOf (do
        let states ← document.states.mapM StateDraft.build
        return {
          name := document.name
          attributes := attributes
          events := document.events
          commands := document.commands
          states := states
          initial := document.initial : Machine }) =
      document.states.findSome? fun state => failureOf state.build := by
    rw [failure_of_bind_pure, failure_of_mapM]
  rw [build, failure_of_bind later, failure_of_mapM, failure?, items, List.findSome?_append,
    findSome_flatMap, findSome_flatMap]
  simp only [AttributeDraft.failure_of_build, StateDraft.failure_of_build]

theorem build_eq_ok_iff {document : Document} {machine : Machine} :
    document.build = .ok machine ↔ document.Describes machine := by
  simp only [build, bind_eq_ok_iff, mapM_eq_ok_iff, AttributeDraft.build_eq_ok_iff,
    StateDraft.build_eq_ok_iff]
  constructor
  · rintro ⟨attributes, attributesDescribed, states, statesDescribed, ⟨⟩⟩
    exact ⟨rfl, attributesDescribed, rfl, rfl, statesDescribed, rfl⟩
  · rintro ⟨name, attributesDescribed, events, commands, statesDescribed, initial⟩
    refine ⟨machine.attributes, attributesDescribed, machine.states, statesDescribed, ?_⟩
    rw [← name, ← events, ← commands, ← initial]
    rfl

variable {document : Document} {machine : Machine}

theorem Describes.mentions (described : document.Describes machine) :
    machine.mentions = document.items.flatMap DraftItem.mentions := by
  have attributes := flatMap_eq_of_forall described.attributes fun _ _ same => same.mentions
  have states := flatMap_eq_of_forall described.states fun _ _ same => same.mentions
  rw [Machine.mentions, items, List.flatMap_append, List.flatMap_assoc, List.flatMap_assoc,
    attributes, states]

theorem Describes.declares (described : document.Describes machine) (mention : Mention) :
    machine.declares mention = document.declares mention := by
  have states : machine.states.map State.name = document.states.map StateDraft.name :=
    map_eq_of_forall described.states fun _ _ same => same.name
  have attributes : machine.attributes.map Attribute.name =
      document.attributes.map AttributeDraft.name :=
    map_eq_of_forall described.attributes fun _ _ same => same.name
  rw [Machine.declares, Document.declares]
  cases mention.kind with
  | event => rw [Machine.hasEvent, described.events]
  | state => rw [Machine.stateNamed?, find_by_key, states]
  | owner => rw [Machine.attributeNamed?, find_by_key, attributes]
  | command => rw [Machine.hasCommand, described.commands]

theorem Describes.unresolved (described : document.Describes machine) :
    machine.unresolved = firstPerKey Mention.text document.undeclared := by
  have undeclared : (machine.mentions.filter fun mention => !machine.declares mention) =
      document.undeclared := by
    rw [Document.undeclared, described.mentions]
    apply List.filter_congr
    intro mention _
    rw [described.declares]
  rw [Machine.unresolved, undeclared]

theorem resolve_of_failure {failure : LoadFailure} (failed : document.failure? = some failure) :
    document.resolve = .error failure := by
  rw [← failure_of_build, failure_of_eq_some_iff] at failed
  rw [resolve, failed]
  rfl

theorem resolve_of_readable (readable : document.failure? = none) :
    ∃ machine, document.Describes machine ∧ document.resolve =
      match firstPerKey Mention.text document.undeclared with
      | [] => .ok machine
      | mentions => .error (.unresolved mentions) := by
  rw [← failure_of_build, failure_of_eq_none_iff] at readable
  obtain ⟨machine, built⟩ := readable
  have described := build_eq_ok_iff.mp built
  refine ⟨machine, described, ?_⟩
  rw [resolve, built, ← described.unresolved]
  rfl

end Document

/-! The text of a mention tells its kind, its name and its place as long as the name cannot be
mistaken for the quotes around it. -/

/-- The kind, the name and the place of a mention, as its text gives them. -/
def Mention.entry (mention : Mention) : NameKind × String × String :=
  (mention.kind, mention.name, mention.site.text)

theorem cut_at_quote {before other after rest : List Char} (plain : '\'' ∉ before)
    (otherPlain : '\'' ∉ other) (same : before ++ '\'' :: after = other ++ '\'' :: rest) :
    before = other ∧ after = rest := by
  have whole {piece : List Char} (plain : '\'' ∉ piece) :
      ∀ character ∈ piece, (character == '\'') = false := fun character member =>
    beq_eq_false_iff_ne.mpr fun quote => plain (quote ▸ member)
  have pieces := congrArg (Text.splitAt (· == '\'')) same
  rw [Text.split_at_append _ (whole plain) rfl, Text.split_at_append _ (whole otherPlain) rfl,
    List.cons.injEq] at pieces
  obtain ⟨rfl, _⟩ := pieces
  rw [List.append_cancel_left_eq, List.cons.injEq] at same
  exact ⟨rfl, same.2⟩

theorem Mention.text_characters (mention : Mention) :
    mention.text.toList = (mention.kind.text.toList ++ [' ']) ++ '\'' ::
      (mention.name.toList ++ '\'' :: ([' ', '('] ++ mention.site.text.toList ++ [')'])) := by
  have opening : " '".toList = [' ', '\''] := by decide
  have middle : "' (".toList = ['\'', ' ', '('] := by decide
  have closing : ")".toList = [')'] := by decide
  simp only [Mention.text, String.toList_append, opening, middle, closing, List.append_assoc,
    List.cons_append, List.nil_append]

theorem NameKind.text_plain (kind : NameKind) : '\'' ∉ kind.text.toList ++ [' '] := by
  cases kind with
  | event => decide
  | state => decide
  | owner => decide
  | command => decide

theorem NameKind.text_inj {kind other : NameKind} (same : kind.text = other.text) :
    kind = other := by
  cases kind <;> cases other <;> simp [text] at same ⊢

theorem Mention.text_eq_iff {mention other : Mention} (plain : Lacks '\'' mention.name)
    (otherPlain : Lacks '\'' other.name) :
    mention.text = other.text ↔ mention.entry = other.entry := by
  simp only [Mention.entry, Prod.mk.injEq]
  constructor
  · intro same
    rw [← String.toList_inj, text_characters, text_characters] at same
    -- The first quote ends the kind, and the first one after it ends the name.
    obtain ⟨kind, after⟩ := cut_at_quote mention.kind.text_plain other.kind.text_plain same
    obtain ⟨name, site⟩ := cut_at_quote plain otherPlain after
    rw [List.append_cancel_right_eq, List.append_cancel_left_eq] at site
    have kind := NameKind.text_inj (String.toList_inj.mp (List.append_cancel_right kind))
    exact ⟨kind, String.toList_inj.mp name, String.toList_inj.mp site⟩
  · rintro ⟨kind, name, site⟩
    rw [Mention.text, Mention.text, kind, name, site]

/-- Two mentions with quotes in their names may share a text. -/
example : (Mention.mk .owner "x" (.entry "p' (state 'q")).text =
    (Mention.mk .owner "x' (state 'p" (.entry "q")).text := by decide

namespace Document

/-- The outcome of a document hangs on its walk alone. The first item that cannot be read decides,
whatever names are undeclared. Otherwise undeclared names are reported by the texts of their
mentions, each text once and at its first place, which tell all mentions apart unless a name holds a
quote. Otherwise there is a model of the document. -/
theorem resolve_by_walk (document : Document) :
    (∀ failure, document.failure? = some failure → document.resolve = .error failure) ∧
    (document.failure? = none → document.undeclared ≠ [] →
      ∃ reported, document.resolve = .error (.unresolved reported) ∧
        reported.Sublist document.undeclared ∧
        reported.map Mention.text = (document.undeclared.map Mention.text).eraseDups ∧
        ((∀ mention ∈ document.undeclared, Lacks '\'' mention.name) →
          reported.map Mention.entry = (document.undeclared.map Mention.entry).eraseDups)) ∧
    (document.failure? = none → document.undeclared = [] →
      ∃ machine, document.resolve = .ok machine ∧ document.Describes machine) := by
  refine ⟨fun failure => resolve_of_failure, ?_, ?_⟩
  · intro readable missing
    obtain ⟨machine, _, outcome⟩ := resolve_of_readable readable
    refine ⟨firstPerKey Mention.text document.undeclared, ?_, first_per_key_sublist _ _,
      first_per_key_keys _ _, ?_⟩
    · rw [outcome]
      cases met : document.undeclared with
      | nil => exact absurd met missing
      | cons mention others => rfl
    · intro plain
      apply first_per_key_map
      intro first firstMember second secondMember
      exact (Mention.text_eq_iff (plain first firstMember) (plain second secondMember)).symm
  · intro readable declared
    obtain ⟨machine, described, outcome⟩ := resolve_of_readable readable
    refine ⟨machine, ?_, described⟩
    rw [outcome, declared]
    rfl

def latch (events : List String) (guard : String) : Document where
  name := "Latch"
  events := events
  commands := ["ring"]
  attributes := [⟨"level", "int", some "1 + 2"⟩]
  initial := "Nowhere"
  states := [⟨"Shut", [.print ["\"level \"", "level"], .run "ring"],
    [⟨"stop", some guard, "Shut", [.assign "level" "level + 1"]⟩]⟩]

theorem latch_by_walk :
    (latch [] "ready &&").resolve =
      .error (.syntaxError ⟨"ready &&", 8, .unexpectedEnd⟩) ∧
    (∃ reported, (latch [] "ready || ready").resolve = .error (.unresolved reported) ∧
      reported.map Mention.text =
        ["event 'stop' (state 'Shut' on 'stop')", "attribute 'ready' (state 'Shut' on 'stop')"] ∧
      reported.map Mention.entry =
        [(.event, "stop", "state 'Shut' on 'stop'"), (.owner, "ready", "state 'Shut' on 'stop'")]) ∧
    ∃ machine, (latch ["stop"] "level > 0").resolve = .ok machine ∧
      (latch ["stop"] "level > 0").Describes machine := by
  have unreadable := (resolve_by_walk (latch [] "ready &&")).1
    (.syntaxError ⟨"ready &&", 8, .unexpectedEnd⟩) (by decide +kernel)
  obtain ⟨reported, outcome, _, texts, entries⟩ :=
    (resolve_by_walk (latch [] "ready || ready")).2.1 (by decide +kernel) (by decide +kernel)
  have declared := (resolve_by_walk (latch ["stop"] "level > 0")).2.2 (by decide +kernel)
    (by decide +kernel)
  refine ⟨unreadable, ⟨reported, outcome, ?_, ?_⟩, declared⟩
  · rw [texts]
    decide +kernel
  · rw [entries (by decide +kernel)]
    decide +kernel

end Document

end StateMachine
