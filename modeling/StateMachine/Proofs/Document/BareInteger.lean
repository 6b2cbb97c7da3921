import StateMachine.Document.Load
import StateMachine.Proofs.Cpp.Default
import StateMachine.Proofs.Document.Frame
import StateMachine.Proofs.Document.Resolution
import StateMachine.Proofs.Expr.Integer
import StateMachine.Proofs.Json.RoundTrip
import StateMachine.Proofs.Session.Safety
import StateMachine.Proofs.Validation.WellFormed

/-!
An integer as the default of an attribute, written without quotes. It travels as its text, which is
read as an expression; on the way out everybody who evaluates the default finds the integer again.
-/

set_option autoImplicit false

namespace StateMachine

section Lists

variable {α β : Type}

/-- What is related to a list has a part for each of its parts. -/
theorem forall₂_middle {related : α → β → Prop} {before after : List α} {element : α}
    {others : List β} (pairs : List.Forall₂ related (before ++ element :: after) others) :
    ∃ earlier other later, others = earlier ++ other :: later ∧
      List.Forall₂ related before earlier ∧ related element other ∧
      List.Forall₂ related after later := by
  induction before generalizing others with
  | nil =>
      obtain ⟨other, later, here, rest, rfl⟩ := List.forall₂_cons_left_iff.mp pairs
      exact ⟨[], other, later, rfl, .nil, here, rest⟩
  | cons first before induction =>
      obtain ⟨_, _, here, rest, rfl⟩ := List.forall₂_cons_left_iff.mp pairs
      obtain ⟨earlier, other, later, rfl, left, middle, right⟩ := induction rest
      exact ⟨_ :: earlier, other, later, rfl, .cons here left, middle, right⟩

theorem modify_middle (change : α → α) (earlier later : List α) (element : α) :
    (earlier ++ element :: later).modify earlier.length change =
      earlier ++ change element :: later := by
  induction earlier with
  | nil => rfl
  | cons first earlier induction =>
      rw [List.cons_append, List.length_cons, List.modify_succ_cons, induction, List.cons_append]

end Lists

/-- A finished initialisation binds a name that is declared once to the initial value of its
attribute. -/
theorem Environment.init_middle_bound {earlier later : List Attribute} {owner : Attribute}
    {final : Environment} (initialized : init (earlier ++ owner :: later) = .ok final)
    (distinct : ((earlier ++ owner :: later).map Attribute.name).Nodup) :
    ∃ reached value, init earlier = .ok reached ∧ owner.initialValue reached = .ok value ∧
      final.get? owner.name = some value := by
  unfold init at initialized ⊢
  rw [init_from_append] at initialized
  obtain ⟨reached, before, rest⟩ := bind_eq_ok_iff.mp initialized
  obtain ⟨value, initial, continued⟩ := init_from_cons rest
  rw [List.map_append, List.map_cons] at distinct
  have once := (List.nodup_cons.mp (List.nodup_append.mp distinct).2.1).1
  refine ⟨reached, value, before, initial, ?_⟩
  rw [init_from_get_of_not_mem continued once, get_set, if_pos rfl]

namespace Machine

def withDefault (machine : Machine) (place : Nat) (default : Expr) : Machine :=
  { machine with
    attributes := machine.attributes.modify place fun owner =>
      { owner with default := some default } }

variable {machine : Machine} {earlier later : List Attribute} {owner : Attribute}

theorem attributes_with_default (split : machine.attributes = earlier ++ owner :: later)
    (default : Expr) :
    (machine.withDefault earlier.length default).attributes =
      earlier ++ { owner with default := some default } :: later := by
  rw [withDefault, split, modify_middle]

/-- A default without references brings no mention into a model. -/
theorem unresolved_with_default (split : machine.attributes = earlier ++ owner :: later)
    (absent : owner.default = none) {default : Expr} (closed : default.references = []) :
    (machine.withDefault earlier.length default).unresolved = machine.unresolved := by
  have after := attributes_with_default split default
  have mentions : (machine.withDefault earlier.length default).mentions = machine.mentions := by
    simp only [Machine.mentions, after, split, List.flatMap_append, List.flatMap_cons,
      Attribute.mentions, absent, optionalMentions, Expr.mentions, closed, List.map_nil]
    rfl
  have declares (mention : Mention) :
      (machine.withDefault earlier.length default).declares mention = machine.declares mention := by
    have named : (machine.withDefault earlier.length default).attributes.map Attribute.name =
        machine.attributes.map Attribute.name := by
      rw [after, split, List.map_append, List.map_append, List.map_cons, List.map_cons]
    have owners :
        ((machine.withDefault earlier.length default).attributeNamed? mention.name).isSome =
          (machine.attributeNamed? mention.name).isSome := by
      rw [attributeNamed?, attributeNamed?, find_by_key, find_by_key, named]
    rw [Machine.declares, Machine.declares, owners]
    rfl
  simp only [unresolved, mentions, declares]

/-- An initialisation asks of a default only what it evaluates to. -/
theorem init_with_default (split : machine.attributes = earlier ++ owner :: later)
    {first second : Expr}
    (alike : ∀ environment, first.evaluate environment = second.evaluate environment) :
    Environment.init (machine.withDefault earlier.length first).attributes =
      Environment.init (machine.withDefault earlier.length second).attributes := by
  have same (environment : Environment) :
      ({ owner with default := some first } : Attribute).initialValue environment =
        ({ owner with default := some second } : Attribute).initialValue environment := by
    simp only [Attribute.initialValue, alike]
  rw [attributes_with_default split, attributes_with_default split]
  simp only [Environment.init, Environment.init_from_append, Environment.initFrom, same]

/-- The value of a constant default is the initial one of its attribute in a session and in a
program, as soon as the model is valid with some default of that value. -/
theorem constant_default_kept (split : machine.attributes = earlier ++ owner :: later)
    {default other : Expr} {value : Value}
    (constant : ∀ environment, default.evaluate environment = .ok value)
    (alike : ∀ environment, other.evaluate environment = .ok value)
    (valid : hasErrors (machine.withDefault earlier.length other).diagnostics = false) :
    ∃ session values program,
      (machine.withDefault earlier.length default).openSession = .ok session ∧
      session.environment.get? owner.name = some value ∧
      Cpp.foldDefaults Environment.empty (machine.withDefault earlier.length default).attributes =
        .ok values ∧
      values[earlier.length]? = some value ∧
      Cpp.generate (machine.withDefault earlier.length default) = .ok program := by
  have runnable := runnable_of_no_errors valid
  obtain ⟨initial, declared⟩ := runnable.initial_declared
  obtain ⟨environment, initializedWithOther⟩ := runnable.initialized
  have after := attributes_with_default split default
  have initialized :
      Environment.init (machine.withDefault earlier.length default).attributes = .ok environment :=
    (init_with_default split fun environment =>
      (constant environment).trans (alike environment).symm).trans initializedWithOther
  have distinct : ((machine.withDefault earlier.length default).attributes.map
      Attribute.name).Nodup := by
    have names := runnable.names_distinct
    rw [attributes_with_default split] at names
    rw [after]
    simpa only [List.map_append, List.map_cons] using names
  have declaredToo : (machine.withDefault earlier.length default).initialState? = some initial :=
    declared
  obtain ⟨values, folded, bound⟩ := Cpp.fold_defaults_of_init initialized
  rw [after] at initialized distinct bound
  have given : environment.get? owner.name = some value := by
    obtain ⟨reached, _, _, initial, given⟩ := Environment.init_middle_bound initialized distinct
    obtain ⟨evaluated, _⟩ := (Attribute.initial_value_eq_ok_iff rfl).mp initial
    cases (constant reached).symm.trans evaluated
    exact given
  refine ⟨⟨environment, initial.name, false⟩, values,
    (Cpp.assembled (machine.withDefault earlier.length default) initial values).text, ?_, given,
    folded, ?_, ?_⟩
  · simp only [openSession, declaredToo, after, initialized]
  · have held : (values.map some)[earlier.length]? = some (some value) := by
      rw [← bound distinct]
      simp [given]
    rw [List.getElem?_map, Option.map_eq_some_iff] at held
    obtain ⟨_, found, ⟨⟩⟩ := held
    exact found
  · rw [Cpp.generate_of_initial declaredToo]
    exact bind_eq_ok_iff.mpr ⟨values, folded, rfl⟩

end Machine

namespace Document

variable {document : Document} {machine : Machine}

theorem resolve_eq_ok_iff :
    document.resolve = .ok machine ↔ document.Describes machine ∧ machine.unresolved = [] := by
  simp only [resolve, bind_eq_ok_iff, build_eq_ok_iff]
  constructor
  · rintro ⟨built, described, outcome⟩
    cases mentions : built.unresolved with
    | nil =>
        rw [mentions] at outcome
        cases outcome
        exact ⟨described, mentions⟩
    | cons mention others =>
        rw [mentions] at outcome
        cases outcome
  · rintro ⟨described, none⟩
    refine ⟨machine, described, ?_⟩
    rw [none]
    rfl

variable {earlier later : List AttributeDraft} {draft : AttributeDraft}

/-- A source that can be read and mentions nothing becomes the default of an attribute without
one. -/
theorem resolve_with_default (resolved : document.resolve = .ok machine)
    (split : document.attributes = earlier ++ draft :: later) (absent : draft.default = none) :
    ∃ before owner after, machine.attributes = before ++ owner :: after ∧
      before.length = earlier.length ∧ owner.default = none ∧
      ∀ source default, Expr.parse source = .ok default → default.references = [] →
        { document with
            attributes := earlier ++ { draft with default := some source } :: later }.resolve =
          .ok (machine.withDefault earlier.length default) := by
  obtain ⟨described, declared⟩ := resolve_eq_ok_iff.mp resolved
  have pairs := described.attributes
  rw [split] at pairs
  obtain ⟨before, owner, after, attributes, left, middle, right⟩ := forall₂_middle pairs
  have none : owner.default = none := by
    have related := middle.default
    rw [absent] at related
    generalize owner.default = default at related ⊢
    cases related
    rfl
  refine ⟨before, owner, after, attributes, left.length_eq.symm, none, ?_⟩
  intro source default read closed
  rw [left.length_eq]
  refine resolve_eq_ok_iff.mpr ⟨?_, ?_⟩
  · have again : AttributeDraft.Describes { draft with default := some source }
        { owner with default := some default } := ⟨middle.name, middle.ty, .some read⟩
    refine ⟨described.name, ?_, described.events, described.commands, described.states,
      described.initial⟩
    rw [Machine.attributes_with_default attributes]
    exact List.rel_append left (.cons again right)
  · rw [Machine.unresolved_with_default attributes none closed, declared]

/-- A default that cannot be read is the first thing that cannot, where all was well without it. -/
theorem resolve_with_unreadable (resolved : document.resolve = .ok machine)
    (split : document.attributes = earlier ++ draft :: later) {source : String}
    {error : SyntaxError} (refused : Expr.parse source = .error error) :
    { document with
        attributes := earlier ++ { draft with default := some source } :: later }.resolve =
      .error (.syntaxError error) := by
  obtain ⟨described, _⟩ := resolve_eq_ok_iff.mp resolved
  have readable : document.failure? = none := by
    rw [← failure_of_build, failure_of_eq_none_iff]
    exact ⟨machine, build_eq_ok_iff.mpr described⟩
  simp only [failure?, items, split, List.flatMap_append, List.flatMap_cons,
    List.findSome?_append, Option.or_eq_none_iff, AttributeDraft.items] at readable
  obtain ⟨⟨before, owned, _⟩, _⟩ := readable
  have typed : (DraftItem.type draft.ty).failure? = none :=
    List.findSome?_eq_none_iff.mp owned _ List.mem_cons_self
  have unread : (DraftItem.source (.default draft.name) source).failure? =
      some (.syntaxError error) := by
    rw [DraftItem.failure?, failure_of_eq_some_iff.mpr refused, Option.map_some]
  apply resolve_of_failure
  simp only [failure?, items, List.flatMap_append, List.flatMap_cons, List.findSome?_append,
    before, AttributeDraft.items, DraftItem.optional, Option.toList_some, List.map_cons,
    List.findSome?_cons, typed, unread, Option.none_or, Option.some_or]

end Document

namespace Machine

variable {machine : Machine} {format : Format} {frame : DocumentFrame} {number : Int}
  {text : String}

/-- How the text of an integer is read decides what is loaded. -/
theorem of_text_refilled (loads : ofDocumentDatum format (frame.fill .null) = .ok machine)
    (written : Document.datumOfText? format text = some (frame.fill (.integer number))) :
    ∃ earlier owner later, machine.attributes = earlier ++ owner :: later ∧
      earlier.length = frame.earlier.length ∧
      (∀ default, Expr.parse (toString number) = .ok default → default.references = [] →
        ofText format text = .ok (machine.withDefault frame.earlier.length default)) ∧
      ∀ error, Expr.parse (toString number) = .error error →
        ofText format text = .error (.syntaxError error) := by
  unfold ofDocumentDatum at loads
  split at loads
  · next document read =>
      obtain ⟨drafts, draft, more, split, place, absent, refilled⟩ :=
        DocumentFrame.document_refilled read
      obtain ⟨earlier, owner, later, attributes, aligned, _, resolved⟩ :=
        Document.resolve_with_default loads split absent
      have outcome : ofText format text = Document.resolve { document with
          attributes := drafts ++ { draft with default := some (toString number) } :: more } := by
        rw [ofText, Document.ofText?, written, Option.bind_some, refilled number]
      rw [outcome, ← place]
      refine ⟨earlier, owner, later, attributes, aligned, resolved _, fun error refused => ?_⟩
      exact Document.resolve_with_unreadable loads split refused
  · cases loads

/-- An integer that is written as the default of an attribute, where the model loads without it,
denotes itself: the model loads exactly if the number without its sign fits into a word, and is
otherwise refused at the first digit. What is loaded has a default that is the number everywhere,
and if the model is valid with that number for a default, in whatever form, a session and a program
begin with it. -/
theorem bare_integer_denotes_itself
    (loads : ofDocumentDatum format (frame.fill .null) = .ok machine)
    (written : Document.datumOfText? format text = some (frame.fill (.integer number))) :
    ((∃ loaded, ofText format text = .ok loaded) ↔ Expr.Denotable number) ∧
    (¬ Expr.Denotable number → ofText format text = .error (.syntaxError ⟨toString number,
      Decimal.placeOfDigit (toString number), .outOfRange (Decimal.digits number.natAbs)⟩)) ∧
    ∀ loaded, ofText format text = .ok loaded → ∃ owner word default,
      machine.attributes[frame.earlier.length]? = some owner ∧ word.val = number ∧
      loaded = machine.withDefault frame.earlier.length default ∧
      (∀ environment, default.evaluate environment = .ok (.int word)) ∧
      ∀ other : Expr, (∀ environment, other.evaluate environment = .ok (.int word)) →
        hasErrors (machine.withDefault frame.earlier.length other).diagnostics = false →
        ∃ session values program, loaded.openSession = .ok session ∧
          session.environment.get? owner.name = some (.int word) ∧
          Cpp.foldDefaults Environment.empty loaded.attributes = .ok values ∧
          values[frame.earlier.length]? = some (.int word) ∧
          Cpp.generate loaded = .ok program := by
  obtain ⟨earlier, owner, later, split, place, accepts, refuses⟩ := of_text_refilled loads written
  by_cases denotable : Expr.Denotable number
  · obtain ⟨least, greatest⟩ := denotable
    obtain ⟨word, rfl⟩ : ∃ word : Word, word.val = number := ⟨⟨number, by omega, greatest⟩, rfl⟩
    have greater : word ≠ Word.least := by
      rintro rfl
      exact absurd least (by decide)
    have constant (environment : Environment) :
        (Expr.literal (.int word)).unsigned.evaluate environment = .ok (.int word) :=
      Expr.evaluate_unsigned environment (.literal (.int word))
    have loaded := accepts _ (Expr.parse_word greater) (Expr.unsigned_references word)
    refine ⟨⟨fun _ => ⟨least, greatest⟩, fun _ => ⟨_, loaded⟩⟩, fun beyond => ?_, ?_⟩
    · exact absurd ⟨least, greatest⟩ beyond
    · intro found outcome
      cases loaded.symm.trans outcome
      rw [← place]
      refine ⟨owner, word, _, by simp [split], rfl, rfl, constant, ?_⟩
      intro other alike valid
      exact constant_default_kept split constant alike valid
  · have great : 9223372036854775807 < (number.natAbs : Int) := by
      unfold Expr.Denotable at denotable
      omega
    have refused := refuses _ (Expr.parse_of_great great)
    have unloaded : ¬ ∃ loaded, ofText format text = .ok loaded := by
      rintro ⟨loaded, outcome⟩
      cases refused.symm.trans outcome
    refine ⟨⟨fun loaded => absurd loaded unloaded, fun within => absurd within denotable⟩,
      fun _ => refused, ?_⟩
    intro loaded outcome
    exact absurd ⟨loaded, outcome⟩ unloaded

end Machine

def meterFrame : DocumentFrame where
  outside := .named [("name", .text "Meter")]
    [("initial", .text "Idle"), ("states", .list [.record [("name", .text "Idle")]])]
  earlier := []
  owner := .named [("name", .text "level"), ("type", .text "int")] []
  later := []

def meter : Machine where
  name := "Meter"
  attributes := [⟨"level", .int, none⟩]
  events := []
  commands := []
  states := [⟨"Idle", [], []⟩]
  initial := "Idle"

def meterText (level : Int) : String := Json.compact (meterFrame.fill (.integer level))

theorem meter_written (level : Int) (inRange : Json.InRange level) :
    Document.datumOfText? .json (meterText level) = some (meterFrame.fill (.integer level)) := by
  have owner : Json.Fits 125 (meterFrame.owner.fill (.integer level)) :=
    .record (by simp [Json.Fits.text, Json.Fits.integer inRange])
  have idle : Json.Fits 125 (.record [("name", .text "Idle")]) :=
    .record (by simp [Json.Fits.text])
  have owners : Json.Fits 126 (.list [meterFrame.owner.fill (.integer level)]) :=
    .list (List.forall_mem_singleton.mpr owner)
  have states : Json.Fits 126 (.list [.record [("name", .text "Idle")]]) :=
    .list (List.forall_mem_singleton.mpr idle)
  have fits : Json.Fits 127 (meterFrame.fill (.integer level)) := by
    refine .record ?_
    simp only [meterFrame, List.forall_mem_append, List.forall_mem_cons]
    exact ⟨⟨.text _ _, List.forall_mem_nil _⟩, owners, .text _ _, states, List.forall_mem_nil _⟩
  rw [Document.datumOfText?, meterText]
  exact Json.parse_compact fits

theorem meter_level_denotes_itself :
    (∃ loaded session, Machine.ofText .json (meterText (-9223372036854775807)) = .ok loaded ∧
      loaded.openSession = .ok session ∧
      session.environment.get? "level" =
        some (.int ⟨-9223372036854775807, by decide, by decide⟩)) ∧
    Machine.ofText .json (meterText (-9223372036854775808)) = .error (.syntaxError
      ⟨"-9223372036854775808", 1, .outOfRange "9223372036854775808".toList⟩) := by
  have loads : Machine.ofDocumentDatum .json (meterFrame.fill .null) = .ok meter := by rfl
  constructor
  · have written := meter_written (-9223372036854775807) ⟨by decide, by decide⟩
    obtain ⟨accepted, _, denotes⟩ := Machine.bare_integer_denotes_itself loads written
    obtain ⟨loaded, outcome⟩ := accepted.mpr (by decide)
    obtain ⟨owner, word, default, ⟨⟩, held, rfl, constant, begins⟩ := denotes loaded outcome
    obtain rfl : word = ⟨-9223372036854775807, by decide, by decide⟩ := Word.val_injective held
    obtain ⟨session, _, _, opened, given, _⟩ :=
      begins (.literal (.int ⟨-9223372036854775807, by decide, by decide⟩)) (fun _ => rfl)
        (by decide +kernel)
    exact ⟨_, session, outcome, opened, given⟩
  · have written := meter_written (-9223372036854775808) ⟨by decide, by decide⟩
    obtain ⟨_, refused, _⟩ := Machine.bare_integer_denotes_itself loads written
    rw [refused (by decide)]
    decide +kernel

end StateMachine
