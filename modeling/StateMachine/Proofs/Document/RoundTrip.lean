import StateMachine.Document.Load
import StateMachine.Proofs.Json.RoundTrip
import StateMachine.Proofs.Machine.RoundTrip

/-!
A written document reads back as itself. The kind of an action is not written down: the readers of
the four kinds are tried in turn, and three of them have to refuse what is there. As text a document
reads back, too, since it opens few containers inside one another.
-/

set_option autoImplicit false

namespace StateMachine

namespace Datum

theorem source_text : ReadsBack .text source? := fun _ => rfl

theorem optional_source_absent : optionalSource? none = some none := rfl

theorem optional_source_text (source : String) :
    optionalSource? (some (.text source)) = some (some source) := rfl

theorem all_readable_iff {items : List Datum} :
    allReadable items = true ↔ ∀ item ∈ items, item.isReadable = true := by
  induction items with
  | nil => simp [allReadable]
  | cons item rest induction => simp [allReadable, induction]

end Datum

namespace ActionDraft

/-- The readers of the four kinds in the order in which they are tried. -/
def readers : List (List (Key × Datum) → Option ActionDraft) := [assign?, print?, timeout?, run?]

theorem of_pairs_eq_first (pairs : List (Key × Datum)) :
    ofPairs? pairs = readers.findSome? fun read? => read? pairs := by
  simp only [ofPairs?, readers, List.findSome?_cons, List.findSome?_nil]
  cases assign? pairs <;> cases print? pairs <;> cases timeout? pairs <;> cases run? pairs <;> rfl

def parts : ActionDraft → List (Key × Datum)
  | .assign target value => [(.name "assign", .text target), (.name "value", .text value)]
  | .print sources => [(.name "print", .list (sources.map Datum.text))]
  | .timeout millis => [(.name "timeout", .integer (millis.toNat : Int))]
  | .run command => [(.name "run", .text command)]

theorem to_datum_parts (action : ActionDraft) : action.toDatum.pairs? = some action.parts := by
  cases action <;> rfl

theorem to_datum_readable (action : ActionDraft) : action.toDatum.isReadable = true := by
  cases action with
  | print sources =>
      have texts : Datum.allReadable (sources.map Datum.text) = true := by
        rw [Datum.all_readable_iff, List.forall_mem_map]
        intro source _
        rfl
      simp only [toDatum, Datum.isReadable, Datum.fieldsReadable, texts, Bool.and_true]
  | assign target value => rfl
  | timeout millis => rfl
  | run command => rfl

-- The part is a variable here, since next to a number the bound of `millis?` would be unfolded.
theorem readings_of_timeout {part : Datum} {millis : UInt64} (read : part.millis? = some millis) :
    (readers.map fun read? => read? [(.name "timeout", part)]) =
      [none, none, some (.timeout millis), none] := by
  simp [readers, assign?, print?, timeout?, run?, pickKeyed?, pickNamed?, Key.nameAmong?, read]

/-- A written action has the parts of one kind only, so of the four readers three refuse it. -/
theorem readings_of_parts (action : ActionDraft) :
    (readers.map fun read? => read? action.parts) =
      match action with
      | .assign _ _ => [some action, none, none, none]
      | .print _ => [none, some action, none, none]
      | .timeout _ => [none, none, some action, none]
      | .run _ => [none, none, none, some action] := by
  cases action with
  | assign target value =>
      simp [readers, parts, assign?, print?, timeout?, run?, pickKeyed?, pickNamed?,
        Key.nameAmong?, Datum.name?, Datum.source?]
  | print sources =>
      have read : (sources.map Datum.text).mapM Datum.source? = some sources :=
        Datum.source_text.listed_map sources
      simp [readers, parts, assign?, print?, timeout?, run?, pickKeyed?, pickNamed?,
        Key.nameAmong?, Datum.items?, read]
  | timeout millis => exact readings_of_timeout (Datum.millis_integer millis)
  | run command =>
      simp [readers, parts, assign?, print?, timeout?, run?, pickKeyed?, pickNamed?,
        Key.nameAmong?, Datum.name?]

theorem taken_unchanged (action : ActionDraft) :
    ∀ read? ∈ readers, ∀ other, read? action.parts = some other → other = action := by
  intro read? member other taken
  have among : some other ∈ readers.map fun read? => read? action.parts :=
    taken ▸ List.mem_map_of_mem member
  rw [readings_of_parts] at among
  cases action <;> simpa using among

theorem of_pairs_parts (action : ActionDraft) : ofPairs? action.parts = some action := by
  have first : readers.findSome? (fun read? => read? action.parts) =
      (readers.map fun read? => read? action.parts).findSome? id := by
    rw [List.findSome?_map]
    rfl
  rw [of_pairs_eq_first, first, readings_of_parts]
  cases action <;> rfl

theorem of_datum_to_datum : Datum.ReadsBack toDatum ofDatum? := by
  intro action
  rw [ofDatum?, to_datum_readable, if_pos rfl, to_datum_parts, Option.bind_some, of_pairs_parts]

end ActionDraft

theorem AttributeDraft.of_datum_to_datum : Datum.ReadsBack toDatum ofDatum? := by
  intro draft
  obtain ⟨name, ty, default⟩ := draft
  cases default with
  | none =>
      simp [toDatum, ofDatum?, sourceField, Datum.parts?, pickNamed?, Datum.name_text.required,
        Datum.optional_source_absent]
  | some source =>
      simp [toDatum, ofDatum?, sourceField, Datum.parts?, pickNamed?, Datum.name_text.required,
        Datum.optional_source_text]

theorem TransitionDraft.of_datum_to_datum : Datum.ReadsBack toDatum ofDatum? := by
  intro draft
  obtain ⟨event, guard, target, actions⟩ := draft
  cases guard with
  | none =>
      simp [toDatum, ofDatum?, sourceField, Datum.parts?, pickNamed?, Datum.name_text.required,
        Datum.optional_source_absent, ActionDraft.of_datum_to_datum.listed_map]
  | some source =>
      simp [toDatum, ofDatum?, sourceField, Datum.parts?, pickNamed?, Datum.name_text.required,
        Datum.optional_source_text, ActionDraft.of_datum_to_datum.listed_map]

theorem StateDraft.of_datum_to_datum : Datum.ReadsBack toDatum ofDatum? := by
  intro draft
  simp [toDatum, ofDatum?, Datum.parts?, pickNamed?, Datum.name_text.required,
    ActionDraft.of_datum_to_datum.listed_map, TransitionDraft.of_datum_to_datum.listed_map]

theorem Document.of_datum_to_datum : Datum.ReadsBack toDatum ofDatum? := by
  intro document
  simp [toDatum, ofDatum?, Datum.parts?, pickNamed?, Datum.name_text.required,
    Datum.name_text.listed_map, AttributeDraft.of_datum_to_datum.listed_map,
    StateDraft.of_datum_to_datum.listed_map]

section Fitting

/-! The containers of a written document. -/

open Json (Fits)

theorem fits_list {α : Type} {write : α → Datum} {room : Nat}
    (fits : ∀ element, Fits room (write element)) (elements : List α) :
    Fits (room + 1) (.list (elements.map write)) := by
  refine .list ?_
  rw [List.forall_mem_map]
  exact fun element _ => fits element

theorem fits_source_field {room : Nat} (name : String) (source : Option String) :
    ∀ field ∈ sourceField name source, Fits room field.2 := by
  cases source with
  | none => exact List.forall_mem_nil _
  | some text => exact List.forall_mem_singleton.mpr (.text room text)

variable (room : Nat)

theorem ActionDraft.fits (action : ActionDraft) : Fits (room + 2) action.toDatum := by
  have millisFit (millis : UInt64) : Json.InRange (millis.toNat : Int) := by
    have small := millis.toNat_lt
    exact ⟨by omega, by omega⟩
  cases action with
  | assign target value => exact .record (by simp [Fits.text])
  | print sources => exact .record (by simpa using fits_list (Fits.text room) sources)
  | timeout millis => exact .record (by simpa using Fits.integer (millisFit millis))
  | run command => exact .record (by simp [Fits.text])

theorem AttributeDraft.fits (draft : AttributeDraft) : Fits (room + 1) draft.toDatum := by
  refine .record ?_
  rw [List.forall_mem_append]
  exact ⟨fits_source_field _ _, by simp [Fits.text]⟩

theorem TransitionDraft.fits (draft : TransitionDraft) : Fits (room + 4) draft.toDatum := by
  have actions := fits_list (ActionDraft.fits room) draft.actions
  refine .record ?_
  simp only [List.forall_mem_append, List.forall_mem_cons]
  exact ⟨⟨⟨actions, .text _ _, List.forall_mem_nil _⟩, fits_source_field _ _⟩, .text _ _,
    List.forall_mem_nil _⟩

theorem StateDraft.fits (draft : StateDraft) : Fits (room + 6) draft.toDatum := by
  have entry := fits_list (ActionDraft.fits (room + 2)) draft.entry
  have transitions := fits_list (TransitionDraft.fits room) draft.transitions
  refine .record ?_
  simp only [List.forall_mem_cons]
  exact ⟨entry, .text _ _, transitions, List.forall_mem_nil _⟩

theorem Document.fits (document : Document) : Fits (room + 8) document.toDatum := by
  have attributes := fits_list (AttributeDraft.fits (room + 5)) document.attributes
  have commands := fits_list (Fits.text (room + 6)) document.commands
  have events := fits_list (Fits.text (room + 6)) document.events
  have states := fits_list (StateDraft.fits room) document.states
  refine .record ?_
  simp only [List.forall_mem_cons]
  exact ⟨attributes, commands, events, .text _ _, .text _ _, states, List.forall_mem_nil _⟩

end Fitting

namespace Document

/-- What is said of the data of a written document holds of its text as well: the text reads back as
the document, and the model of the text is that of the document, or its failure. -/
theorem written_text_read_back (document : Document) :
    ofText? .json (Json.compact document.toDatum) = some document ∧
    Machine.ofText .json (Json.compact document.toDatum) = document.resolve := by
  have parsed := Json.parse_compact (document.fits 119)
  have read : ofText? .json (Json.compact document.toDatum) = some document := by
    rw [ofText?, datumOfText?, parsed, Option.bind_some, of_datum_to_datum document]
  refine ⟨read, ?_⟩
  rw [Machine.ofText, read]

/-- A written document reads back as itself, from its data and from their text: so the same model
comes of it, or the same failure. Of the readers of actions only the one of its own kind takes a
written action. -/
theorem written_document_read_back (document : Document) :
    ofDatum? document.toDatum = some document ∧
    ofText? .json (Json.compact document.toDatum) = some document ∧
    (∀ action : ActionDraft, ActionDraft.ofDatum? action.toDatum = some action ∧
      ∃ parts, action.toDatum.pairs? = some parts ∧
        ∀ read? ∈ [ActionDraft.assign?, ActionDraft.print?, ActionDraft.timeout?,
          ActionDraft.run?], ∀ other, read? parts = some other → other = action) ∧
    (∀ format, Machine.ofDocumentDatum format document.toDatum = document.resolve) ∧
    Machine.ofText .json (Json.compact document.toDatum) = document.resolve := by
  obtain ⟨textRead, textResolved⟩ := document.written_text_read_back
  refine ⟨of_datum_to_datum document, textRead, ?_, ?_, textResolved⟩
  · intro action
    exact ⟨ActionDraft.of_datum_to_datum action, action.parts, action.to_datum_parts,
      action.taken_unchanged⟩
  · intro format
    rw [Machine.ofDocumentDatum, of_datum_to_datum document]

end Document

end StateMachine
