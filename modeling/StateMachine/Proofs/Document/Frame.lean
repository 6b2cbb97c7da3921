import Mathlib.Data.List.Basic
import StateMachine.Document.Codec

/-!
Documents with a hole in place of the default of one attribute. What is read around the hole does
not hang on what fills it.
-/

set_option autoImplicit false

namespace StateMachine

section Lists

variable {α β : Type} {read? : α → Option β}

theorem mapM_length {elements : List α} {found : List β} (read : elements.mapM read? = some found) :
    found.length = elements.length := by
  induction elements generalizing found with
  | nil =>
      cases read
      rfl
  | cons element rest induction =>
      simp only [List.mapM_cons, Option.bind_eq_bind, Option.bind_eq_some_iff] at read
      obtain ⟨first, _, others, readRest, ⟨⟩⟩ := read
      rw [List.length_cons, List.length_cons, induction readRest]

theorem mapM_middle_iff {before after : List α} {element : α} {found : List β} :
    (before ++ element :: after).mapM read? = some found ↔
      ∃ left middle right, found = left ++ middle :: right ∧ before.mapM read? = some left ∧
        read? element = some middle ∧ after.mapM read? = some right := by
  simp only [List.mapM_append, List.mapM_cons, Option.bind_eq_bind, Option.bind_eq_some_iff]
  constructor
  · rintro ⟨left, readLeft, _, ⟨middle, readMiddle, right, readRight, ⟨⟩⟩, ⟨⟩⟩
    exact ⟨left, middle, right, rfl, readLeft, readMiddle, readRight⟩
  · rintro ⟨left, middle, right, rfl, readLeft, readMiddle, readRight⟩
    exact ⟨left, readLeft, _, ⟨middle, readMiddle, right, readRight, rfl⟩, rfl⟩

theorem mapM_congr {other? : α → Option β} {elements : List α}
    (same : ∀ element ∈ elements, read? element = other? element) :
    elements.mapM read? = elements.mapM other? := by
  induction elements with
  | nil => rfl
  | cons element rest induction =>
      obtain ⟨here, later⟩ := List.forall_mem_cons.mp same
      rw [List.mapM_cons, List.mapM_cons, here, induction later]

end Lists

section Named

variable {α : Type}

/-- The part of that name; `pickNamed?` looks for the parts one by one. -/
def partNamed? (fields : List (String × α)) (name : String) : Option (Option α) :=
  match fields.filter (fun field => field.1 == name) with
  | [] => some none
  | [field] => some (some field.2)
  | _ => none

theorem pick_named_eq (names : List String) (fields : List (String × α)) :
    pickNamed? names fields = names.mapM (partNamed? fields) := rfl

variable {key : String} {before after : List (String × α)}

theorem part_named_apart {name : String} (apart : key ≠ name) (part : α) :
    partNamed? (before ++ (key, part) :: after) name = partNamed? (before ++ after) name := by
  have skipped : (key == name) = false := beq_eq_false_iff_ne.mpr apart
  simp only [partNamed?, List.filter_append, List.filter_cons, skipped, Bool.false_eq_true,
    if_false]

/-- Whether the part in the hole is the only one of its name can be told from those around it. -/
theorem part_named_here {part : α} {held : Option α}
    (read : partNamed? (before ++ (key, part) :: after) key = some held) :
    held = some part ∧
      ∀ other, partNamed? (before ++ (key, other) :: after) key = some (some other) := by
  simp only [partNamed?, List.filter_append, List.filter_cons, beq_self_eq_true, if_true] at read ⊢
  revert read
  cases before.filter fun field => field.1 == key with
  | nil =>
      cases after.filter fun field => field.1 == key with
      | nil =>
          rintro ⟨⟩
          exact ⟨rfl, fun _ => rfl⟩
      | cons again rest =>
          intro read
          cases read
  | cons again rest =>
      intro read
      cases rest <;> cases read

end Named

/-- A record with a hole for its part called `key`, written by names or by places. The parts called
`front` come before it in a list of places. -/
inductive RecordFrame (front : List String) (key : String) where
  | named (before after : List (String × Datum))
  | placed (before after : List Datum) (aligned : before.length = front.length)

namespace RecordFrame

variable {front back : List String} {key : String}

def fill : RecordFrame front key → Datum → Datum
  | .named before after, part => .record (before ++ (key, part) :: after)
  | .placed before after _, part => .list (before ++ part :: after)

theorem pick_placed_refilled {before after : List Datum} (aligned : before.length = front.length)
    {part : Datum} {found : List (Option Datum)}
    (read : pickPlaced? (front ++ key :: back) (before ++ part :: after) = some found) :
    found[front.length]? = some (some part) ∧
      ∀ other, pickPlaced? (front ++ key :: back) (before ++ other :: after) =
        some (found.set front.length (some other)) := by
  induction front generalizing before found with
  | nil =>
      obtain rfl := List.eq_nil_of_length_eq_zero aligned
      obtain ⟨right, readRight, rfl⟩ := Option.map_eq_some_iff.mp read
      exact ⟨rfl, fun other => Option.map_eq_some_iff.mpr ⟨right, readRight, rfl⟩⟩
  | cons name front induction =>
      obtain ⟨item, before, rfl⟩ := List.exists_cons_of_length_eq_add_one aligned
      obtain ⟨others, readOthers, rfl⟩ := Option.map_eq_some_iff.mp read
      obtain ⟨held, refilled⟩ := induction (Nat.succ.inj aligned) readOthers
      exact ⟨held, fun other => Option.map_eq_some_iff.mpr ⟨_, refilled other, rfl⟩⟩

theorem pick_named_refilled {before after : List (String × Datum)} (fresh : key ∉ front ++ back)
    {part : Datum} {found : List (Option Datum)}
    (read : pickNamed? (front ++ key :: back) (before ++ (key, part) :: after) = some found) :
    found[front.length]? = some (some part) ∧
      ∀ other, pickNamed? (front ++ key :: back) (before ++ (key, other) :: after) =
        some (found.set front.length (some other)) := by
  simp only [pick_named_eq, mapM_middle_iff] at read ⊢
  obtain ⟨left, middle, right, rfl, readLeft, readMiddle, readRight⟩ := read
  obtain ⟨rfl, refilled⟩ := part_named_here readMiddle
  rw [← mapM_length readLeft]
  refine ⟨by simp, fun other => ?_⟩
  have around {names : List String} (apart : key ∉ names) :
      names.mapM (partNamed? (before ++ (key, other) :: after)) =
        names.mapM (partNamed? (before ++ (key, part) :: after)) := by
    apply mapM_congr
    intro name member
    have differs : key ≠ name := fun same => apart (same ▸ member)
    rw [part_named_apart differs, part_named_apart differs]
  rw [List.mem_append, not_or] at fresh
  rw [around fresh.1, around fresh.2]
  exact ⟨left, some other, right, by simp, readLeft, refilled other, readRight⟩

/-- Another part in the hole changes that part of the reading, and no other. -/
theorem parts_refilled (frame : RecordFrame front key) (back : List String)
    (fresh : key ∉ front ++ back) {part : Datum} {found : List (Option Datum)}
    (read : (frame.fill part).parts? (front ++ key :: back) = some found) :
    found[front.length]? = some (some part) ∧
      ∀ other, (frame.fill other).parts? (front ++ key :: back) =
        some (found.set front.length (some other)) := by
  cases frame with
  | named before after => exact pick_named_refilled fresh read
  | placed before after aligned => exact pick_placed_refilled aligned read

end RecordFrame

abbrev AttributeFrame := RecordFrame ["name", "type"] "default"

/-- Null in the hole is no default, and an integer there stands for its text. -/
theorem AttributeFrame.draft_refilled {frame : AttributeFrame} {draft : AttributeDraft}
    (read : AttributeDraft.ofDatum? (frame.fill .null) = some draft) :
    draft.default = none ∧ ∀ number, AttributeDraft.ofDatum? (frame.fill (.integer number)) =
      some { draft with default := some (toString number) } := by
  unfold AttributeDraft.ofDatum? at read ⊢
  obtain ⟨parts, readParts, readRest⟩ := Option.bind_eq_some_iff.mp read
  split at readRest
  · next name ty default =>
      obtain ⟨held, refilled⟩ := frame.parts_refilled [] (by decide) readParts
      obtain rfl : default = some .null := Option.some.inj held
      obtain ⟨readName, nameRead, readRest⟩ := Option.bind_eq_some_iff.mp readRest
      obtain ⟨readTy, tyRead, ⟨⟩⟩ := Option.bind_eq_some_iff.mp readRest
      refine ⟨rfl, fun number => ?_⟩
      have parts : (frame.fill (.integer number)).parts? ["name", "type", "default"] =
          some [name, ty, some (.integer number)] := refilled _
      simp only [parts, Option.bind_eq_bind, Option.bind_some, nameRead, tyRead]
      rfl
  · cases readRest

structure DocumentFrame where
  outside : RecordFrame ["name", "events", "commands"] "attributes"
  earlier : List Datum
  owner : AttributeFrame
  later : List Datum

namespace DocumentFrame

def fill (frame : DocumentFrame) (default : Datum) : Datum :=
  frame.outside.fill (.list (frame.earlier ++ frame.owner.fill default :: frame.later))

theorem document_refilled {frame : DocumentFrame} {document : Document}
    (read : Document.ofDatum? (frame.fill .null) = some document) :
    ∃ earlier owner later, document.attributes = earlier ++ owner :: later ∧
      earlier.length = frame.earlier.length ∧ owner.default = none ∧
      ∀ number, Document.ofDatum? (frame.fill (.integer number)) = some { document with
        attributes := earlier ++ { owner with default := some (toString number) } :: later } := by
  unfold Document.ofDatum? at read ⊢
  obtain ⟨parts, readParts, readRest⟩ := Option.bind_eq_some_iff.mp read
  split at readRest
  · next name events commands attributes initial states =>
      obtain ⟨held, refilled⟩ :=
        frame.outside.parts_refilled ["initial", "states"] (by decide) readParts
      obtain rfl := Option.some.inj held
      split at readRest
      · next listedStates =>
          obtain ⟨readName, nameRead, readRest⟩ := Option.bind_eq_some_iff.mp readRest
          obtain ⟨readEvents, eventsRead, readRest⟩ := Option.bind_eq_some_iff.mp readRest
          obtain ⟨readCommands, commandsRead, readRest⟩ := Option.bind_eq_some_iff.mp readRest
          obtain ⟨drafts, draftsRead, readRest⟩ := Option.bind_eq_some_iff.mp readRest
          obtain ⟨readInitial, initialRead, readRest⟩ := Option.bind_eq_some_iff.mp readRest
          obtain ⟨readStates, statesRead, ⟨⟩⟩ := Option.bind_eq_some_iff.mp readRest
          obtain ⟨earlier, owner, later, rfl, readEarlier, readOwner, readLater⟩ :=
            mapM_middle_iff.mp draftsRead
          obtain ⟨absent, draftRefilled⟩ := AttributeFrame.draft_refilled readOwner
          refine ⟨earlier, owner, later, rfl, mapM_length readEarlier, absent, fun number => ?_⟩
          have parts : (frame.fill (.integer number)).parts?
              ["name", "events", "commands", "attributes", "initial", "states"] = _ := refilled _
          have drafts : Datum.listed AttributeDraft.ofDatum? (some (.list (frame.earlier ++
              frame.owner.fill (.integer number) :: frame.later))) = _ :=
            mapM_middle_iff.mpr
              ⟨earlier, _, later, rfl, readEarlier, draftRefilled number, readLater⟩
          simp only [parts, List.set, List.length, Option.bind_eq_bind, Option.bind_some, nameRead,
            eventsRead, commandsRead, drafts, initialRead, statesRead]
          rfl
      · cases readRest
  · cases readRest

end DocumentFrame

end StateMachine
