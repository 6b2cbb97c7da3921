import StateMachine.Machine.Codec

/-!
A written model reads back as itself. An expression is read in two ways, by itself and as a part of
another record, and its operands only in the second; so the induction over expressions is on what
both have in common, the reading of its fields.
-/

set_option autoImplicit false

namespace StateMachine

namespace Datum

variable {α β : Type}

def ReadsBack (write : α → Datum) (read? : Datum → Option α) : Prop :=
  ∀ element, read? (write element) = some element

theorem ReadsBack.injective {write : α → Datum} {read? : Datum → Option α}
    (reads : ReadsBack write read?) : Function.Injective write := by
  intro first second same
  have readFirst := reads first
  rw [same, reads second] at readFirst
  exact (Option.some.inj readFirst).symm

theorem ReadsBack.listed_map {write : α → Datum} {read? : Datum → Option α}
    (reads : ReadsBack write read?) (elements : List α) :
    listed read? (some (.list (elements.map write))) = some elements := by
  change (elements.map write).mapM read? = some elements
  induction elements with
  | nil => rfl
  | cons element rest readRest =>
      rw [List.map_cons, List.mapM_cons, reads element, readRest]
      rfl

theorem ReadsBack.required {write : α → Datum} {read? : Datum → Option α}
    (reads : ReadsBack write read?) (element : α) :
    Datum.required read? (some (write element)) = some element :=
  reads element

theorem name_text : ReadsBack .text name? := fun _ => rfl

theorem word_text : ReadsBack .text word? := fun _ => rfl

theorem millis_integer :
    ReadsBack (fun millis : UInt64 => .integer (millis.toNat : Int)) millis? := by
  intro millis
  have small := millis.toNat_lt
  rw [millis?, if_pos (by omega), Int.toNat_natCast, UInt64.ofNat_toNat]

end Datum

namespace Expr

/-- An expression's record whose fields assemble to that expression again. -/
def Restores (inner : Bool) (expr : Expr) : Prop :=
  ∃ fields, expr.toDatum = .record fields ∧ ofFields? inner (fieldBranches fields) = some expr

theorem Restores.of_inner {expr : Expr} (restores : expr.Restores true) :
    ofInner? expr.toDatum = some expr := by
  obtain ⟨fields, written, assembled⟩ := restores
  rw [written, ofInner?, assembled]

theorem Restores.of_datum {expr : Expr} (restores : expr.Restores false) :
    ofDatum? expr.toDatum = some expr := by
  obtain ⟨fields, written, assembled⟩ := restores
  rw [written, ofDatum?, assembled]

theorem restores (inner : Bool) (expr : Expr) : expr.Restores inner := by
  induction expr generalizing inner with
  | literal value =>
      refine ⟨_, rfl, ?_⟩
      simp [fieldBranches, ofFields?, ofKind?, kind?, pickNamed?]
  | reference name =>
      refine ⟨_, rfl, ?_⟩
      simp [fieldBranches, ofFields?, ofKind?, kind?, pickNamed?, Datum.name?]
  | binary operator left right leftRestores rightRestores =>
      have leftRead := (leftRestores true).of_inner
      have rightRead := (rightRestores true).of_inner
      refine ⟨_, rfl, ?_⟩
      simp [fieldBranches, ofFields?, ofKind?, kind?, pickNamed?, Datum.innerWord?, Datum.word?,
        leftRead, rightRead]
  | negate operand operandRestores =>
      have operandRead := (operandRestores true).of_inner
      refine ⟨_, rfl, ?_⟩
      simp [fieldBranches, ofFields?, ofKind?, kind?, pickNamed?, operandRead]
  | not operand operandRestores =>
      have operandRead := (operandRestores true).of_inner
      refine ⟨_, rfl, ?_⟩
      simp [fieldBranches, ofFields?, ofKind?, kind?, pickNamed?, operandRead]
  | group body bodyRestores =>
      have bodyRead := (bodyRestores true).of_inner
      refine ⟨_, rfl, ?_⟩
      simp [fieldBranches, ofFields?, ofKind?, kind?, pickNamed?, bodyRead]

theorem of_inner_to_datum : Datum.ReadsBack toDatum ofInner? :=
  fun expr => (restores true expr).of_inner

theorem of_datum_to_datum : Datum.ReadsBack toDatum ofDatum? :=
  fun expr => (restores false expr).of_datum

theorem of_optional_to_datum (expr : Expr) :
    ofOptional? (some expr.toDatum) = some (some expr) := by
  obtain ⟨fields, written, _⟩ := restores false expr
  have read := of_datum_to_datum expr
  rw [written] at read ⊢
  simp [ofOptional?, Datum.optional, read]

end Expr

theorem Printed.of_datum_to_datum : Datum.ReadsBack toDatum ofDatum? := by
  intro part
  cases part with
  | text content => rfl
  | value expr => simp [toDatum, ofDatum?, Expr.of_inner_to_datum expr]

-- The part is a variable here, since next to a number the bound of `millis?` would be unfolded.
theorem Action.of_timeout_record {part : Datum} {millis : UInt64}
    (read : part.millis? = some millis) :
    ofDatum? (.record [("action", .text "timeout"), ("millis", part)]) =
      some (.timeout millis) := by
  simp [ofDatum?, Datum.tagged?, Datum.parts?, pickNamed?, Datum.required, read]

theorem Action.of_datum_to_datum : Datum.ReadsBack toDatum ofDatum? := by
  intro action
  cases action with
  | assign target value =>
      simp [toDatum, ofDatum?, Datum.tagged?, Datum.parts?, pickNamed?, Datum.name_text.required,
        Expr.of_inner_to_datum.required]
  | print parts =>
      simp [toDatum, ofDatum?, Datum.tagged?, Datum.parts?, pickNamed?,
        Printed.of_datum_to_datum.listed_map]
  | timeout millis =>
      exact of_timeout_record (Datum.millis_integer millis)
  | run command =>
      simp [toDatum, ofDatum?, Datum.tagged?, Datum.parts?, pickNamed?,
        Datum.name_text.required]

theorem Attribute.of_datum_to_datum : Datum.ReadsBack toDatum ofDatum? := by
  intro declared
  obtain ⟨name, ty, default⟩ := declared
  cases default with
  | none =>
      simp [toDatum, ofDatum?, optionalField, Datum.parts?, pickNamed?, Datum.name_text.required,
        Datum.word_text.required, Expr.ofOptional?, Datum.optional]
  | some expr =>
      simp [toDatum, ofDatum?, optionalField, Datum.parts?, pickNamed?, Datum.name_text.required,
        Datum.word_text.required, Expr.of_optional_to_datum]

theorem Transition.of_datum_to_datum : Datum.ReadsBack toDatum ofDatum? := by
  intro transition
  obtain ⟨event, guard, target, actions⟩ := transition
  cases guard with
  | none =>
      simp [toDatum, ofDatum?, optionalField, Datum.parts?, pickNamed?, Datum.name_text.required,
        Expr.ofOptional?, Datum.optional, Action.of_datum_to_datum.listed_map]
  | some expr =>
      simp [toDatum, ofDatum?, optionalField, Datum.parts?, pickNamed?, Datum.name_text.required,
        Expr.of_optional_to_datum, Action.of_datum_to_datum.listed_map]

theorem State.of_datum_to_datum : Datum.ReadsBack toDatum ofDatum? := by
  intro state
  simp [toDatum, ofDatum?, Datum.parts?, pickNamed?, Datum.name_text.required,
    Transition.of_datum_to_datum.listed_map, Action.of_datum_to_datum.listed_map]

theorem declaration_of_datum_to_datum :
    Datum.ReadsBack declarationToDatum declarationOfDatum? := by
  intro name
  simp [declarationToDatum, declarationOfDatum?, Datum.parts?, pickNamed?,
    Datum.name_text.required]

namespace Machine

theorem of_datum_to_datum : Datum.ReadsBack toDatum ofDatum? := by
  intro machine
  simp [toDatum, ofDatum?, Datum.parts?, pickNamed?, Datum.name_text.required,
    Attribute.of_datum_to_datum.listed_map, declaration_of_datum_to_datum.listed_map,
    State.of_datum_to_datum.listed_map]

/-- Reading takes back every machine from its written form; so machines that are written alike are
the same, and what has been read from any datum is read again from its own written form. -/
theorem written_form_faithful :
    (∀ machine : Machine, ofDatum? machine.toDatum = some machine) ∧
      (∀ first second : Machine, first.toDatum = second.toDatum → first = second) ∧
      ∀ (datum : Datum) (machine : Machine), ofDatum? datum = some machine →
        ofDatum? machine.toDatum = some machine := by
  refine ⟨of_datum_to_datum, ?_, ?_⟩
  · intro first second same
    exact of_datum_to_datum.injective same
  · intro datum machine _
    exact of_datum_to_datum machine

end Machine

def lockableDoor : Machine where
  name := "door"
  attributes := [⟨"locked", .bool, none⟩]
  events := ["shut"]
  commands := []
  states := [⟨"Open", [⟨"shut", some (.not (.group (.reference "locked"))), "Shut", []⟩], []⟩,
    ⟨"Shut", [], [.timeout 500]⟩]
  initial := "Open"

/-- The door as a hand would write it: empty lists left out, null for no expression, a record as
the list of its parts, and a kind by its number. -/
def handwrittenDoor : Datum :=
  .record [("name", .text "door"), ("initial", .text "Open"),
    ("events", .list [.list [.text "shut"]]),
    ("attributes", .list [.record [("name", .text "locked"), ("default", .null),
      ("type", .record [("bool", .null)])]]),
    ("states", .list [
      .record [("name", .text "Open"), ("transitions", .list [
        .record [("event", .text "shut"), ("target", .text "Shut"),
          ("guard", .record [("kind", .text "not"),
            ("operand", .list [.integer 5, .list [.text "ref", .text "locked"]])])]])],
      .record [("name", .text "Shut"), ("actions", .list [
        .list [.text "timeout", .integer 500]])]])]

theorem handwritten_door_written_faithfully :
    Machine.ofDatum? handwrittenDoor = some lockableDoor ∧
      lockableDoor.toDatum ≠ handwrittenDoor ∧
      Machine.ofDatum? lockableDoor.toDatum = some lockableDoor ∧
      (Machine.ofDatum? handwrittenDoor).get rfl = lockableDoor := by
  have accepted : Machine.ofDatum? handwrittenDoor = some lockableDoor := by rfl
  refine ⟨accepted, by simp [Machine.toDatum, handwrittenDoor], ?_, ?_⟩
  · exact Machine.written_form_faithful.2.2 handwrittenDoor lockableDoor accepted
  · apply Machine.written_form_faithful.2.1
    simp [accepted]

end StateMachine
