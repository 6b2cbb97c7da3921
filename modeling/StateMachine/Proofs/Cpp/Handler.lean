import Mathlib.Data.List.Basic
import StateMachine.Proofs.Cpp.Program
import StateMachine.Proofs.Text.Line

/-!
Reading the handlers back from the text of a program, line by line: a handler starts at a line that
heads a method outside its class, its guard is on the next line, and its body runs up to the line
that moves on to the target. Every other line is passed over.
-/

set_option autoImplicit false

namespace StateMachine.Cpp

open Text

def between? (opening closing : String) (line : List Char) : Option (List Char) :=
  (opening.toList.isPrefixOf? line).bind fun rest => closing.toList.isSuffixOf? rest

def splitScope? : List Char → Option (List Char × List Char)
  | [] => none
  | ':' :: ':' :: name => some ([], name)
  | character :: rest => (splitScope? rest).map fun (scope, name) => (character :: scope, name)

/-- The state and the event of a line that starts a handler. -/
def heading? (line : List Char) : Option (String × String) := do
  let signature ← between? "void " "() \x7b" line
  let (state, event) ← splitScope? signature
  return (String.ofList state, String.ofList event)

def condition? (line : List Char) : Option String :=
  (between? "if (" ") \x7b" line).map String.ofList

def target? (line : List Char) : Option String :=
  (between? "statemachine->transition_to(new " ");" line).map String.ofList

inductive Position where
  | outside
  | headed (state event : String)
  | inside (state event guard : String) (body : List String)
deriving DecidableEq, Repr

/-- Reads on from a position. A text that ends within a handler is refused. -/
def readFrom : Position → List (List Char) → Option (List Handler)
  | .outside, [] => some []
  | .outside, line :: rest =>
      match heading? line with
      | none => readFrom .outside rest
      | some (state, event) => readFrom (.headed state event) rest
  | .headed state event, line :: rest => do
      let guard ← condition? line
      readFrom (.inside state event guard []) rest
  | .inside state event guard body, line :: rest =>
      match target? line with
      | none => readFrom (.inside state event guard (body ++ [String.ofList line])) rest
      | some target => do
          let handlers ← readFrom .outside rest
          return ⟨state, event, guard, body, target⟩ :: handlers
  | _, [] => none

/-- The handlers of a program text. White space around a line does not count. -/
def readHandlers? (text : String) : Option (List Handler) :=
  readFrom .outside ((Text.lines '\n' text.toList).map Text.trim)

theorem between_eq_some_iff {opening closing : String} {line middle : List Char} :
    between? opening closing line = some middle ↔
      line = opening.toList ++ middle ++ closing.toList := by
  simp only [between?, Option.bind_eq_some_iff, List.isPrefixOf?_eq_some_iff_append_eq,
    List.isSuffixOf?_eq_some_iff_append_eq]
  constructor
  · rintro ⟨rest, rfl, rfl⟩
    rw [List.append_assoc]
  · rintro rfl
    exact ⟨middle ++ closing.toList, by rw [List.append_assoc], rfl⟩

theorem between_append (opening middle closing : String) :
    between? opening closing (opening ++ middle ++ closing).toList = some middle.toList := by
  rw [between_eq_some_iff, String.toList_append, String.toList_append]

theorem split_scope_append {scope : List Char} (name : List Char) (plain : ':' ∉ scope) :
    splitScope? (scope ++ ':' :: ':' :: name) = some (scope, name) := by
  induction scope with
  | nil => rfl
  | cons first rest induction =>
      have other : first ≠ ':' := by
        rintro rfl
        exact plain List.mem_cons_self
      have recursive := induction fun member => plain (List.mem_cons_of_mem _ member)
      rw [List.cons_append, splitScope?, recursive]
      · rfl
      · rintro tail rfl
        exact absurd rfl other

theorem split_scope_eq_none {signature : List Char} (plain : ':' ∉ signature) :
    splitScope? signature = none := by
  induction signature with
  | nil => rfl
  | cons first rest induction =>
      have other : first ≠ ':' := by
        rintro rfl
        exact plain List.mem_cons_self
      have recursive := induction fun member => plain (List.mem_cons_of_mem _ member)
      rw [splitScope?, recursive]
      · rfl
      · rintro tail rfl
        exact absurd rfl other

theorem heading_begins {line : List Char} {found : String × String}
    (headed : heading? line = some found) : "void ".toList <+: line := by
  simp only [heading?, Option.bind_eq_bind, Option.bind_eq_some_iff] at headed
  obtain ⟨signature, parts, _⟩ := headed
  rw [between_eq_some_iff] at parts
  rw [parts, List.append_assoc]
  exact List.prefix_append _ _

structure Inert (text : String) : Prop where
  single : Lacks '\n' text
  plain : heading? (trim text.toList) = none

instance (text : String) : Decidable (Inert text) :=
  decidable_of_iff (Lacks '\n' text ∧ heading? (trim text.toList) = none)
    ⟨fun both => ⟨both.1, both.2⟩, fun inert => ⟨inert.single, inert.plain⟩⟩

structure Apart (text : String) : Prop where
  single : Lacks '\n' text
  begins : ∃ first, Begins first text ∧ isWhite first = false ∧ first ≠ 'v'

theorem apart_literal {first : Char} {rest : List Char}
    (fixed : '\n' ∉ first :: rest ∧ isWhite first = false ∧ first ≠ 'v') :
    Apart (String.ofList (first :: rest)) :=
  ⟨lacks_literal fixed.1, first, begins_literal first rest, fixed.2⟩

theorem Apart.append {text rest : String} (apart : Apart text) (single : Lacks '\n' rest) :
    Apart (text ++ rest) := by
  obtain ⟨first, begins, solid⟩ := apart.begins
  exact ⟨lacks_append.mpr ⟨apart.single, single⟩, first, begins.append rest, solid⟩

theorem Apart.inert {text : String} (apart : Apart text) : Inert text := by
  refine ⟨apart.single, ?_⟩
  rw [Option.eq_none_iff_forall_ne_some]
  intro found headed
  obtain ⟨first, begins, solid, other⟩ := apart.begins
  have kept : trim text.toList <+: text.toList := by
    apply trim_begins
    rw [begins]
    rintro initial ⟨⟩
    exact solid
  obtain ⟨rest, whole⟩ := (heading_begins headed).trans kept
  rw [Begins, ← whole] at begins
  cases begins
  exact other rfl

structure Unscoped (text : String) : Prop where
  single : Lacks '\n' text
  plain : Lacks ':' text

theorem unscoped_literal {characters : List Char}
    (fixed : '\n' ∉ characters ∧ ':' ∉ characters) : Unscoped (String.ofList characters) :=
  ⟨lacks_literal fixed.1, lacks_literal fixed.2⟩

theorem Unscoped.append {text rest : String} (first : Unscoped text) (second : Unscoped rest) :
    Unscoped (text ++ rest) :=
  ⟨lacks_append.mpr ⟨first.single, second.single⟩, lacks_append.mpr ⟨first.plain, second.plain⟩⟩

/-- A name between two parts that are written out. -/
theorem Unscoped.between {name : String} (named : Unscoped name) {before after : List Char}
    (fixed : '\n' ∉ before ++ after ∧ ':' ∉ before ++ after) :
    Unscoped (String.ofList before ++ name ++ String.ofList after) := by
  obtain ⟨single, plain⟩ := fixed
  rw [List.mem_append, not_or] at single plain
  have opening : Unscoped (String.ofList before) := unscoped_literal ⟨single.1, plain.1⟩
  have closing : Unscoped (String.ofList after) := unscoped_literal ⟨single.2, plain.2⟩
  exact (opening.append named).append closing

theorem Unscoped.inert {text : String} (unscoped : Unscoped text) : Inert text := by
  refine ⟨unscoped.single, ?_⟩
  rw [Option.eq_none_iff_forall_ne_some]
  intro found headed
  simp only [heading?, Option.bind_eq_bind, Option.bind_eq_some_iff] at headed
  obtain ⟨signature, parts, names, split, _⟩ := headed
  rw [between_eq_some_iff] at parts
  have colon : ':' ∈ signature := by
    apply Decidable.byContradiction
    intro plain
    rw [split_scope_eq_none plain] at split
    cases split
  apply unscoped.plain
  apply trim_subset
  rw [parts]
  exact List.mem_append_left _ (List.mem_append_right _ colon)

theorem Apart.opened {heading : String} (apart : Apart heading) : Inert (heading ++ " \x7b") :=
  (apart.append (lacks_literal (by decide))).inert

theorem Unscoped.opened {heading : String} (unscoped : Unscoped heading) :
    Inert (heading ++ " \x7b") :=
  (unscoped.append (unscoped_literal (by decide))).inert

namespace Row

def Single : Row → Prop
  | .blank => True
  | .line _ text => Lacks '\n' text

def Inert : Row → Prop
  | .blank => True
  | .line _ text => Cpp.Inert text

instance : (row : Row) → Decidable row.Inert
  | .blank => isTrue trivial
  | .line _ text => inferInstanceAs (Decidable (Cpp.Inert text))

theorem line_single {text : String} : (Cpp.line text).Single ↔ Lacks '\n' text := Iff.rfl

def trimmed : Row → List Char
  | .blank => []
  | .line _ text => trim text.toList

theorem trim_text (row : Row) : trim row.text.toList = row.trimmed := by
  cases row with
  | blank => rfl
  | line depth text =>
      rw [Row.text, String.toList_append, String.toList_ofList, trim_indented]
      rfl

theorem text_single {row : Row} (single : row.Single) : '\n' ∉ row.text.toList := by
  cases row with
  | blank => simp [Row.text]
  | line depth text =>
      rw [Row.text, String.toList_append, String.toList_ofList, List.mem_append, not_or]
      refine ⟨?_, single⟩
      intro member
      cases List.eq_of_mem_replicate member

@[simp] theorem deeper_trimmed (row : Row) : row.deeper.trimmed = row.trimmed := by
  cases row <;> rfl

@[simp] theorem deeper_single (row : Row) : row.deeper.Single ↔ row.Single := by
  cases row <;> rfl

@[simp] theorem deeper_inert (row : Row) : row.deeper.Inert ↔ row.Inert := by
  cases row <;> rfl

theorem Inert.single {row : Row} (inert : row.Inert) : row.Single := by
  cases row with
  | blank => trivial
  | line depth text => exact Cpp.Inert.single inert

end Row

theorem lines_of_rows {rows : List Row} (single : ∀ row ∈ rows, row.Single) :
    (Text.lines '\n' (rowsText rows).toList).map trim = rows.map Row.trimmed := by
  have lines : Text.lines '\n' (rowsText rows).toList = rows.map fun row => row.text.toList := by
    have joined : (rowsText rows).toList =
        (rows.map fun row => row.text.toList).flatMap (· ++ ['\n']) := by
      rw [rowsText, String.toList_join, List.flatMap_map, List.flatMap_map]
      exact congrArg (rows.flatMap ·) (funext fun row => String.toList_append)
    rw [joined]
    apply Text.lines_of_terminated
    intro row member
    obtain ⟨written, written_mem, rfl⟩ := List.mem_map.mp member
    exact Row.text_single (single written written_mem)
  rw [lines, List.map_map]
  exact List.map_congr_left fun row _ => row.trim_text

theorem read_handlers_of_rows {rows : List Row} (single : ∀ row ∈ rows, row.Single) :
    readHandlers? (rowsText rows) = readFrom .outside (rows.map Row.trimmed) := by
  rw [readHandlers?, lines_of_rows single]

def Quiet (rows : List Row) : Prop := ∀ row ∈ rows, row.Inert

instance (rows : List Row) : Decidable (Quiet rows) :=
  inferInstanceAs (Decidable (∀ row ∈ rows, row.Inert))

theorem read_from_quiet {rows : List Row} (quiet : Quiet rows) (rest : List (List Char)) :
    readFrom .outside (rows.map Row.trimmed ++ rest) = readFrom .outside rest := by
  induction rows with
  | nil => rfl
  | cons row others induction =>
      have plain : heading? row.trimmed = none := by
        have inert := quiet row List.mem_cons_self
        cases row with
        | blank => rfl
        | line depth text => exact inert.plain
      rw [List.map_cons, List.cons_append, readFrom, plain]
      exact induction fun other member => quiet other (List.mem_cons_of_mem _ member)

@[simp] theorem quiet_nil : Quiet [] := by simp [Quiet]

@[simp] theorem quiet_cons {row : Row} {rows : List Row} :
    Quiet (row :: rows) ↔ row.Inert ∧ Quiet rows := List.forall_mem_cons

@[simp] theorem quiet_append {first second : List Row} :
    Quiet (first ++ second) ↔ Quiet first ∧ Quiet second := List.forall_mem_append

@[simp] theorem quiet_deeper {rows : List Row} : Quiet (deeper rows) ↔ Quiet rows := by
  simp [Quiet, deeper]

@[simp] theorem quiet_flat {texts : List String} : Quiet (flat texts) ↔ ∀ text ∈ texts, Inert text := by
  simp [Quiet, flat, line, Row.Inert]

theorem quiet_line {text : String} : Quiet [line text] ↔ Inert text := by
  simp [line, Row.Inert]

theorem quiet_line_cons {text : String} {rows : List Row} :
    Quiet (line text :: rows) ↔ Inert text ∧ Quiet rows := quiet_cons

theorem quiet_flat_map {α : Type} {rows : α → List Row} {elements : List α} :
    Quiet (elements.flatMap rows) ↔ ∀ element ∈ elements, Quiet (rows element) := by
  simp only [Quiet, List.mem_flatMap]
  constructor
  · intro quiet element member row rowMember
    exact quiet row ⟨element, member, rowMember⟩
  · rintro quiet row ⟨element, member, rowMember⟩
    exact quiet element member row rowMember

theorem quiet_spaced {parts : List (List Row)} :
    Quiet (spaced parts) ↔ ∀ part ∈ parts, Quiet part := by
  induction parts with
  | nil => simp [spaced]
  | cons part others induction =>
      by_cases more : others = []
      · subst more
        simp
      · rw [spaced_cons more, quiet_append, quiet_cons, induction, List.forall_mem_cons]
        simp [Row.Inert]

theorem quiet_braced {heading closing : String} {body : List Row} :
    Quiet (braced heading body closing) ↔
      Inert (heading ++ " \x7b") ∧ Quiet body ∧ Inert ("\x7d" ++ closing) := by
  simp [braced, line, Row.Inert]

theorem trimmed_deeper (rows : List Row) : (deeper rows).map Row.trimmed = rows.map Row.trimmed := by
  rw [deeper, List.map_map]
  exact List.map_congr_left fun row _ => row.deeper_trimmed

/-- A fixed beginning and a fixed end keep white space away from what is between them. -/
theorem between_trimmed {first last : Char} {opening closing : String} (middle : String)
    (begins : Begins first opening) (ends : Ends last closing)
    (solid : isWhite first = false ∧ isWhite last = false) :
    between? opening closing (trim (opening ++ middle ++ closing).toList) = some middle.toList := by
  rw [trim_closed ((begins.append middle).append closing) (ends.prepend (opening ++ middle)) solid,
    between_append]

structure IsStatement (text : String) : Prop where
  single : Lacks '\n' text
  begins : Begins 's' text
  ends : Ends ';' text
  stays : target? text.toList = none

theorem IsStatement.inert {text : String} (statement : IsStatement text) : Inert text :=
  Apart.inert ⟨statement.single, 's', statement.begins, by decide⟩

theorem read_from_body {body : List String} (statements : ∀ text ∈ body, IsStatement text)
    (state event guard : String) (before : List String) (rest : List (List Char)) :
    readFrom (.inside state event guard before) ((flat body).map Row.trimmed ++ rest) =
      readFrom (.inside state event guard (before ++ body)) rest := by
  -- What was read before grows by each statement that leaves the text.
  induction body generalizing before with
  | nil => rw [List.append_nil]; rfl
  | cons text others induction =>
      have statement := statements text List.mem_cons_self
      have trimmed : (line text).trimmed = text.toList :=
        trim_closed statement.begins statement.ends (by decide)
      have later := induction fun other member => statements other (List.mem_cons_of_mem _ member)
      rw [flat, List.map_cons, List.map_cons, List.cons_append, readFrom, trimmed, statement.stays]
      simp only [String.ofList_toList]
      rw [← flat, later, List.append_assoc, List.singleton_append]

structure Handler.Readable (handler : Handler) : Prop where
  state : Lacks '\n' handler.state
  unscoped : Lacks ':' handler.state
  event : Lacks '\n' handler.event
  guard : Lacks '\n' handler.guard
  body : ∀ text ∈ handler.body, IsStatement text
  target : Lacks '\n' handler.target

theorem heading_of_names {state : String} (event : String) (unscoped : Lacks ':' state) :
    heading? (trim ("void " ++ (state ++ "::" ++ event) ++ "() \x7b").toList) =
      some (state, event) := by
  have begins : Begins 'v' "void " := begins_literal _ _
  have ends : Ends '\x7b' "() \x7b" := ends_literal (by decide)
  have signature := between_trimmed (state ++ "::" ++ event) begins ends (by decide)
  have names : splitScope? (state ++ "::" ++ event).toList = some (state.toList, event.toList) := by
    simpa using split_scope_append event.toList unscoped
  simp only [heading?, signature, Option.bind_eq_bind, Option.bind_some, names, String.ofList_toList]
  rfl

theorem condition_of_guard (guard : String) :
    condition? (trim ("if (" ++ guard ++ ") \x7b").toList) = some guard := by
  have begins : Begins 'i' "if (" := begins_literal _ _
  have ends : Ends '\x7b' ") \x7b" := ends_literal (by decide)
  rw [condition?, between_trimmed guard begins ends (by decide), Option.map_some,
    String.ofList_toList]

theorem target_of_name (target : String) :
    target? (trim ("statemachine->transition_to(new " ++ target ++ ");").toList) = some target := by
  have begins : Begins 's' "statemachine->transition_to(new " := begins_literal _ _
  have ends : Ends ';' ");" := ends_literal (by decide)
  rw [target?, between_trimmed target begins ends (by decide), Option.map_some,
    String.ofList_toList]

def handlerEnd : List Row :=
  braced "\x7d else" [line "std::cout << \"Transition not allowed.\" << std::endl;"] "" ++
    [line "\x7d"]

theorem handler_trimmed (handler : Handler) :
    handler.rows.map Row.trimmed =
      trim ("void " ++ (handler.state ++ "::" ++ handler.event) ++ "() \x7b").toList ::
        trim ("if (" ++ handler.guard ++ ") \x7b").toList ::
          ((flat handler.body).map Row.trimmed ++
            trim ("statemachine->transition_to(new " ++ handler.target ++ ");").toList ::
              handlerEnd.map Row.trimmed) := by
  have heading : "void " ++ handler.state ++ "::" ++ handler.event ++ "()" ++ " \x7b" =
      "void " ++ (handler.state ++ "::" ++ handler.event) ++ "() \x7b" := by
    simp only [String.append_assoc]
    rfl
  simp only [Handler.rows, braced, heading, List.cons_append, List.map_cons, List.map_append,
    trimmed_deeper, handlerEnd, List.append_assoc]
  rfl

theorem read_from_handler {handler : Handler} (readable : handler.Readable)
    (rest : List (List Char)) :
    readFrom .outside (handler.rows.map Row.trimmed ++ rest) =
      (readFrom .outside rest).map (handler :: ·) := by
  have quietEnd : Quiet handlerEnd := by
    rw [handlerEnd, quiet_append, quiet_braced, quiet_line, quiet_line]
    have opening : Apart "\x7d else" := apart_literal (by decide)
    exact ⟨⟨opening.opened, (apart_literal (by decide)).inert, by decide⟩, by decide⟩
  rw [handler_trimmed, List.cons_append, List.cons_append, List.append_assoc, List.cons_append,
    readFrom, heading_of_names handler.event readable.unscoped]
  simp only [readFrom, condition_of_guard, Option.bind_eq_bind, Option.bind_some]
  rw [read_from_body readable.body, readFrom, target_of_name, read_from_quiet quietEnd]
  cases readFrom .outside rest <;> rfl

theorem Handler.Readable.rows_single {handler : Handler} (readable : handler.Readable) :
    ∀ row ∈ handler.rows, row.Single := by
  have body : ∀ text ∈ handler.body, Lacks '\n' text := fun text member =>
    (readable.body text member).single
  simp only [Handler.rows, braced, deeper, flat, List.forall_mem_cons, List.forall_mem_append,
    List.forall_mem_map, Row.deeper_single, Row.line_single, List.not_mem_nil, false_implies,
    implies_true, and_true, lacks_append, readable.state, readable.event, readable.guard,
    readable.target]
  and_intros <;> first | exact body | exact lacks_literal (by decide)

end StateMachine.Cpp
