import Mathlib.Data.List.Nodup
import StateMachine.Proofs.Cpp.Inventory
import StateMachine.Proofs.Cpp.Scope
import StateMachine.Proofs.Validation.Reference

/-!
A generated program is closed: the states that it makes have a class, the handlers that a class
declares are defined, and every event that is handled has its place in the common parent, in the
context class and in the table of the main function. All of it is said about the lines of the text.
-/

set_option autoImplicit false

namespace StateMachine

open Text

/-- The declared names are identifiers, but for commands. -/
structure Machine.DeclaresIdentifiers (machine : Machine) : Prop where
  own : Identifier machine.name
  states : ∀ state ∈ machine.states, Identifier state.name
  events : ∀ event ∈ machine.events, Identifier event
  attributes : ∀ owner ∈ machine.attributes, Identifier owner.name

/-- In a model without errors the mentioned names are declared ones. -/
theorem Machine.DeclaresIdentifiers.mentioned {machine : Machine}
    (named : machine.DeclaresIdentifiers) (accepted : hasErrors machine.diagnostics = false) :
    machine.NamesAreIdentifiers := by
  refine ⟨named.own, named.states, named.events, named.attributes, ?_⟩
  rintro ⟨kind, name, site⟩ member other
  have declared := Machine.declares_of_no_errors accepted _ member
  cases kind with
  | event => exact named.events name (List.contains_iff_mem.mp declared)
  | state =>
      obtain ⟨state, inStates, rfl⟩ :=
        List.mem_map.mp (Machine.state_named_iff_mem.mp (Option.isSome_iff_exists.mp declared))
      exact named.states state inStates
  | owner =>
      obtain ⟨owner, inAttributes, rfl⟩ :=
        List.mem_map.mp (Machine.declares_owner_iff.mp declared)
      exact named.attributes owner inAttributes
  | command => exact absurd rfl other

namespace Cpp

def trimmedLines (text : String) : List (List Char) := (Text.lines '\n' text.toList).map trim

def classLine (state : String) : String := "class " ++ state ++ " : public State \x7b"

def moveLine (target : String) : String := "statemachine->transition_to(new " ++ target ++ ");"

def launchLine (machine initial : String) : String :=
  machine ++ " *statemachine = new " ++ machine ++ "(new " ++ initial ++ ");"

def baseLine (event : String) : String := "virtual void " ++ event ++ "() \x7b"

def forwardLine (event : String) : String := "void " ++ event ++ "() \x7b"

def callLine (event : String) : String := "state->" ++ event ++ "();"

def entryKey (event : String) : String := "event_by_name[\"" ++ event ++ "\"]"

def entryLine (machine event : String) : String :=
  entryKey event ++ " = &" ++ machine ++ "::" ++ event ++ ";"

def override? (line : List Char) : Option String :=
  (between? "void " "() override;" line).map String.ofList

def classBody (state : String) (lines : List (List Char)) : List (List Char) :=
  ((lines.dropWhile (· != (classLine state).toList)).drop 1).takeWhile (· != "\x7d;".toList)

/-- The event has one handler in the common parent, one method that passes it on to the current
state, and one entry in the table of events. -/
structure Served (machine event : String) (lines : List (List Char)) : Prop where
  base : lines.count (baseLine event).toList = 1
  forward : lines.count (forwardLine event).toList = 1
  passed_on : [(forwardLine event).toList, (callLine event).toList] <:+: lines
  entered : lines.filter (entryKey event).toList.isPrefixOf = [(entryLine machine event).toList]

/-- What the lines use by name is there once. -/
structure Closed (machine : String) (lines : List (List Char)) : Prop where
  launched : ∃ initial, (launchLine machine initial).toList ∈ lines
  states : ∀ state, (moveLine state).toList ∈ lines ∨ (launchLine machine state).toList ∈ lines →
    lines.count (classLine state).toList = 1
  /-- A class declares the handlers that are defined for its state, in the same order. -/
  handlers : ∀ state, (classBody state lines).filterMap override? =
    ((lines.filterMap heading?).filter fun defined => defined.1 == state).map Prod.snd
  events : ∀ event, event ∈ lines.filterMap override? ∨
      event ∈ (lines.filterMap heading?).map Prod.snd →
    Served machine event lines

theorem class_line (state : String) : classLine state =
    Mark.heading.word.getD "" ++ Mark.heading.opening ++ (state ++ Mark.heading.closing) :=
  String.append_assoc

theorem move_line (target : String) : moveLine target =
    Mark.move.word.getD "" ++ Mark.move.opening ++ (target ++ Mark.move.closing) :=
  String.append_assoc

theorem base_line (event : String) : baseLine event =
    Mark.base.word.getD "" ++ Mark.base.opening ++ (event ++ Mark.base.closing) :=
  String.append_assoc

theorem forward_line (event : String) : forwardLine event =
    Mark.method.word.getD "" ++ Mark.method.opening ++ (event ++ Mark.method.closing) :=
  String.append_assoc

theorem rows_of_program_single {machine : Machine} (named : machine.NamesAreIdentifiers)
    {initial : State} (declared : initial ∈ machine.states) (values : List Value) :
    ∀ row ∈ (assembled machine initial values).rows, row.Single := by
  have before := quiet_declarations named values
  have after := quiet_closing named declared
  rw [assembled_rows]
  simp only [List.forall_mem_append]
  exact ⟨fun row member => (before row member).single, table_single named,
    fun row member => (after row member).single⟩

def scoped? (signature : List Char) : Option (String × String) :=
  (splitScope? signature).map fun names => (String.ofList names.1, String.ofList names.2)

theorem read_definitions (lines : List (List Char)) :
    lines.filterMap heading? = (lines.filterMap Mark.method.read?).filterMap scoped? := by
  rw [List.filterMap_filterMap]
  apply List.filterMap_congr
  intro line _
  rw [method_read]
  cases signed : between? "void " "() \x7b" line with
  | none => simp only [heading?, signed, Option.bind_eq_bind, Option.bind_none]
  | some signature =>
      simp only [heading?, signed, Option.bind_eq_bind, Option.bind_some, scoped?]
      cases splitScope? signature <;> rfl

theorem read_declarations (lines : List (List Char)) :
    lines.filterMap override? = (lines.filterMap Mark.override.read?).map String.ofList := by
  rw [List.map_filterMap]
  apply List.filterMap_congr
  intro line _
  rw [override_read]
  rfl

section

variable {machine : Machine} (named : machine.NamesAreIdentifiers)

include named

theorem definitions_of_names (initial : State) :
    (Mark.method.names machine initial).filterMap scoped? =
      machine.states.flatMap fun state => state.handled.map fun transition =>
        (state.name, transition.event) := by
  have methods : (machine.events.map String.toList).filterMap scoped? = [] := by
    rw [List.filterMap_eq_nil_iff, List.forall_mem_map]
    intro event member
    have plain := (named.events event member).unscoped.plain
    rw [scoped?, split_scope_eq_none plain, Option.map_none]
  rw [Mark.names, List.filterMap_append, methods, List.nil_append, List.filterMap_flatMap]
  apply List.flatMap_congr
  intro state member
  have plain := (named.states state member).unscoped.plain
  rw [List.filterMap_map, ← List.filterMap_eq_map]
  apply List.filterMap_congr
  intro transition _
  have split := split_scope_append transition.event.toList plain
  simp [scoped?, split]

end

/-- A name among different ones is read once. -/
theorem count_once {names : List String} (distinct : names.Nodup) {name : String}
    (member : name ∈ names) : (names.map String.toList).count name.toList = 1 := by
  have injective : Function.Injective String.toList := fun _ _ => String.toList_inj.mp
  exact List.count_eq_one_of_mem (List.Nodup.map injective distinct) (List.mem_map_of_mem member)

theorem class_body_of_split {state : String} {before body : List (List Char)}
    (fresh : (classLine state).toList ∉ before) (unclosed : "\x7d;".toList ∉ body)
    (after : List (List Char)) :
    classBody state (before ++ (classLine state).toList :: (body ++ "\x7d;".toList :: after)) =
      body := by
  have skipped : ∀ line ∈ before, (line != (classLine state).toList) = true := by
    intro line member
    rw [bne_iff_ne]
    rintro rfl
    exact fresh member
  have inside : ∀ line ∈ body, (line != "\x7d;".toList) = true := by
    intro line member
    rw [bne_iff_ne]
    rintro rfl
    exact unclosed member
  rw [classBody, List.dropWhile_append_of_pos skipped, List.dropWhile_cons_of_neg (by simp),
    List.drop_one, List.tail_cons, List.takeWhile_append_of_pos inside,
    List.takeWhile_cons_of_neg (by simp), List.append_nil]

theorem class_body_of_missing {state : String} {lines : List (List Char)}
    (missing : (classLine state).toList ∉ lines) : classBody state lines = [] := by
  have skipped : lines.dropWhile (· != (classLine state).toList) = [] := by
    rw [List.dropWhile_eq_nil_iff]
    intro line member
    rw [bne_iff_ne]
    rintro rfl
    exact missing member
  rw [classBody, skipped]
  rfl

def bodyRows (state : State) : List Row :=
  line "public:" :: deeper (line ("std::string get_name() override \x7b return " ++
    Quoted.encode state.name ++ "; \x7d") :: state.handled.map fun transition =>
      line ("void " ++ transition.event ++ "() override;"))

theorem state_class_rows (state : State) :
    (stateClass state).rows = line (classLine state.name) :: bodyRows state ++ [line "\x7d;"] := by
  have heading : (stateClass state).heading ++ " \x7b" = classLine state.name := by
    simp [Class.heading, stateClass, classLine, String.append_assoc]
  rw [Class.rows, heading]
  simp [bodyRows, stateClass, Section.rows, List.flatMap_map, ← List.map_eq_flatMap]

/-- A line whose first character is another one does not close a class. -/
theorem not_closing {text : String} {first : Char} (begins : Begins first text)
    (other : isWhite first = false ∧ first ≠ '\x7d') : trim text.toList ≠ "\x7d;".toList := by
  intro same
  have kept : trim text.toList <+: text.toList := by
    apply trim_begins
    rw [begins]
    rintro initial ⟨⟩
    exact other.1
  obtain ⟨rest, whole⟩ := kept
  rw [same] at whole
  rw [Begins, ← whole] at begins
  exact other.2 (Option.some.inj begins).symm

theorem body_open (state : State) : "\x7d;".toList ∉ (bodyRows state).map Row.trimmed := by
  have label : trim "public:".toList ≠ "\x7d;".toList :=
    not_closing (begins_literal 'p' _) (by decide)
  have getter : trim ("std::string get_name() override \x7b return " ++
      Quoted.encode state.name ++ "; \x7d").toList ≠ "\x7d;".toList :=
    not_closing (((begins_literal 's' _).append _).append _) (by decide)
  have override (event : String) : trim ("void " ++ event ++ "() override;").toList ≠
      "\x7d;".toList := not_closing (((begins_literal 'v' _).append _).append _) (by decide)
  rw [bodyRows, List.map_cons, trimmed_deeper, List.map_cons, List.map_map, List.mem_cons,
    List.mem_cons, not_or, not_or]
  refine ⟨label.symm, getter.symm, ?_⟩
  intro member
  obtain ⟨transition, _, same⟩ := List.mem_map.mp member
  exact override transition.event same

theorem body_overrides (state : State) :
    ((bodyRows state).map Row.trimmed).filterMap override? =
      state.handled.map Transition.event := by
  have marked : marks (bodyRows state) =
      state.handled.map fun transition => (Mark.override, transition.event.toList) := by
    have heading : marksIn (classLine state.name) = [(.heading, state.name.toList)] := by
      rw [class_line]
      exact marks_between .heading (by decide) state.name
    have closing : marksIn "\x7d;" = [] := marks_in_whole (by decide)
    have whole := marks_state_class state
    simp only [state_class_rows, List.cons_append, marks_line_cons, marks_append, heading, closing,
      marks_nil, List.append_nil, List.nil_append] at whole
    exact (List.cons.inj whole).2
  rw [read_declarations, read_rows, marked, List.filterMap_map, List.map_filterMap,
    ← List.filterMap_eq_map]
  apply List.filterMap_congr
  intro transition _
  simp

def definitions (states : List State) : List (String × String) :=
  states.flatMap fun state => state.handled.map fun transition => (state.name, transition.event)

theorem definitions_apart {states : List State} {name : String}
    (apart : name ∉ states.map State.name) :
    (definitions states).filter (fun defined => defined.1 == name) = [] := by
  rw [List.filter_eq_nil_iff]
  intro defined member
  obtain ⟨state, stateMember, written⟩ := List.mem_flatMap.mp member
  obtain ⟨transition, _, rfl⟩ := List.mem_map.mp written
  rw [beq_iff_eq]
  rintro rfl
  exact apart (List.mem_map_of_mem stateMember)

theorem definitions_of_state {before after : List State} {state : State}
    (distinct : ((before ++ state :: after).map State.name).Nodup) :
    ((definitions (before ++ state :: after)).filter fun defined =>
      defined.1 == state.name).map Prod.snd = state.handled.map Transition.event := by
  rw [List.map_append, List.map_cons, List.nodup_append] at distinct
  obtain ⟨_, later, apart⟩ := distinct
  have first : state.name ∉ before.map State.name := fun member =>
    apart state.name member state.name List.mem_cons_self rfl
  have last : state.name ∉ after.map State.name := (List.nodup_cons.mp later).1
  have own : (state.handled.map fun transition => (state.name, transition.event)).filter
      (fun defined => defined.1 == state.name) =
        state.handled.map fun transition => (state.name, transition.event) := by
    rw [List.filter_eq_self, List.forall_mem_map]
    intro transition _
    exact beq_self_eq_true _
  have parts : definitions (before ++ state :: after) = definitions before ++
      ((state.handled.map fun transition => (state.name, transition.event)) ++
        definitions after) := by
    simp [definitions]
  rw [parts, List.filter_append, List.filter_append, own, definitions_apart first,
    definitions_apart last, List.nil_append, List.append_nil, List.map_map]
  rfl

theorem class_line_fresh {machine : Machine} (named : machine.NamesAreIdentifiers)
    (values : List Value) {before : List State} {name : String}
    (apart : name ∉ before.map State.name) :
    (classLine name).toList ∉ (leadingRows machine values ++ classRows before).map Row.trimmed := by
  have headings : ((leadingRows machine values ++ classRows before).map Row.trimmed).filterMap
      Mark.heading.read? = (before.map State.name).map String.toList := by
    rw [read_rows, marks_append, marks_leading named, marks_classes]
    simp [classMarks, List.filterMap_flatMap, List.filterMap_map, ← List.map_eq_flatMap]
  intro member
  rw [class_line] at member
  have found := read_of_count (by decide) member
  rw [headings] at found
  obtain ⟨other, otherMember, same⟩ := List.mem_map.mp found
  exact apart (String.toList_inj.mp same ▸ otherMember)

/-- The lines of a program, cut around the class of a state. -/
theorem program_split {machine : Machine} {before after : List State} {state : State}
    (parts : machine.states = before ++ state :: after) (initial : State) (values : List Value) :
    ∃ rest, (assembled machine initial values).rows.map Row.trimmed =
      (leadingRows machine values ++ classRows before).map Row.trimmed ++
        (classLine state.name).toList ::
          ((bodyRows state).map Row.trimmed ++ "\x7d;".toList :: rest) := by
  have first : (line (classLine state.name)).trimmed = (classLine state.name).toList :=
    trim_closed (((begins_literal 'c' _).append _).append _) ((ends_literal rfl).prepend _)
      (by decide)
  have last : (line "\x7d;").trimmed = "\x7d;".toList := by decide
  have rows : (assembled machine initial values).rows =
      (leadingRows machine values ++ classRows before) ++ line (classLine state.name) ::
        (bodyRows state ++ line "\x7d;" :: (.blank :: classRows after ++
          (tableRows machine.states ++ closingRows machine initial))) := by
    rw [assembled_rows, declaration_rows, parts]
    simp [classRows, state_class_rows]
  have body (rest : List Row) : (bodyRows state ++ line "\x7d;" :: rest).map Row.trimmed =
      (bodyRows state).map Row.trimmed ++ "\x7d;".toList :: rest.map Row.trimmed := by
    rw [List.map_append, List.map_cons, last]
  rw [rows, List.map_append, List.map_cons, body, first]
  exact ⟨_, rfl⟩

section

variable {machine : Machine} (named : machine.NamesAreIdentifiers)
  (wellFormed : machine.WellFormed) {initial : State} (declared : initial ∈ machine.states)
  (values : List Value)

include named declared

theorem program_definitions :
    ((assembled machine initial values).rows.map Row.trimmed).filterMap heading? =
      definitions machine.states := by
  rw [read_definitions, read_program named declared, definitions_of_names named]
  rfl

theorem count_class_line (name : String) :
    ((assembled machine initial values).rows.map Row.trimmed).count (classLine name).toList =
      ((machine.states.map State.name).map String.toList).count name.toList := by
  rw [class_line, count_of_kind .heading (by decide), read_program named declared, List.map_map]
  rfl

include wellFormed

theorem program_handlers (name : String) :
    (classBody name ((assembled machine initial values).rows.map Row.trimmed)).filterMap override? =
      ((((assembled machine initial values).rows.map Row.trimmed).filterMap heading?).filter
        fun defined => defined.1 == name).map Prod.snd := by
  rw [program_definitions named declared]
  by_cases known : name ∈ machine.states.map State.name
  · obtain ⟨state, member, rfl⟩ := List.mem_map.mp known
    obtain ⟨before, after, parts⟩ := List.append_of_mem member
    have distinct := state_names_distinct wellFormed
    rw [parts] at distinct
    have apart : state.name ∉ before.map State.name := by
      rw [List.map_append, List.map_cons, List.nodup_append] at distinct
      exact fun member => distinct.2.2 state.name member state.name List.mem_cons_self rfl
    obtain ⟨rest, lines⟩ := program_split parts initial values
    rw [lines, class_body_of_split (class_line_fresh named values apart) (body_open state),
      body_overrides, parts, definitions_of_state distinct]
  · have missing : (classLine name).toList ∉
        (assembled machine initial values).rows.map Row.trimmed := by
      rw [← List.count_eq_zero, count_class_line named declared, List.count_eq_zero]
      intro member
      obtain ⟨other, otherMember, same⟩ := List.mem_map.mp member
      exact known (String.toList_inj.mp same ▸ otherMember)
    rw [class_body_of_missing missing, definitions_apart known]
    rfl

end

theorem infix_spaced {parts : List (List Row)} {part : List Row} (member : part ∈ parts) :
    part <:+: spaced parts := by
  induction parts with
  | nil => cases member
  | cons first others induction =>
      by_cases more : others = []
      · subst more
        obtain rfl := List.mem_singleton.mp member
        exact (spaced_singleton part).symm ▸ List.infix_rfl
      · rw [spaced_cons more]
        obtain rfl | later := List.mem_cons.mp member
        · exact (List.prefix_append _ _).isInfix
        · exact (induction later).trans
            ((List.suffix_cons _ _).trans (List.suffix_append _ _)).isInfix

theorem infix_class {declared : Class} {part : Section} {group : List Member} {member : Member}
    (partMember : part ∈ declared.sections) (groupMember : group ∈ part.groups)
    (inGroup : member ∈ group) : deeper member.rows <:+: declared.rows := by
  have inRows : member.rows <:+: group.flatMap Member.rows := by
    rw [List.flatMap_def]
    exact List.infix_of_mem_flatten (List.mem_map_of_mem inGroup)
  have inGroups :
      member.rows <:+: spaced (part.groups.map fun group => group.flatMap Member.rows) :=
    inRows.trans (infix_spaced (List.mem_map_of_mem groupMember))
  have inSection : deeper member.rows <:+: part.rows :=
    (inGroups.map Row.deeper).trans (List.suffix_cons _ _).isInfix
  have inSections : part.rows <:+: spaced (declared.sections.map Section.rows) :=
    infix_spaced (List.mem_map_of_mem partMember)
  rw [Class.rows]
  exact inSection.trans (inSections.trans
    ((List.prefix_append _ _).isInfix.trans (List.suffix_cons _ _).isInfix))

/-- The method of an event in the context class passes it on to the state. -/
theorem program_passes_on {machine : Machine} {event : String} (member : event ∈ machine.events)
    (initial : State) (values : List Value) :
    [(forwardLine event).toList, (callLine event).toList] <:+:
      (assembled machine initial values).rows.map Row.trimmed := by
  have forward : (line (forwardLine event)).trimmed = (forwardLine event).toList :=
    trim_closed (((begins_literal 'v' _).append _).append _) ((ends_literal rfl).prepend _)
      (by decide)
  have call : (line (callLine event)).trimmed = (callLine event).toList :=
    trim_closed (((begins_literal 's' _).append _).append _) ((ends_literal rfl).prepend _)
      (by decide)
  have heading : "void " ++ event ++ "()" ++ " \x7b" = forwardLine event := String.append_assoc
  have inContext :
      deeper (method event ("void " ++ event ++ "()") [line (callLine event)]).rows <:+:
        (contextClass machine values).rows := by
    have declares : ∃ part ∈ (contextClass machine values).sections,
        [method event ("void " ++ event ++ "()") [line (callLine event)]] ∈ part.groups := by
      refine ⟨_, List.mem_cons_of_mem _ List.mem_cons_self, List.mem_append_right _ ?_⟩
      exact List.mem_map_of_mem (List.mem_append_right _ (List.mem_map_of_mem member))
    obtain ⟨part, partMember, groupMember⟩ := declares
    exact infix_class partMember groupMember List.mem_cons_self
  have inRows :
      (contextClass machine values).rows <:+: (assembled machine initial values).rows := by
    have inClasses : (contextClass machine values).rows ++ [.blank] <:+:
        (baseClass machine :: contextClass machine values :: machine.states.map stateClass).flatMap
          fun declared => declared.rows ++ [.blank] := by
      rw [List.flatMap_def]
      exact List.infix_of_mem_flatten
        (List.mem_map_of_mem (List.mem_cons_of_mem _ List.mem_cons_self))
    rw [assembled_rows, declarationRows]
    exact (List.prefix_append _ _).isInfix.trans (inClasses.trans
      ((List.suffix_append _ _).isInfix.trans (List.prefix_append _ _).isInfix))
  have lines := (inContext.trans inRows).map Row.trimmed
  rw [trimmed_deeper, method, braced, heading, List.map_append, List.map_cons, trimmed_deeper,
    List.map_cons, forward, call] at lines
  exact (List.prefix_append _ _).isInfix.trans lines

/-- A line that begins with the key of an event is read as an entry with the event in front. -/
theorem filter_entries (event : String) (lines : List (List Char)) :
    lines.filter (entryKey event).toList.isPrefixOf =
      ((lines.filterMap Mark.entry.read?).filter (event ++ "\"]").toList.isPrefixOf).map
        ("event_by_name[\"".toList ++ ·) := by
  have key : (entryKey event).toList = "event_by_name[\"".toList ++ (event ++ "\"]").toList := by
    rw [entryKey, String.toList_append, String.toList_append, String.toList_append,
      List.append_assoc]
  have read (line middle : List Char) : Mark.entry.read? line = some middle ↔
      line = "event_by_name[\"".toList ++ middle := by
    rw [Mark.read_eq_line rfl]
    simp [Mark.opening, Mark.closing]
  induction lines with
  | nil => rfl
  | cons line rest induction =>
      cases found : Mark.entry.read? line with
      | some middle =>
          obtain rfl := (read line middle).mp found
          have same : (entryKey event).toList.isPrefixOf ("event_by_name[\"".toList ++ middle) =
              (event ++ "\"]").toList.isPrefixOf middle := by
            rw [Bool.eq_iff_iff, List.isPrefixOf_iff_prefix, List.isPrefixOf_iff_prefix, key,
              List.prefix_append_right_inj]
          rw [List.filterMap_cons_some found, List.filter_cons, List.filter_cons, same, induction]
          split <;> rfl
      | none =>
          have other : ¬ (entryKey event).toList.isPrefixOf line = true := by
            rw [List.isPrefixOf_iff_prefix, key]
            rintro ⟨more, rfl⟩
            rw [List.append_assoc, (read _ _).mpr rfl] at found
            cases found
          rw [List.filterMap_cons_none found, List.filter_cons_of_neg other, induction]

/-- Two names that a quote follows are told apart by what they begin. -/
theorem name_before_quote {first second : String} (named : Identifier first)
    (other : Identifier second) {rest tail : List Char}
    (same : first.toList ++ '"' :: rest = second.toList ++ '"' :: tail) : first = second := by
  have headed {name : String} (plain : Identifier name) (more : List Char) :
      Headed name.toList ('"' :: more) := ⟨plain.word, rfl⟩
  exact String.toList_inj.mp ((headed named rest).unique (headed other tail) same).1

section

variable {machine : Machine} (named : machine.NamesAreIdentifiers)
  (wellFormed : machine.WellFormed) {initial : State}

include named

/-- The table of events has one line with the key of an event. -/
theorem entries_of_event {event : String} (distinct : machine.events.Nodup)
    (member : event ∈ machine.events) :
    (Mark.entry.names machine initial).filter (event ++ "\"]").toList.isPrefixOf =
      [(event ++ "\"] = &" ++ machine.name ++ "::" ++ event ++ ";").toList] := by
  have key (name : String) : (name ++ "\"]").toList = name.toList ++ '"' :: [']'] := by simp
  have written (name : String) :
      (name ++ "\"] = &" ++ machine.name ++ "::" ++ name ++ ";").toList =
        (name ++ "\"]").toList ++ (" = &" ++ machine.name ++ "::" ++ name ++ ";").toList := by simp
  have keyed : machine.events.filter ((event ++ "\"]").toList.isPrefixOf ∘ fun other =>
      (other ++ "\"] = &" ++ machine.name ++ "::" ++ other ++ ";").toList) =
        machine.events.filter (· == event) := by
    apply List.filter_congr
    intro other otherMember
    rw [Bool.eq_iff_iff, Function.comp_apply, List.isPrefixOf_iff_prefix, beq_iff_eq, written]
    constructor
    · rintro ⟨more, same⟩
      rw [key, key, List.append_assoc, List.append_assoc, List.cons_append, List.cons_append]
        at same
      exact (name_before_quote (named.events event member) (named.events other otherMember)
        same).symm
    · rintro rfl
      exact List.prefix_append _ _
  have once : machine.events.filter (· == event) = [event] := by
    rw [List.filter_beq, List.count_eq_one_of_mem distinct member]
    rfl
  rw [Mark.names, List.filter_map, keyed, once, List.map_singleton]

/-- Every event that the machine declares has its place in the program. -/
theorem program_serves {event : String} (distinct : machine.events.Nodup)
    (member : event ∈ machine.events) (declared : initial ∈ machine.states) (values : List Value) :
    Served machine.name event ((assembled machine initial values).rows.map Row.trimmed) := by
  have lines := read_program named declared values
  have once := count_once distinct member
  refine ⟨?_, ?_, program_passes_on member initial values, ?_⟩
  · rw [base_line, count_of_kind .base (by decide), lines]
    exact once
  · -- The other methods are defined outside their class, so that their names have colons.
    have others : (machine.states.flatMap fun state => state.handled.map fun transition =>
        (state.name ++ "::" ++ transition.event).toList).count event.toList = 0 := by
      rw [List.count_eq_zero]
      intro found
      obtain ⟨state, _, written⟩ := List.mem_flatMap.mp found
      obtain ⟨transition, _, same⟩ := List.mem_map.mp written
      have plain : ':' ∉ event.toList := (named.events event member).unscoped.plain
      exact plain (by rw [← same]; simp)
    rw [forward_line, count_of_kind .method (by decide), lines, Mark.names, List.count_append, once,
      others]
  · rw [filter_entries, lines, entries_of_event named distinct member, List.map_singleton]
    simp [entryLine, entryKey]

theorem program_launches (initial : State) (values : List Value) :
    (launchLine machine.name initial.name).toList ∈
      (assembled machine initial values).rows.map Row.trimmed := by
  obtain ⟨first, letters, characters, letter⟩ := named.own.begins
  have begins : Begins first machine.name := by rw [Begins, characters]; rfl
  have trimmed : (line (launchLine machine.name initial.name)).trimmed =
      (launchLine machine.name initial.name).toList :=
    trim_closed (((((begins.append _).append _).append _).append _).append _)
      ((ends_literal rfl).prepend _) ⟨not_white (Or.inl letter), by decide⟩
  have inBody : line (launchLine machine.name initial.name) ∈ mainBody machine initial :=
    (infix_spaced List.mem_cons_self).subset (List.mem_cons_of_mem _ List.mem_cons_self)
  have inMain : (line (launchLine machine.name initial.name)).deeper ∈
      braced "int main()" (mainBody machine initial) "" :=
    List.mem_append_left _ (List.mem_cons_of_mem _ (List.mem_map_of_mem inBody))
  rw [← trimmed, ← Row.deeper_trimmed, assembled_rows]
  exact List.mem_map_of_mem
    (List.mem_append_right _ (List.mem_append_right _ (List.mem_append_right _ inMain)))

theorem launched_state (declared : initial ∈ machine.states) (values : List Value) {name : String}
    (member : (launchLine machine.name name).toList ∈
      (assembled machine initial values).rows.map Row.trimmed) : name = initial.name := by
  have read : Mark.launch.read? (launchLine machine.name name).toList =
      some (machine.name ++ "(new " ++ name).toList := by
    have stops : Headed machine.name.toList Mark.launch.opening.toList :=
      ⟨named.own.word, by decide⟩
    rw [Mark.read_eq_some_iff]
    refine ⟨machine.name.toList, ?_, by simp [Mark.word], ?_⟩
    · rw [List.append_assoc]
      exact stops.append (by decide) _
    · simp [launchLine, Mark.opening, Mark.closing]
  have found := List.mem_filterMap.mpr ⟨_, member, read⟩
  rw [read_program named declared, Mark.names, List.mem_singleton] at found
  simp only [String.toList_append, List.append_cancel_left_eq] at found
  exact String.toList_inj.mp found

include wellFormed

theorem made_declared (declared : initial ∈ machine.states) (values : List Value) {name : String}
    (made : (moveLine name).toList ∈ (assembled machine initial values).rows.map Row.trimmed ∨
      (launchLine machine.name name).toList ∈
        (assembled machine initial values).rows.map Row.trimmed) :
    name ∈ machine.states.map State.name := by
  obtain moved | launched := made
  · rw [move_line] at moved
    have found := read_of_count (by decide) moved
    rw [read_program named declared, Mark.names] at found
    obtain ⟨state, stateMember, written⟩ := List.mem_flatMap.mp found
    obtain ⟨transition, handled, same⟩ := List.mem_map.mp written
    obtain rfl := String.toList_inj.mp same
    have inState := (first_per_key_sublist Transition.event state.transitions).subset handled
    exact (wellFormed.transitions state stateMember transition inState).target_declared
  · rw [launched_state named declared values launched]
    exact List.mem_map_of_mem declared

theorem handled_event_declared (declared : initial ∈ machine.states) (values : List Value)
    {event : String}
    (handled :
      event ∈ ((assembled machine initial values).rows.map Row.trimmed).filterMap override? ∨
      event ∈ (((assembled machine initial values).rows.map Row.trimmed).filterMap heading?).map
        Prod.snd) : event ∈ machine.events := by
  have inState : ∃ state ∈ machine.states, event ∈ state.handled.map Transition.event := by
    obtain overridden | defined := handled
    · rw [read_declarations, read_program named declared, Mark.names] at overridden
      obtain ⟨text, found, rfl⟩ := List.mem_map.mp overridden
      obtain ⟨state, member, written⟩ := List.mem_flatMap.mp found
      obtain ⟨transition, handled, rfl⟩ := List.mem_map.mp written
      rw [String.ofList_toList]
      exact ⟨state, member, List.mem_map_of_mem handled⟩
    · rw [program_definitions named declared] at defined
      obtain ⟨definition, found, rfl⟩ := List.mem_map.mp defined
      obtain ⟨state, member, written⟩ := List.mem_flatMap.mp found
      obtain ⟨transition, handled, rfl⟩ := List.mem_map.mp written
      exact ⟨state, member, List.mem_map_of_mem handled⟩
  obtain ⟨state, member, written⟩ := inState
  exact handled_declared wellFormed member event written

end

/-- A model without errors whose names are identifiers has a program, and the program is closed. -/
theorem generated_closed {machine : Machine} (identifiers : machine.DeclaresIdentifiers)
    (accepted : hasErrors machine.diagnostics = false) :
    ∃ text, generate machine = .ok text ∧ Closed machine.name (trimmedLines text) := by
  have named := identifiers.mentioned accepted
  have wellFormed := (Machine.has_no_errors_iff_well_formed machine).mp accepted
  obtain ⟨initial, values, first, _, made⟩ := of_machine_of_well_formed wellFormed
  have declared : initial ∈ machine.states := List.mem_of_find?_eq_some first
  have events := events_distinct wellFormed
  have lines : trimmedLines (assembled machine initial values).text =
      (assembled machine initial values).rows.map Row.trimmed :=
    lines_of_rows (rows_of_program_single named declared values)
  have text : generate machine = .ok (assembled machine initial values).text := by
    rw [generate, made]
    rfl
  refine ⟨_, text, ?_⟩
  rw [lines]
  constructor
  · exact ⟨initial.name, program_launches named initial values⟩
  · intro state made
    rw [count_class_line named declared]
    exact count_once (state_names_distinct wellFormed)
      (made_declared named wellFormed declared values made)
  · exact program_handlers named wellFormed declared values
  · intro event handled
    have member := handled_event_declared named wellFormed declared values handled
    exact program_serves named events member declared values

end Cpp

def licensedMachine : Machine := { forgingMachine with commands := ["\n\x7d else \x7b"] }

theorem licensed_machine_closed :
    licensedMachine.DeclaresIdentifiers ∧ hasErrors licensedMachine.diagnostics = false ∧
      ∃ text, Cpp.generate licensedMachine = .ok text ∧
        Cpp.Closed "Door" (Cpp.trimmedLines text) := by
  have named : licensedMachine.DeclaresIdentifiers :=
    ⟨by decide, by decide, by decide, by decide⟩
  have accepted : hasErrors licensedMachine.diagnostics = false := by decide
  exact ⟨named, accepted, Cpp.generated_closed named accepted⟩

end StateMachine
