import StateMachine.Proofs.Cpp.Mark

/-!
What the lines of a program name, part by part and in order: the events in the common parent and in
the context class, each state with the handlers that it declares, the handlers with their targets,
the first state, and the events again.
-/

set_option autoImplicit false

namespace StateMachine

open Text

/-- A name has nothing to escape. -/
theorem Identifier.encoded {name : String} (named : Identifier name) :
    Quoted.encode name = "\"" ++ name ++ "\"" := by
  have kept : ∀ character ∈ name.toList, Quoted.escape character = [character] := by
    intro character member
    have letter := named.word character member
    unfold Quoted.escape
    split
    case h_6 => rfl
    all_goals exact absurd letter (by decide)
  rw [Quoted.encode, List.flatMap_congr kept, List.flatMap_singleton', String.ofList_toList]

namespace Cpp

def marks (rows : List Row) : List (Mark × List Char) := rows.flatMap fun row => marksOf row.trimmed

@[simp] theorem marks_nil : marks [] = [] := rfl

@[simp] theorem marks_blank_cons (rows : List Row) : marks (.blank :: rows) = marks rows := by
  have blank : marksOf Row.blank.trimmed = [] := by decide
  rw [marks, List.flatMap_cons, blank, List.nil_append, marks]

@[simp] theorem marks_line_cons (text : String) (rows : List Row) :
    marks (line text :: rows) = marksIn text ++ marks rows := rfl

@[simp] theorem marks_append (first second : List Row) :
    marks (first ++ second) = marks first ++ marks second := List.flatMap_append

@[simp] theorem marks_deeper (rows : List Row) : marks (deeper rows) = marks rows := by
  simp [marks, deeper, List.flatMap_map]

@[simp] theorem marks_flat (texts : List String) : marks (flat texts) = texts.flatMap marksIn := by
  rw [marks, flat, List.flatMap_map]
  rfl

@[simp] theorem marks_flat_map {α : Type} (elements : List α) (rows : α → List Row) :
    marks (elements.flatMap rows) = elements.flatMap fun element => marks (rows element) :=
  List.flatMap_assoc

@[simp] theorem marks_spaced (parts : List (List Row)) :
    marks (spaced parts) = parts.flatMap marks := by
  induction parts with
  | nil => rfl
  | cons part others induction =>
      by_cases more : others = []
      · subst more
        simp
      · rw [spaced_cons more, marks_append, marks_blank_cons, induction, List.flatMap_cons]

@[simp] theorem marks_braced (heading closing : String) (body : List Row) :
    marks (braced heading body closing) =
      marksIn (heading ++ " \x7b") ++ marks body ++ marksIn ("\x7d" ++ closing) := by
  simp [braced]

theorem read_rows (mark : Mark) (rows : List Row) :
    (rows.map Row.trimmed).filterMap mark.read? =
      (marks rows).filterMap fun found => if found.1 = mark then some found.2 else none := by
  rw [read_lines, marks, List.flatMap_map]

theorem marks_section (part : Section) :
    marks part.rows = marksIn (part.label ++ ":") ++
      part.groups.flatMap fun group => group.flatMap fun member => marks member.rows := by
  simp [Section.rows, List.flatMap_map]

theorem marks_class (declared : Class) :
    marks declared.rows = marksIn (declared.heading ++ " \x7b") ++
      declared.sections.flatMap fun part => marks part.rows := by
  have closing : marksIn "\x7d;" = [] := marks_in_whole (by decide)
  simp [Class.rows, closing, List.flatMap_map]

theorem marks_brace : marksIn "\x7d" = [] := marks_in_whole (by decide)

theorem marks_method (name heading : String) (body : List Row) :
    marks (method name heading body).rows = marksIn (heading ++ " \x7b") ++ marks body := by
  simp [method, marks_brace]

theorem marks_protected : marksIn "protected:" = [] := marks_in_whole (by decide)

theorem marks_public : marksIn "public:" = [] := marks_in_whole (by decide)

theorem marks_delete : marks deleteState = [] := by
  have condition : marksIn "if (state != nullptr) \x7b" = [] := marks_in_whole (by decide)
  have deleted : marksIn "delete state;" = [] := marks_in_whole (by decide)
  simp [deleteState, condition, deleted, marks_brace]

/-- A class that is no state's has no parent in its first line, nor has one that is only
announced. -/
theorem marks_class_line {name rest : String} (named : Identifier name) (plain : Lacks ':' rest) :
    marksIn ("class " ++ (name ++ rest)) = [] := by
  have words : "class " ++ (name ++ rest) = "class" ++ (" " ++ (name ++ rest)) := by
    rw [← String.append_assoc]
    rfl
  have absent : ':' ∉ trim ("class" ++ (" " ++ (name ++ rest))).toList := by
    have lacks : Lacks ':' ("class" ++ (" " ++ (name ++ rest))) := by
      simp only [lacks_append, named.unscoped.plain, plain, and_true]
      decide
    exact fun member => lacks (trim_subset _ member)
  have others : ∀ mark ∈ Mark.all, mark = .heading ∨
      (mark.word.all fun own => own.toList != "class".toList) = true := by decide
  rw [words]
  refine marks_of_unread fun mark member => ?_
  obtain rfl | other := others mark member
  · exact Mark.read_of_lacks absent (by decide)
  · exact Mark.read_of_words (by decide) named rest other

theorem marks_method_line (name : String) :
    marksIn ("void " ++ (name ++ "() \x7b")) = [(.method, name.toList)] :=
  marks_between .method (by decide) name

theorem marks_state_class (state : State) :
    marks (stateClass state).rows = (Mark.heading, state.name.toList) ::
      state.handled.map fun transition => (Mark.override, transition.event.toList) := by
  have heading : marksIn ("class " ++ (state.name ++ " : public State \x7b")) =
      [(.heading, state.name.toList)] := marks_between .heading (by decide) state.name
  have getter : marksIn ("std::string get_name() override \x7b return " ++
      (Quoted.encode state.name ++ "; \x7d")) = [] := marks_in_parts (by decide) _
  have override (event : String) :
      marksIn ("void " ++ (event ++ "() override;")) = [(.override, event.toList)] :=
    marks_between .override (by decide) event
  simp [marks_class, stateClass, Class.heading, marks_section, heading, getter, override,
    marks_public, String.append_assoc, List.flatMap_map, ← List.map_eq_flatMap]

theorem Mark.read_of_statement {text : String} (statement : IsStatement text) :
    Mark.move.read? (trim text.toList) = none := by
  rw [trim_closed statement.begins statement.ends (by decide), Option.eq_none_iff_forall_ne_some]
  intro middle found
  obtain ⟨word, _, own, parts⟩ := Mark.read_eq_some_iff.mp found
  have moved : between? "statemachine->transition_to(new " ");" text.toList = some middle := by
    rw [between_eq_some_iff, parts, ← own "statemachine" rfl, List.append_assoc]
    rfl
  have stays := statement.stays
  rw [target?, moved] at stays
  cases stays

/-- A statement is of no kind, as it does not move on. -/
theorem marks_statement {site : MentionSite} {action : Action}
    (named : MentionsIdentifiers (action.mentions site)) :
    ∀ text ∈ action.cpp contextPath, marksIn text = [] := by
  intro text member
  have statement := Action.cpp_statements named text member
  cases action with
  | assign target value =>
      obtain rfl := List.mem_singleton.mp member
      have path : "statemachine->".toList <+:
          (contextPath ++ target ++ " = " ++ value.cpp contextPath ++ ";").toList := by
        simp only [String.append_assoc, String.toList_append]
        exact List.prefix_append _ _
      have others : ∀ mark ∈ Mark.all, mark = .move ∨
          mark.excludes (Outline.ofParts "statemachine->".toList []) = true := by decide
      have sturdy : Sturdy "statemachine->".toList [] := by decide
      have fits := Outline.parts_fit sturdy path List.nil_suffix
      refine marks_of_unread fun mark member => ?_
      obtain rfl | excluded := others mark member
      · exact Mark.read_of_statement statement
      · exact Mark.read_of_excluded fits excluded
  | print parts =>
      obtain rfl := List.mem_singleton.mp member
      rw [String.append_assoc]
      exact marks_in_parts (by decide) _
  | timeout millis =>
      simp only [Action.cpp, List.mem_cons, List.not_mem_nil, or_false] at member
      obtain rfl | rfl := member
      · rw [String.append_assoc]
        exact marks_in_parts (by decide) _
      · rw [String.append_assoc]
        exact marks_in_parts (by decide) _
  | run command =>
      obtain rfl := List.mem_singleton.mp member
      rw [String.append_assoc]
      exact marks_in_parts (by decide) _

theorem marks_handler {handler : Handler} (body : ∀ text ∈ handler.body, marksIn text = []) :
    marks handler.rows = [(.method, (handler.state ++ "::" ++ handler.event).toList),
      (.move, handler.target.toList)] := by
  have heading : marksIn ("void " ++ (handler.state ++ ("::" ++ (handler.event ++ "() \x7b")))) =
      [(.method, (handler.state ++ "::" ++ handler.event).toList)] := by
    have line := marks_method_line (handler.state ++ "::" ++ handler.event)
    rwa [String.append_assoc, String.append_assoc] at line
  have moving : marksIn ("statemachine->transition_to(new " ++ (handler.target ++ ");")) =
      [(.move, handler.target.toList)] := marks_between .move (by decide) handler.target
  have guard : marksIn ("if (" ++ (handler.guard ++ ") \x7b")) = [] := marks_in_parts (by decide) _
  have otherwise : marksIn "\x7d else \x7b" = [] := marks_in_whole (by decide)
  have refusal : marksIn "std::cout << \"Transition not allowed.\" << std::endl;" = [] :=
    marks_in_whole (by decide)
  have statements : handler.body.flatMap marksIn = [] := List.flatMap_eq_nil_iff.mpr body
  simp [Handler.rows, heading, guard, otherwise, refusal, statements, moving, marks_brace,
    String.append_assoc]

theorem marks_input_loop (machine : Machine) : marks (inputLoop machine) = [] := by
  have loop : marksIn "for (std::string input; std::getline(std::cin, input);) \x7b" = [] :=
    marks_in_whole (by decide)
  have found : marksIn ("std::map<std::string, Event>::const_iterator event_by_name_it = " ++
      "event_by_name.find(input);") = [] := marks_in_begun (by decide) _
  have condition : marksIn "if (event_by_name_it == event_by_name.end()) \x7b" = [] :=
    marks_in_whole (by decide)
  have unknown : marksIn ("std::cout << \"There is no event <\" << input << \"> in the " ++
      (machine.name ++ " statemachine.\" << std::endl;")) = [] := marks_in_begun (by decide) _
  have next : marksIn "continue;" = [] := marks_in_whole (by decide)
  have invoker : marksIn "Event event_invoker = event_by_name_it->second;" = [] :=
    marks_in_whole (by decide)
  have call : marksIn "(statemachine->*event_invoker)();" = [] := marks_in_whole (by decide)
  simp only [String.reduceAppend] at found
  simp [inputLoop, loop, found, condition, unknown, next, invoker, call, marks_brace,
    String.append_assoc]

section

variable {machine : Machine} (named : machine.NamesAreIdentifiers)

include named

theorem marks_base_class :
    marks (baseClass machine).rows = machine.events.map fun event => (Mark.base, event.toList) := by
  have heading : marksIn "class State \x7b" = [] := marks_in_whole (by decide)
  have pointer : marksIn (machine.name ++ " *statemachine;") = [] :=
    marks_in_named named.own (by decide)
  have destructor : marksIn "virtual ~State() \x7b\x7d" = [] := marks_in_whole (by decide)
  have setter : marksIn ("void set_context(" ++ (machine.name ++ " *statemachine) \x7b")) = [] :=
    marks_in_parts (by decide) machine.name
  have set : marksIn "this->statemachine = statemachine;" = [] := marks_in_whole (by decide)
  have getter : marksIn "virtual std::string get_name() \x7b" = [] := marks_in_whole (by decide)
  have got : marksIn "return \"Unknown\";" = [] := marks_in_whole (by decide)
  have refusal : marksIn "std::cout << \"Impossible event for the current state.\" << std::endl;" =
      [] := marks_in_whole (by decide)
  have handler (event : String) :
      marksIn ("virtual void " ++ (event ++ "() \x7b")) = [(.base, event.toList)] :=
    marks_between .base (by decide) event
  simp [marks_class, baseClass, Class.heading, marks_section, marks_method, heading, pointer,
    destructor, setter, set, getter, got, refusal, handler, marks_protected, marks_public,
    String.append_assoc, List.flatMap_map, ← List.map_eq_flatMap]

/-- A field begins with its type, not with the word of a kind. -/
theorem marks_field {owner : Attribute} (member : owner ∈ machine.attributes) (value : Value) :
    marks (field owner value).rows = [] := by
  have name := named.attributes owner member
  suffices text : marksIn (owner.ty.cpp ++ (" " ++ (owner.name ++ (" = " ++
      (value.cpp ++ (";" ++ defaultNote owner.default)))))) = [] by
    simp [field, String.append_assoc, text]
  cases owner.ty with
  | int =>
      have fixed : Unmarked "long long".toList [] := by decide
      exact marks_in_begun fixed _
  | bool =>
      refine marks_of_unread fun mark member => Mark.read_of_words (by decide) name _ ?_
      revert mark
      decide

theorem marks_fields (values : List Value) :
    (List.zipWith field machine.attributes values).flatMap (fun member => marks member.rows) =
      [] := by
  rw [List.flatMap_eq_nil_iff]
  intro member declared
  rw [← List.map_uncurry_zip_eq_zipWith, List.mem_map] at declared
  obtain ⟨⟨owner, value⟩, paired, rfl⟩ := declared
  exact marks_field named (List.of_mem_zip paired).1 value

theorem marks_context_class (values : List Value) :
    marks (contextClass machine values).rows =
      machine.events.map fun event => (Mark.method, event.toList) := by
  have heading : marksIn ("class " ++ (machine.name ++ " \x7b")) = [] :=
    marks_class_line named.own (by decide)
  have pointer : marksIn "State* state = nullptr;" = [] := marks_in_whole (by decide)
  have privateLabel : marksIn "private:" = [] := marks_in_whole (by decide)
  have constructor : marksIn (machine.name ++ "(State* initial_state) \x7b") = [] :=
    marks_in_named named.own (by decide)
  have destructor : marksIn ("~" ++ (machine.name ++ "() \x7b")) = [] :=
    marks_in_parts (by decide) machine.name
  have moving : marksIn "void transition_to(State *new_state) \x7b" = [] :=
    marks_in_whole (by decide)
  have first : marksIn "initial_state->set_context(this);" = [] := marks_in_whole (by decide)
  have kept : marksIn "state = initial_state;" = [] := marks_in_whole (by decide)
  have greeting : marksIn "std::cout << \"[\" << state->get_name() << \"]\" << std::endl;" = [] :=
    marks_in_whole (by decide)
  have announced : marksIn
      "std::cout << state->get_name() << \" ===> \" << new_state->get_name() << std::endl;" = [] :=
    marks_in_whole (by decide)
  have handed : marksIn "new_state->set_context(this);" = [] := marks_in_whole (by decide)
  have taken : marksIn "state = new_state;" = [] := marks_in_whole (by decide)
  have forwards (event : String) : marksIn ("state->" ++ (event ++ "();")) = [] :=
    marks_in_parts (by decide) event
  have fields := marks_fields named values
  by_cases empty : (List.zipWith field machine.attributes values).isEmpty = true <;>
  simp [marks_class, contextClass, Class.heading, marks_section, contextMethods, marks_method,
    heading, pointer, privateLabel, constructor, destructor, moving, first, kept, greeting,
    announced, handed, taken, forwards, marks_method_line, marks_public, marks_delete, fields,
    empty, String.append_assoc, List.flatMap_map, ← List.map_eq_flatMap]

def handlerMarks (state : State) : List (Mark × List Char) :=
  state.handled.flatMap fun transition =>
    [(.method, (state.name ++ "::" ++ transition.event).toList), (.move, transition.target.toList)]

theorem marks_of_state {state : State} (declared : state ∈ machine.states) :
    marks (Program.handlerRows state.name (handlersOf state)) = handlerMarks state := by
  have comment : marksIn ("// " ++ state.name) = [] := marks_in_begun (by decide) state.name
  have body : ∀ transition ∈ state.handled,
      marks (Handler.ofTransition state transition).rows =
        [(.method, (state.name ++ "::" ++ transition.event).toList),
          (.move, transition.target.toList)] := by
    intro transition handled
    apply marks_handler
    intro text member
    obtain ⟨action, actionMember, written⟩ := List.mem_flatMap.mp member
    have mentioned : MentionsIdentifiers
        (action.mentions (.transition state.name transition.event)) := fun mention inAction =>
      transition_named named declared handled mention
        (List.mem_append_right _ (List.mem_flatMap.mpr ⟨action, actionMember, inAction⟩))
    exact marks_statement mentioned text written
  have handlers : marks ((handlersOf state).flatMap fun handler => handler.rows ++ [.blank]) =
      handlerMarks state := by
    simp only [marks_flat_map, handlersOf, List.flatMap_map, marks_append, marks_blank_cons,
      marks_nil, List.append_nil]
    exact List.flatMap_congr body
  unfold Program.handlerRows
  split
  · next empty =>
      have none : state.handled = [] := by simpa [handlersOf] using empty
      simp [handlerMarks, none]
  · rw [marks_line_cons, comment, handlers, List.nil_append]

def mainMarks (machine : Machine) (initial : State) : List (Mark × List Char) :=
  (.launch, (machine.name ++ "(new " ++ initial.name).toList) :: machine.events.map fun event =>
    (.entry, (event ++ "\"] = &" ++ machine.name ++ "::" ++ event ++ ";").toList)

theorem marks_entry {event : String} (member : event ∈ machine.events) :
    marksIn ("event_by_name[" ++ (Quoted.encode event ++ ("] = &" ++ (machine.name ++ ("::" ++
      (event ++ ";")))))) =
      [(.entry, (event ++ "\"] = &" ++ machine.name ++ "::" ++ event ++ ";").toList)] := by
  have parts : "event_by_name[" ++ (Quoted.encode event ++ ("] = &" ++ (machine.name ++ ("::" ++
      (event ++ ";"))))) = "event_by_name" ++ Mark.entry.opening ++
        (event ++ "\"] = &" ++ machine.name ++ "::" ++ event ++ ";") ++ Mark.entry.closing := by
    rw [(named.events event member).encoded]
    simp only [Mark.opening, Mark.closing, String.append_assoc, String.append_empty]
    rfl
  have ends : Ends ';' (event ++ "\"] = &" ++ machine.name ++ "::" ++ event ++ ";" ++
      Mark.entry.closing) := by
    rw [Mark.closing, String.append_empty]
    exact (ends_literal rfl : Ends ';' ";").prepend _
  rw [parts]
  exact marks_of_kind .entry (by decide) (by simp [Mark.word]) _ ends (by decide)

theorem marks_launch (initial : String) :
    marksIn (machine.name ++ (" *statemachine = new " ++ (machine.name ++ ("(new " ++
      (initial ++ ");"))))) = [(.launch, (machine.name ++ "(new " ++ initial).toList)] := by
  have parts : machine.name ++ (" *statemachine = new " ++ (machine.name ++ ("(new " ++
      (initial ++ ");")))) = machine.name ++ Mark.launch.opening ++
        (machine.name ++ "(new " ++ initial) ++ Mark.launch.closing := by
    simp only [Mark.opening, Mark.closing, String.append_assoc]
  have ends : Ends ';' Mark.launch.closing := ends_literal rfl
  rw [parts]
  exact marks_of_kind .launch named.own (by simp [Mark.word]) _ (ends.prepend _) (by decide)

theorem marks_main {initial : State} (declared : initial ∈ machine.states) :
    marks (braced "int main()" (mainBody machine initial) "") = mainMarks machine initial := by
  have opening : marksIn "int main() \x7b" = [] := marks_in_whole (by decide)
  have words : marksIn "std::cout << std::boolalpha;" = [] := marks_in_whole (by decide)
  have table : marksIn "static std::map<std::string, Event> event_by_name;" = [] :=
    marks_in_whole (by decide)
  have deleted : marksIn "delete statemachine;" = [] := marks_in_whole (by decide)
  have returned : marksIn "return 0;" = [] := marks_in_whole (by decide)
  have statements : (initial.entry.flatMap (Action.cpp contextPath)).flatMap marksIn = [] := by
    rw [List.flatMap_eq_nil_iff]
    intro text member
    obtain ⟨action, actionMember, written⟩ := List.mem_flatMap.mp member
    have mentioned : MentionsIdentifiers (action.mentions (.entry initial.name)) := by
      intro mention inAction
      have inState : mention ∈ initial.mentions := List.mem_append_right _
        (List.mem_flatMap.mpr ⟨action, actionMember, inAction⟩)
      exact named.mentioned mention
        (List.mem_append_right _ (List.mem_flatMap.mpr ⟨initial, declared, inState⟩))
    exact marks_statement mentioned text written
  have entries : machine.events.flatMap (fun event => marksIn ("event_by_name[" ++
      (Quoted.encode event ++ ("] = &" ++ (machine.name ++ ("::" ++ (event ++ ";"))))))) =
        machine.events.map fun event =>
          (.entry, (event ++ "\"] = &" ++ machine.name ++ "::" ++ event ++ ";").toList) := by
    rw [List.map_eq_flatMap]
    exact List.flatMap_congr fun event member => marks_entry named member
  simp [mainBody, opening, words, marks_launch named, statements, table, entries, marks_input_loop,
    deleted, returned, marks_brace, mainMarks, String.append_assoc, List.flatMap_map]

def leadingRows (machine : Machine) (values : List Value) : List Row :=
  flat ["#include <iostream>", "#include <map>", "#include <string>", "#include <chrono>",
      "#include <thread>"] ++
    [.blank, line ("class " ++ machine.name ++ ";"), .blank] ++
    ((baseClass machine).rows ++ [.blank] ++ ((contextClass machine values).rows ++ [.blank]))

def classRows (states : List State) : List Row :=
  states.flatMap fun state => (stateClass state).rows ++ [.blank]

omit named in
theorem declaration_rows (values : List Value) :
    declarationRows machine values = leadingRows machine values ++ classRows machine.states := by
  simp only [declarationRows, leadingRows, classRows, List.flatMap_cons, List.flatMap_map,
    List.append_assoc]

theorem marks_leading (values : List Value) :
    marks (leadingRows machine values) =
      machine.events.map (fun event => (Mark.base, event.toList)) ++
        machine.events.map fun event => (Mark.method, event.toList) := by
  have includes : ["#include <iostream>", "#include <map>", "#include <string>",
      "#include <chrono>", "#include <thread>"].flatMap marksIn = [] := by
    simp only [List.flatMap_eq_nil_iff, List.forall_mem_cons, List.not_mem_nil, false_implies,
      implies_true, and_true]
    and_intros <;> exact marks_in_whole (by decide)
  have announced : marksIn ("class " ++ (machine.name ++ ";")) = [] :=
    marks_class_line named.own (by decide)
  rw [leadingRows, marks_append, marks_append, marks_flat, includes, String.append_assoc]
  simp only [marks_blank_cons, marks_line_cons, marks_nil, announced, marks_append,
    marks_base_class named, marks_context_class named, List.append_nil, List.nil_append]

def classMarks (state : State) : List (Mark × List Char) :=
  (.heading, state.name.toList) ::
    state.handled.map fun transition => (.override, transition.event.toList)

omit named in
theorem marks_classes (states : List State) :
    marks (classRows states) = states.flatMap classMarks := by
  simp only [classRows, marks_flat_map, marks_append, marks_state_class, marks_blank_cons,
    marks_nil, List.append_nil]
  rfl

theorem marks_program {initial : State} (declared : initial ∈ machine.states)
    (values : List Value) :
    marks (assembled machine initial values).rows =
      machine.events.map (fun event => (Mark.base, event.toList)) ++
        machine.events.map (fun event => (Mark.method, event.toList)) ++
        machine.states.flatMap classMarks ++ machine.states.flatMap handlerMarks ++
        mainMarks machine initial := by
  have pointer : marksIn ("typedef void (" ++ (machine.name ++ "::*Event)();")) = [] :=
    marks_in_parts (by decide) machine.name
  have table : marks (tableRows machine.states) = machine.states.flatMap handlerMarks := by
    rw [tableRows, marks_flat_map]
    exact List.flatMap_congr fun state member => marks_of_state named member
  have closing : marks (closingRows machine initial) = mainMarks machine initial := by
    rw [closingRows, marks_append, marks_main named declared, String.append_assoc]
    simp only [marks_line_cons, marks_blank_cons, marks_nil, pointer, List.nil_append]
  rw [assembled_rows, declaration_rows, marks_append, marks_append, marks_append, table, closing,
    marks_leading named, marks_classes]
  simp only [List.append_assoc]

/-- What is named in the lines of each kind of a program, in the order of the lines. -/
def Mark.names (machine : Machine) (initial : State) : Mark → List (List Char)
  | .heading => machine.states.map fun state => state.name.toList
  | .override => machine.states.flatMap fun state => state.handled.map fun transition =>
      transition.event.toList
  | .method => machine.events.map String.toList ++
      machine.states.flatMap fun state => state.handled.map fun transition =>
        (state.name ++ "::" ++ transition.event).toList
  | .base => machine.events.map String.toList
  | .move => machine.states.flatMap fun state => state.handled.map fun transition =>
      transition.target.toList
  | .launch => [(machine.name ++ "(new " ++ initial.name).toList]
  | .entry => machine.events.map fun event =>
      (event ++ "\"] = &" ++ machine.name ++ "::" ++ event ++ ";").toList

theorem read_program {initial : State} (declared : initial ∈ machine.states) (values : List Value)
    (mark : Mark) :
    ((assembled machine initial values).rows.map Row.trimmed).filterMap mark.read? =
      mark.names machine initial := by
  have marked := marks_program named declared values
  have none {α β : Type} (elements : List α) : elements.flatMap (fun _ => ([] : List β)) = [] :=
    List.flatMap_eq_nil_iff.mpr fun _ _ => rfl
  rw [read_rows, marked]
  cases mark <;>
    simp [Mark.names, classMarks, handlerMarks, mainMarks, List.filterMap_flatMap,
      List.filterMap_map, none, ← List.map_eq_flatMap]

end

end Cpp

end StateMachine
