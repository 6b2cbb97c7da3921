import StateMachine.Proofs.Cpp.Layout
import StateMachine.Proofs.FirstPerKey

/-!
The transition table of a machine stands in its program once, and nothing else in the text reads as
part of it.
-/

set_option autoImplicit false

namespace StateMachine

/-- The first transition of each event and no other, in the order of declaration. -/
structure State.FirstTransitions (state : State) (chosen : List Transition) : Prop where
  ordered : chosen.Sublist state.transitions
  distinct : (chosen.map Transition.event).Nodup
  first : ∀ transition, transition ∈ chosen ↔
    state.transitionFor? transition.event = some transition

theorem State.handled_first (state : State) : state.FirstTransitions state.handled :=
  ⟨first_per_key_sublist _ _, first_per_key_nodup _ _, fun _ => mem_first_per_key_iff⟩

namespace Cpp

open Text

theorem quiet_class {declared : Class} (heading : Inert (declared.heading ++ " \x7b"))
    (parts : ∀ part ∈ declared.sections, Inert (part.label ++ ":") ∧
      ∀ group ∈ part.groups, ∀ member ∈ group, Quiet member.rows) :
    Quiet declared.rows := by
  have closing : Inert "\x7d;" := by decide
  rw [Class.rows, List.cons_append, quiet_cons, quiet_append, quiet_cons, quiet_spaced]
  refine ⟨heading, ?_, closing, quiet_nil⟩
  intro rows member
  obtain ⟨part, partMember, rfl⟩ := List.mem_map.mp member
  obtain ⟨label, groups⟩ := parts part partMember
  rw [Section.rows, quiet_cons, quiet_deeper, quiet_spaced]
  refine ⟨label, ?_⟩
  intro groupRows groupRowsMember
  obtain ⟨group, groupMember, rfl⟩ := List.mem_map.mp groupRowsMember
  exact quiet_flat_map.mpr (groups group groupMember)

theorem quiet_method {name heading : String} {body : List Row} :
    Quiet (method name heading body).rows ↔ Inert (heading ++ " \x7b") ∧ Quiet body := by
  have closing : Inert ("\x7d" ++ "") := by decide
  simp only [method, quiet_braced, closing, and_true]

theorem quiet_delete : Quiet deleteState := by
  have condition : Apart "if (state != nullptr)" := apart_literal (by decide)
  rw [deleteState, quiet_braced, quiet_line]
  exact ⟨condition.opened, (apart_literal (by decide)).inert, by decide⟩

section

variable {machine : Machine} (named : machine.NamesAreIdentifiers)

include named

theorem quiet_base_class : Quiet (baseClass machine).rows := by
  have own := named.own.unscoped
  have heading : (baseClass machine).heading = "class " ++ "State" := by
    simp only [Class.heading, baseClass, String.append_empty]
  have pointer : Unscoped (machine.name ++ " *statemachine;") :=
    own.append (unscoped_literal (by decide))
  have setter : Unscoped ("void set_context(" ++ machine.name ++ " *statemachine)") :=
    own.between (by decide)
  have handlers : ∀ event ∈ machine.events, Inert ("virtual void " ++ event ++ "()" ++ " \x7b") ∧
      Inert "std::cout << \"Impossible event for the current state.\" << std::endl;" := by
    intro event member
    have heading : Unscoped ("virtual void " ++ event ++ "()") :=
      (named.events event member).unscoped.between (by decide)
    exact ⟨heading.opened, (apart_literal (by decide)).inert⟩
  have opening : Apart ("class " ++ "State") := (apart_literal (by decide)).append (by decide)
  apply quiet_class
  · rw [heading]
    exact opening.opened
  · simp only [baseClass, List.forall_mem_cons, List.forall_mem_append, List.forall_mem_map,
      quiet_line, quiet_method, List.not_mem_nil, false_implies, implies_true, and_true,
      pointer.inert, setter.opened, true_and]
    exact ⟨by decide, by decide, ⟨(unscoped_literal (by decide)).inert,
      (apart_literal (by decide)).inert, by decide, (apart_literal (by decide)).inert⟩, handlers⟩

theorem default_note_lacks {owner : Attribute} (member : owner ∈ machine.attributes) :
    Lacks '\n' (defaultNote owner.default) := by
  have mentioned : MentionsIdentifiers owner.mentions := fun mention mentionMember =>
    named.mentioned mention
      (List.mem_append_left _ (List.mem_flatMap.mpr ⟨owner, member, mentionMember⟩))
  unfold defaultNote
  split
  · decide
  · decide
  · next default _ supplied =>
      rw [Attribute.mentions, supplied] at mentioned
      have text := Expr.cpp_lacks (by decide : Lacks '\n' "") (expr_named mentioned)
      simp +decide only [lacks_append, text]

theorem quiet_fields (values : List Value) {member : Member}
    (declared : member ∈ List.zipWith field machine.attributes values) : Quiet member.rows := by
  rw [← List.map_uncurry_zip_eq_zipWith, List.mem_map] at declared
  obtain ⟨⟨owner, value⟩, paired, rfl⟩ := declared
  have member := (List.of_mem_zip paired).1
  have name := (named.attributes owner member).unscoped.single
  have note := default_note_lacks named member
  have type : Apart owner.ty.cpp := by
    cases owner.ty <;> exact apart_literal (by decide)
  have text : Apart (owner.ty.cpp ++ " " ++ owner.name ++ " = " ++ value.cpp ++ ";" ++
      defaultNote owner.default) :=
    (((((type.append (by decide)).append name).append (by decide)).append value.cpp_lacks).append
      (by decide)).append note
  exact quiet_line.mpr text.inert

theorem quiet_context_methods :
    ∀ member ∈ contextMethods machine, Quiet member.rows := by
  have own := named.own.unscoped
  have built : Unscoped (machine.name ++ "(State* initial_state)") :=
    own.append (unscoped_literal (by decide))
  have destroyed : Unscoped ("~" ++ machine.name ++ "()") := own.between (by decide)
  have moved : Unscoped "void transition_to(State *new_state)" := unscoped_literal (by decide)
  simp only [contextMethods, List.forall_mem_cons, quiet_method, quiet_line_cons, quiet_append,
    quiet_flat, quiet_delete, List.not_mem_nil, false_implies, implies_true, and_true,
    built.opened, destroyed.opened, moved.opened, true_and, quiet_nil]
  and_intros <;> exact (apart_literal (by decide)).inert

theorem quiet_context_class (values : List Value) : Quiet (contextClass machine values).rows := by
  have own := named.own.unscoped
  have heading : (contextClass machine values).heading = "class " ++ machine.name := by
    simp only [Class.heading, contextClass, String.append_empty]
  have opening : Unscoped ("class " ++ machine.name) := (unscoped_literal (by decide)).append own
  have events : ∀ event ∈ machine.events,
      Inert ("void " ++ event ++ "()" ++ " \x7b") ∧ Inert ("state->" ++ event ++ "();") := by
    intro event member
    have name := (named.events event member).unscoped
    have method : Unscoped ("void " ++ event ++ "()") := name.between (by decide)
    have forwards : Unscoped ("state->" ++ event ++ "();") := name.between (by decide)
    exact ⟨method.opened, forwards.inert⟩
  apply quiet_class
  · rw [heading]
    exact opening.opened
  · simp only [contextClass, List.forall_mem_cons, List.forall_mem_append, List.forall_mem_map,
      quiet_line, quiet_method, List.not_mem_nil, false_implies, implies_true, and_true]
    refine ⟨⟨by decide, (apart_literal (by decide)).inert⟩, by decide, ?_,
      quiet_context_methods named, events⟩
    intro fields declared member
    split at declared
    · cases declared
    · obtain rfl := List.mem_singleton.mp declared
      exact quiet_fields named values

theorem transition_named {state : State} (declared : state ∈ machine.states)
    {transition : Transition} (handled : transition ∈ state.handled) :
    MentionsIdentifiers (transition.mentions state.name) := by
  intro mention member
  have inState : mention ∈ state.mentions := List.mem_append_left _
    (List.mem_flatMap.mpr ⟨transition, state.handled_first.ordered.subset handled, member⟩)
  exact named.mentioned mention
    (List.mem_append_right _ (List.mem_flatMap.mpr ⟨state, declared, inState⟩))

theorem entry_statements {state : State} (declared : state ∈ machine.states) :
    ∀ text ∈ state.entry.flatMap (Action.cpp contextPath), IsStatement text := by
  intro text member
  obtain ⟨action, actionMember, written⟩ := List.mem_flatMap.mp member
  have mentioned : MentionsIdentifiers (action.mentions (.entry state.name)) := by
    intro mention mentionMember
    have inState : mention ∈ state.mentions := List.mem_append_right _
      (List.mem_flatMap.mpr ⟨action, actionMember, mentionMember⟩)
    exact named.mentioned mention
      (List.mem_append_right _ (List.mem_flatMap.mpr ⟨state, declared, inState⟩))
  exact Action.cpp_statements mentioned text written

theorem quiet_state_class {state : State} (declared : state ∈ machine.states) :
    Quiet (stateClass state).rows := by
  have own := (named.states state declared).unscoped.single
  have heading : (stateClass state).heading = "class " ++ state.name ++ " : public " ++ "State" := by
    simp only [Class.heading, stateClass, String.append_assoc]
  have opening : Apart ("class " ++ state.name ++ " : public " ++ "State") :=
    (((apart_literal (by decide)).append own).append (by decide)).append (by decide)
  have getter : Apart ("std::string get_name() override \x7b return " ++
      Quoted.encode state.name ++ "; \x7d") :=
    ((apart_literal (by decide)).append (quoted_lacks state.name)).append (by decide)
  apply quiet_class
  · rw [heading]
    exact opening.opened
  · simp only [stateClass, List.forall_mem_cons, List.forall_mem_map, quiet_line,
      List.not_mem_nil, false_implies, implies_true, and_true, getter.inert, true_and]
    refine ⟨by decide, ?_⟩
    intro transition handled
    have event := (transition_names (transition_named named declared handled)).1.unscoped
    have override : Unscoped ("void " ++ transition.event ++ "() override;") :=
      event.between (by decide)
    exact override.inert

theorem quiet_input_loop : Quiet (inputLoop machine) := by
  have own := named.own.unscoped.single
  have loop : Apart "for (std::string input; std::getline(std::cin, input);)" :=
    apart_literal (by decide)
  have found : Apart ("std::map<std::string, Event>::const_iterator event_by_name_it = " ++
      "event_by_name.find(input);") :=
    (apart_literal (by decide)).append (lacks_literal (by decide))
  have condition : Apart "if (event_by_name_it == event_by_name.end())" :=
    apart_literal (by decide)
  have unknown : Apart ("std::cout << \"There is no event <\" << input << \"> in the " ++
      machine.name ++ " statemachine.\" << std::endl;") :=
    ((apart_literal (by decide)).append own).append (lacks_literal (by decide))
  simp only [inputLoop, quiet_braced, quiet_line_cons, quiet_append, quiet_nil, quiet_flat,
    List.forall_mem_cons, List.not_mem_nil, false_implies, implies_true, loop.opened, found.inert,
    condition.opened, unknown.inert, true_and, and_true]
  exact ⟨⟨⟨(apart_literal (by decide)).inert, by decide⟩, (apart_literal (by decide)).inert,
    (apart_literal (by decide)).inert⟩, by decide⟩

theorem quiet_main {initial : State} (declared : initial ∈ machine.states) :
    Quiet (braced "int main()" (mainBody machine initial) "") := by
  have own := named.own.unscoped
  have begins := (named.states initial declared).unscoped
  have built : Unscoped (machine.name ++ " *statemachine = new " ++ machine.name ++ "(new " ++
      initial.name ++ ");") :=
    ((((own.append (unscoped_literal (by decide))).append own).append
      (unscoped_literal (by decide))).append begins).append (unscoped_literal (by decide))
  have registered : ∀ event ∈ machine.events, Inert ("event_by_name[" ++ Quoted.encode event ++
      "] = &" ++ machine.name ++ "::" ++ event ++ ";") := by
    intro event member
    have name := (named.events event member).unscoped.single
    have text : Apart ("event_by_name[" ++ Quoted.encode event ++ "] = &" ++ machine.name ++
        "::" ++ event ++ ";") :=
      ((((((apart_literal (by decide)).append (quoted_lacks event)).append (by decide)).append
        own.single).append (by decide)).append name).append (by decide)
    exact text.inert
  have entered : ∀ text ∈ initial.entry.flatMap (Action.cpp contextPath), Inert text :=
    fun text member => (entry_statements named declared text member).inert
  have opening : Apart "int main()" := apart_literal (by decide)
  simp only [quiet_braced, mainBody, quiet_spaced, List.forall_mem_cons, quiet_line_cons, quiet_flat,
    List.forall_mem_map, List.not_mem_nil, false_implies, implies_true, and_true, opening.opened,
    built.inert, quiet_input_loop named, true_and]
  exact ⟨⟨⟨(apart_literal (by decide)).inert, entered⟩, ⟨(apart_literal (by decide)).inert, registered⟩,
    (apart_literal (by decide)).inert, (apart_literal (by decide)).inert⟩, by decide⟩

theorem readable_handler {state : State} (declared : state ∈ machine.states)
    {transition : Transition} (handled : transition ∈ state.handled) :
    (Handler.ofTransition state transition).Readable := by
  have mentioned := transition_named named declared handled
  obtain ⟨event, target⟩ := transition_names mentioned
  have own := (named.states state declared).unscoped
  refine ⟨own.single, own.plain, event.unscoped.single, ?_, ?_, target.unscoped.single⟩
  · cases guard : transition.guard with
    | none => simp +decide [Handler.ofTransition, guard]
    | some condition =>
        have conditionNamed : MentionsIdentifiers
            (condition.mentions (.transition state.name transition.event)) := by
          intro mention member
          apply mentioned
          rw [Transition.mentions, guard]
          exact List.mem_append_left _ (List.mem_append_right _ member)
        have path : Lacks '\n' contextPath := lacks_literal (by decide)
        have text := Expr.cpp_lacks path (expr_named conditionNamed)
        simpa [Handler.ofTransition, guard] using text
  · intro text member
    obtain ⟨action, actionMember, written⟩ := List.mem_flatMap.mp member
    have actionNamed : MentionsIdentifiers (action.mentions (.transition state.name transition.event)) :=
      fun mention mentionMember => mentioned mention
        (List.mem_append_right _ (List.mem_flatMap.mpr ⟨action, actionMember, mentionMember⟩))
    exact Action.cpp_statements actionNamed text written

end

theorem read_from_handlers {handlers : List Handler}
    (readable : ∀ handler ∈ handlers, handler.Readable) (rest : List (List Char)) :
    readFrom .outside
        ((handlers.flatMap fun handler => handler.rows ++ [Row.blank]).map Row.trimmed ++ rest) =
      (readFrom .outside rest).map (handlers ++ ·) := by
  induction handlers with
  | nil => simp
  | cons handler others induction =>
      have recursive := induction fun other member => readable other (List.mem_cons_of_mem _ member)
      have blank : Quiet [.blank] := by decide
      rw [List.flatMap_cons, List.map_append, List.map_append, List.append_assoc, List.append_assoc,
        read_from_handler (readable handler List.mem_cons_self), read_from_quiet blank, recursive]
      cases readFrom .outside rest <;> rfl

theorem read_from_state {name : String} (single : Lacks '\n' name) {handlers : List Handler}
    (readable : ∀ handler ∈ handlers, handler.Readable) (rest : List (List Char)) :
    readFrom .outside ((Program.handlerRows name handlers).map Row.trimmed ++ rest) =
      (readFrom .outside rest).map (handlers ++ ·) := by
  have comment : Quiet [line ("// " ++ name)] := by
    have text : Apart ("// " ++ name) := (apart_literal (by decide)).append single
    exact quiet_line.mpr text.inert
  unfold Program.handlerRows
  split
  · next empty =>
      rw [List.isEmpty_iff.mp empty]
      simp
  · rw [← List.singleton_append, List.map_append, List.append_assoc, read_from_quiet comment,
      read_from_handlers readable]

def declarationRows (machine : Machine) (values : List Value) : List Row :=
  flat ["#include <iostream>", "#include <map>", "#include <string>", "#include <chrono>",
      "#include <thread>"] ++
    [.blank, line ("class " ++ machine.name ++ ";"), .blank] ++
    (baseClass machine :: contextClass machine values :: machine.states.map stateClass).flatMap
      fun declared => declared.rows ++ [.blank]

def tableRows (states : List State) : List Row :=
  states.flatMap fun state => Program.handlerRows state.name (handlersOf state)

def closingRows (machine : Machine) (initial : State) : List Row :=
  [line ("typedef void (" ++ machine.name ++ "::*Event)();"), .blank] ++
    braced "int main()" (mainBody machine initial) ""

theorem assembled_rows (machine : Machine) (initial : State) (values : List Value) :
    (assembled machine initial values).rows =
      declarationRows machine values ++ (tableRows machine.states ++ closingRows machine initial) := by
  simp only [Program.rows, assembled, declarationRows, tableRows, closingRows, List.flatMap_map,
    List.append_assoc]

theorem quiet_declarations {machine : Machine} (named : machine.NamesAreIdentifiers)
    (values : List Value) : Quiet (declarationRows machine values) := by
  have own := named.own.unscoped.single
  have forward : Apart ("class " ++ machine.name ++ ";") :=
    ((apart_literal (by decide)).append own).append (by decide)
  have includes : Quiet (flat ["#include <iostream>", "#include <map>", "#include <string>",
      "#include <chrono>", "#include <thread>"]) := by
    simp only [quiet_flat, List.forall_mem_cons, List.not_mem_nil, false_implies, implies_true,
      and_true]
    and_intros <;> exact (apart_literal (by decide)).inert
  have classes : ∀ declared ∈
      baseClass machine :: contextClass machine values :: machine.states.map stateClass,
      Quiet declared.rows := by
    simp only [List.forall_mem_cons, List.forall_mem_map]
    exact ⟨quiet_base_class named, quiet_context_class named values,
      fun state member => quiet_state_class named member⟩
  rw [declarationRows, quiet_append, quiet_append, quiet_flat_map]
  refine ⟨⟨includes, ?_⟩, ?_⟩
  · exact quiet_cons.mpr ⟨trivial, quiet_line_cons.mpr ⟨forward.inert, by decide⟩⟩
  · intro declared member
    exact quiet_append.mpr ⟨classes declared member, by decide⟩

theorem quiet_closing {machine : Machine} (named : machine.NamesAreIdentifiers) {initial : State}
    (declared : initial ∈ machine.states) : Quiet (closingRows machine initial) := by
  have own := named.own.unscoped.single
  have pointer : Apart ("typedef void (" ++ machine.name ++ "::*Event)();") :=
    ((apart_literal (by decide)).append own).append (lacks_literal (by decide))
  rw [closingRows, quiet_append, quiet_line_cons]
  exact ⟨⟨pointer.inert, by decide⟩, quiet_main named declared⟩

theorem handlers_readable {machine : Machine} (named : machine.NamesAreIdentifiers) {state : State}
    (declared : state ∈ machine.states) : ∀ handler ∈ handlersOf state, handler.Readable := by
  intro handler written
  obtain ⟨transition, handled, rfl⟩ := List.mem_map.mp written
  exact readable_handler named declared handled

theorem read_from_states {machine : Machine} (named : machine.NamesAreIdentifiers)
    {states : List State} (declared : states ⊆ machine.states) (rest : List (List Char)) :
    readFrom .outside ((tableRows states).map Row.trimmed ++ rest) =
      (readFrom .outside rest).map (states.flatMap handlersOf ++ ·) := by
  induction states with
  | nil => simp [tableRows]
  | cons state others induction =>
      have member : state ∈ machine.states := declared List.mem_cons_self
      have recursive := induction fun other later => declared (List.mem_cons_of_mem _ later)
      have single := (named.states state member).unscoped.single
      rw [tableRows, List.flatMap_cons, List.map_append, List.append_assoc,
        read_from_state single (handlers_readable named member), ← tableRows, recursive,
        List.flatMap_cons]
      cases readFrom .outside rest <;> simp

theorem table_single {machine : Machine} (named : machine.NamesAreIdentifiers) :
    ∀ row ∈ tableRows machine.states, row.Single := by
  intro row member
  obtain ⟨state, declared, written⟩ := List.mem_flatMap.mp member
  have name := (named.states state declared).unscoped.single
  have comment : Lacks '\n' ("// " ++ state.name) := lacks_append.mpr ⟨by decide, name⟩
  unfold Program.handlerRows at written
  split at written
  · cases written
  · obtain rfl | later := List.mem_cons.mp written
    · exact comment
    · obtain ⟨handler, handled, inHandler⟩ := List.mem_flatMap.mp later
      obtain own | blank := List.mem_append.mp inHandler
      · exact (handlers_readable named declared handler handled).rows_single row own
      · obtain rfl := List.mem_singleton.mp blank
        trivial

/-- The transition table of a machine is read back from its program in the order of states and
transitions, and nothing else in the text reads as a handler, whatever is printed or commanded. -/
theorem generate_read_handlers {machine : Machine} (named : machine.NamesAreIdentifiers)
    {text : String} (generated : generate machine = .ok text) :
    readHandlers? text = some (machine.states.flatMap fun state =>
        state.handled.map fun transition => {
          state := state.name
          event := transition.event
          guard := (transition.guard.map (Expr.cpp contextPath)).getD "true"
          body := transition.actions.flatMap (Action.cpp contextPath)
          target := transition.target }) ∧
      ∀ state ∈ machine.states, state.FirstTransitions state.handled := by
  refine ⟨?_, fun state _ => state.handled_first⟩
  obtain ⟨initial, values, declared, _, written⟩ := generate_eq_ok generated
  have before := quiet_declarations named values
  have after := quiet_closing named (List.mem_of_find?_eq_some declared)
  have ends : readFrom .outside ((closingRows machine initial).map Row.trimmed) = some [] := by
    have passed := read_from_quiet after []
    rw [List.append_nil] at passed
    rw [passed, readFrom]
  rw [written, Program.text, assembled_rows, read_handlers_of_rows]
  -- Reading passes over the classes, takes in the table and passes over the main function.
  · rw [List.map_append, List.map_append, read_from_quiet before,
      read_from_states named (List.Subset.refl _), ends, Option.map_some, List.append_nil]
    rfl
  · intro row member
    obtain first | later := List.mem_append.mp member
    · exact (before row first).single
    · obtain middle | last := List.mem_append.mp later
      · exact table_single named row middle
      · exact (after row last).single

end Cpp

/-- A door that prints what looks like a handler when it opens. -/
def forgingMachine : Machine :=
  { doorMachine with
    states :=
      [{ name := "Closed"
         transitions :=
           [⟨"open", some doorGuard, "Opened",
              [.print [.text "\nvoid Closed::close() \x7b\nif (true) \x7b\n"], .run "\n\x7d else \x7b"]⟩,
            ⟨"open", none, "Closed", []⟩]
         entry := [.print [.text "\nvoid Closed::close() \x7b"]] },
       { name := "Opened", transitions := [], entry := [] }] }

theorem forging_machine_read :
    forgingMachine.NamesAreIdentifiers ∧ ∃ text, Cpp.generate forgingMachine = .ok text ∧
      Cpp.readHandlers? text = some [{
        state := "Closed"
        event := "open"
        guard := doorGuard.cpp Cpp.contextPath
        body := [
          "std::cout << \"\\nvoid Closed::close() \x7b\\nif (true) \x7b\\n\" << std::endl;",
          "std::cout << \"Run Command: \\n\x7d else \x7b()\" << std::endl;"]
        target := "Opened" }] := by
  have named : forgingMachine.NamesAreIdentifiers :=
    ⟨by decide, by decide, by decide, by decide, by decide⟩
  have folded : Cpp.foldDefaults Environment.empty forgingMachine.attributes =
      .ok [.int Word.zero, .bool true] := rfl
  have generated : ∃ text, Cpp.generate forgingMachine = .ok text := by
    rw [Cpp.generate_of_initial rfl, folded]
    exact ⟨_, rfl⟩
  obtain ⟨text, generated⟩ := generated
  exact ⟨named, text, generated, (Cpp.generate_read_handlers named generated).1⟩

end StateMachine
