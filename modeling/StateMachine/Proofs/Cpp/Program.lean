import StateMachine.Cpp.Program
import StateMachine.Proofs.Session.Consistency

/-!
What a generated program is put together from, and where the initial values of the attributes stand
in its text.
-/

set_option autoImplicit false

namespace StateMachine.Cpp

theorem rows_text_append (first second : List Row) :
    rowsText (first ++ second) = rowsText first ++ rowsText second := by
  simp only [rowsText, List.map_append, String.join_append]

@[simp] theorem spaced_singleton (part : List Row) : spaced [part] = part :=
  List.intercalate_singleton

theorem spaced_cons {part : List Row} {parts : List (List Row)} (more : parts ≠ []) :
    spaced (part :: parts) = part ++ .blank :: spaced parts := by
  rw [spaced, List.intercalate_cons_of_ne_nil more, List.append_assoc]
  rfl

def assembled (machine : Machine) (initial : State) (values : List Value) : Program where
  machine := machine.name
  base := baseClass machine
  context := contextClass machine values
  states := machine.states.map stateClass
  handlers := machine.states.map fun state => (state.name, handlersOf state)
  body := mainBody machine initial

theorem generate_of_undeclared_initial {machine : Machine} (missing : machine.initialState? = none) :
    generate machine = .error (.undeclaredInitial machine.initial) := by
  simp only [generate, Program.ofMachine, missing]
  rfl

theorem generate_of_initial {machine : Machine} {initial : State}
    (declared : machine.initialState? = some initial) :
    generate machine = do
      let values ← foldDefaults Environment.empty machine.attributes
      return (assembled machine initial values).text := by
  simp only [generate, Program.ofMachine, declared]
  cases foldDefaults Environment.empty machine.attributes <;> rfl

theorem generate_eq_ok {machine : Machine} {text : String} (generated : generate machine = .ok text) :
    ∃ initial values, machine.initialState? = some initial ∧
      foldDefaults Environment.empty machine.attributes = .ok values ∧
      text = (assembled machine initial values).text := by
  cases declared : machine.initialState? with
  | none =>
      rw [generate_of_undeclared_initial declared] at generated
      cases generated
  | some initial =>
      rw [generate_of_initial declared] at generated
      obtain ⟨values, folded, returned⟩ := bind_eq_ok_iff.mp generated
      exact ⟨initial, values, rfl, folded, (Except.ok.inj returned).symm⟩

def openingRows (machine : Machine) : List Row :=
  flat ["#include <iostream>", "#include <map>", "#include <string>", "#include <chrono>",
      "#include <thread>"] ++
    [.blank, line ("class " ++ machine.name ++ ";"), .blank] ++
    (baseClass machine).rows ++
    [.blank, line ("class " ++ machine.name ++ " \x7b"), line "private:",
      .line 1 "State* state = nullptr;", .blank, line "public:"]

def fieldLine (owner : Attribute) (value : Value) : String :=
  "    " ++ owner.ty.cpp ++ " " ++ owner.name ++ " = " ++ value.cpp ++ ";" ++
    defaultNote owner.default ++ "\n"

theorem fields_text (attributes : List Attribute) (values : List Value) :
    rowsText (deeper ((List.zipWith field attributes values).flatMap Member.rows)) =
      String.join (List.zipWith fieldLine attributes values) := by
  induction attributes generalizing values with
  | nil => rfl
  | cons owner rest induction =>
      cases values with
      | nil => rfl
      | cons value later =>
          have own : (Row.line 0 (owner.ty.cpp ++ " " ++ owner.name ++ " = " ++ value.cpp ++ ";" ++
              defaultNote owner.default)).deeper.text ++ "\n" = fieldLine owner value := by
            simp only [fieldLine, Row.deeper, Row.text, String.append_assoc]
            rfl
          simp only [List.zipWith_cons_cons, List.flatMap_cons, String.join_cons, ← induction, ← own]
          rw [deeper, List.map_append, rows_text_append]
          rfl

theorem context_rows (machine : Machine) (values : List Value) :
    ∃ rest, (contextClass machine values).rows =
      [line ("class " ++ machine.name ++ " \x7b"), line "private:",
          .line 1 "State* state = nullptr;", .blank, line "public:"] ++
        deeper ((List.zipWith field machine.attributes values).flatMap Member.rows) ++ rest := by
  have headed : (contextClass machine values).heading = "class " ++ machine.name := by
    simp only [Class.heading, contextClass, String.append_empty]
  have privateRows : Section.rows ⟨"private", [[⟨"state", [line "State* state = nullptr;"]⟩]]⟩ =
      [line "private:", .line 1 "State* state = nullptr;"] := rfl
  cases fields : List.zipWith field machine.attributes values with
  | nil =>
      simp only [Class.rows, headed]
      simp only [contextClass, fields, List.map_cons, privateRows, List.map_nil]
      rw [spaced_cons (by simp), spaced_singleton]
      exact ⟨_, rfl⟩
  | cons first others =>
      have nonempty : (first :: others).isEmpty = false := rfl
      simp only [Class.rows, headed]
      simp only [contextClass, fields, nonempty, List.map_cons, privateRows, List.map_nil,
        Bool.false_eq_true, if_false]
      rw [spaced_cons (by simp), spaced_singleton]
      simp only [Section.rows, List.singleton_append, List.map_cons]
      rw [spaced_cons (by simp [contextMethods]), deeper, List.map_append, ← deeper]
      exact ⟨_, by simp only [List.cons_append, List.append_assoc, List.nil_append]; rfl⟩

/-- The attributes come first among the public members of the context class, one line each. -/
theorem assembled_text (machine : Machine) (initial : State) (values : List Value) :
    ∃ rest, (assembled machine initial values).text =
      rowsText (openingRows machine) ++
        String.join (List.zipWith fieldLine machine.attributes values) ++ rest := by
  obtain ⟨contextRest, contextEq⟩ := context_rows machine values
  have rowsEq : ∃ rest, (assembled machine initial values).rows =
      openingRows machine ++
        deeper ((List.zipWith field machine.attributes values).flatMap Member.rows) ++ rest := by
    simp only [Program.rows, assembled, openingRows, List.flatMap_cons, contextEq]
    exact ⟨_, by simp only [List.append_assoc, List.cons_append, List.nil_append]; rfl⟩
  obtain ⟨rest, rowsEq⟩ := rowsEq
  refine ⟨rowsText rest, ?_⟩
  rw [Program.text, rowsEq, rows_text_append, rows_text_append, fields_text]

end StateMachine.Cpp
