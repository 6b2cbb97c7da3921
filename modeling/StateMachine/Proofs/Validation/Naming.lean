import StateMachine.Validation.Check

/-!
The checks that look at names alone, before any default, guard or action is looked at, and what they
can find.
-/

set_option autoImplicit false

namespace StateMachine

/-- The finding is about a name as it stands, or about the initial state. -/
def Finding.isNaming : Finding → Bool
  | .duplicateName _ | .duplicateCommand _ | .reservedName _ | .stateNamedAsMachine _
  | .undeclaredInitial _ | .stateNameCase => true
  | _ => false

theorem forall_mem_choice {α : Type} {holds : α → Prop} {condition : Prop} [Decidable condition]
    {first second : List α} (here : ∀ element ∈ first, holds element)
    (there : ∀ element ∈ second, holds element) :
    ∀ element ∈ if condition then first else second, holds element := by
  split
  · exact here
  · exact there

namespace Machine

def NamesOnly (diagnostics : List Diagnostic) : Prop :=
  ∀ diagnostic ∈ diagnostics, diagnostic.finding.isNaming = true

theorem names_only_singleton {diagnostic : Diagnostic}
    (naming : diagnostic.finding.isNaming = true) : NamesOnly [diagnostic] :=
  List.forall_mem_singleton.mpr naming

theorem names_only_flat_map {α : Type} {elements : List α} {check : α → List Diagnostic}
    (each : ∀ element, NamesOnly (check element)) : NamesOnly (elements.flatMap check) := by
  intro diagnostic member
  obtain ⟨element, _, found⟩ := List.mem_flatMap.mp member
  exact each element diagnostic found

theorem names_only_map {α : Type} {elements : List α} {diagnose : α → Diagnostic}
    (each : ∀ element, (diagnose element).finding.isNaming = true) :
    NamesOnly (elements.map diagnose) := by
  intro diagnostic member
  obtain ⟨element, _, rfl⟩ := List.mem_map.mp member
  exact each element

theorem check_reserved_naming (site : Site) (name : String) :
    NamesOnly (checkReserved site name) :=
  forall_mem_choice (names_only_singleton rfl) (List.forall_mem_nil _)

theorem check_generated_names_naming (machine : Machine) :
    NamesOnly machine.checkGeneratedNames := by
  have states (state : State) : NamesOnly
      (if Cpp.isReserved state.name then [⟨.state state.name, .reservedName state.name⟩]
      else if state.name = machine.name then
        [⟨.state state.name, .stateNamedAsMachine state.name⟩]
      else []) := by
    apply forall_mem_choice (names_only_singleton rfl)
    exact forall_mem_choice (names_only_singleton rfl) (List.forall_mem_nil _)
  simp only [NamesOnly, checkGeneratedNames, List.forall_mem_append]
  refine ⟨⟨⟨check_reserved_naming _ _, ?_⟩, ?_⟩, names_only_flat_map states⟩
  · exact names_only_flat_map fun _ => check_reserved_naming _ _
  · exact names_only_flat_map fun _ => check_reserved_naming _ _

theorem check_names_naming (machine : Machine) :
    NamesOnly (machine.checkUniqueNames ++ machine.checkGeneratedNames ++
      machine.checkInitialState ++ machine.checkStateNames) := by
  have unique : NamesOnly machine.checkUniqueNames :=
    List.forall_mem_append.mpr ⟨names_only_map fun _ => rfl, names_only_map fun _ => rfl⟩
  have initial : NamesOnly machine.checkInitialState :=
    forall_mem_choice (List.forall_mem_nil _) (names_only_singleton rfl)
  have capitals : NamesOnly machine.checkStateNames :=
    names_only_flat_map fun _ =>
      forall_mem_choice (List.forall_mem_nil _) (names_only_singleton rfl)
  simp only [NamesOnly, List.forall_mem_append]
  exact ⟨⟨⟨unique, machine.check_generated_names_naming⟩, initial⟩, capitals⟩

end Machine

end StateMachine
