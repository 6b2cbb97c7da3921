import Mathlib.Data.List.Perm.Basic
import StateMachine.Proofs.Cpp.Default
import StateMachine.Proofs.Validation.WellFormed
import StateMachine.Proofs.FirstPerKey

/-!
The names that a program declares in each of its scopes. In a model without a warning about
reserved names they are told apart, but for an attribute or an event that is named like the machine:
the validation compares the name of the machine with those of the states only.
-/

set_option autoImplicit false

namespace StateMachine

/-- A model whose names leave the generated program its own. -/
structure Machine.Unreserved (machine : Machine) : Prop where
  own : Cpp.isReserved machine.name = false
  attributes : ∀ name ∈ machine.attributes.map Attribute.name, Cpp.isReserved name = false
  events : ∀ name ∈ machine.events, Cpp.isReserved name = false
  states : ∀ name ∈ machine.states.map State.name,
    Cpp.isReserved name = false ∧ name ≠ machine.name

/-- No finding is about a reserved name. -/
def Unwarned (diagnostics : List Diagnostic) : Prop :=
  ∀ diagnostic ∈ diagnostics, diagnostic.finding.code ≠ "RESERVED_IDENTIFIER"

instance (diagnostics : List Diagnostic) : Decidable (Unwarned diagnostics) :=
  inferInstanceAs (Decidable (∀ diagnostic ∈ diagnostics, _ ≠ _))

theorem unwarned_append {first second : List Diagnostic} :
    Unwarned (first ++ second) ↔ Unwarned first ∧ Unwarned second := List.forall_mem_append

theorem unwarned_flat_map {α : Type} {elements : List α} {check : α → List Diagnostic} :
    Unwarned (elements.flatMap check) ↔ ∀ element ∈ elements, Unwarned (check element) := by
  simp only [Unwarned, List.mem_flatMap]
  constructor
  · intro unwarned element member diagnostic found
    exact unwarned diagnostic ⟨element, member, found⟩
  · rintro unwarned diagnostic ⟨element, member, found⟩
    exact unwarned element member diagnostic found

theorem check_reserved_unwarned_iff {site : Site} {name : String} :
    Unwarned (Machine.checkReserved site name) ↔ Cpp.isReserved name = false := by
  unfold Machine.checkReserved
  cases Cpp.isReserved name <;> simp [Unwarned, Finding.code]

namespace Machine

variable {machine : Machine}

theorem check_generated_names_unwarned_iff :
    Unwarned machine.checkGeneratedNames ↔ machine.Unreserved := by
  have ofState (state : State) : Unwarned
        (if Cpp.isReserved state.name then [⟨.state state.name, .reservedName state.name⟩]
        else if state.name = machine.name then
          [⟨.state state.name, .stateNamedAsMachine state.name⟩]
        else []) ↔ Cpp.isReserved state.name = false ∧ state.name ≠ machine.name := by
    cases Cpp.isReserved state.name
    · by_cases same : state.name = machine.name <;> simp [Unwarned, Finding.code, same]
    · simp [Unwarned, Finding.code]
  simp only [checkGeneratedNames, unwarned_append, unwarned_flat_map, check_reserved_unwarned_iff,
    ofState]
  constructor
  · rintro ⟨⟨⟨own, attributes⟩, events⟩, states⟩
    exact ⟨own, List.forall_mem_map.mpr attributes, events, List.forall_mem_map.mpr states⟩
  · rintro ⟨own, attributes, events, states⟩
    exact ⟨⟨⟨own, List.forall_mem_map.mp attributes⟩, events⟩, List.forall_mem_map.mp states⟩

theorem unreserved_of_unwarned (unwarned : Unwarned machine.diagnostics) : machine.Unreserved := by
  simp only [diagnostics, unwarned_append] at unwarned
  exact check_generated_names_unwarned_iff.mp unwarned.1.1.1.1.2

end Machine

namespace Cpp

def Program.fileScope (program : Program) : List String :=
  (program.base :: program.context :: program.states).map Class.name ++ ["Event", "main"]

/-- What the common parent declares, its destructor apart. -/
def baseNames (machine : Machine) : List String :=
  ["State", "statemachine", "set_context", "get_name"] ++ machine.events

/-- What the context class declares, its constructor and its destructor apart. -/
def contextNames (machine : Machine) : List String :=
  ["state", "transition_to"] ++
    machine.name :: (machine.attributes.map Attribute.name ++ machine.events)

/-- What the state classes take over from their parent and do not declare again. -/
def inheritedNames : List String := ["statemachine", "set_context"]

theorem nodup_of_unreserved {own names : List String}
    (reserved : own.Nodup ∧ ∀ name ∈ own, isReserved name = true) (distinct : names.Nodup)
    (unreserved : ∀ name ∈ names, isReserved name = false) : (own ++ names).Nodup := by
  refine List.nodup_append.mpr ⟨reserved.1, distinct, ?_⟩
  rintro name isOwn other member rfl
  have isReservedName := reserved.2 name isOwn
  rw [unreserved name member] at isReservedName
  cases isReservedName

theorem base_scope (machine : Machine) :
    (baseClass machine).scope.Perm ("~State" :: baseNames machine) := by
  have events : (machine.events.map fun event => [method event ("virtual void " ++ event ++ "()")
      [line "std::cout << \"Impossible event for the current state.\" << std::endl;"]]).flatten.map
        Member.name = machine.events := by
    rw [← List.flatMap_def, List.map_flatMap]
    simp [method]
  have listed : (baseClass machine).scope =
      ["State", "statemachine"] ++ "~State" :: (["set_context", "get_name"] ++ machine.events) := by
    simp only [Class.scope, baseClass, List.flatMap_cons, List.flatMap_nil, List.flatten_append,
      List.map_append, events, List.append_nil]
    rfl
  rw [listed]
  exact List.perm_middle

theorem state_scope (state : State) :
    (stateClass state).scope = state.name :: "get_name" :: state.handled.map Transition.event := by
  simp [Class.scope, stateClass]

theorem field_names {attributes : List Attribute} {values : List Value}
    (lengths : attributes.length = values.length) :
    (List.zipWith field attributes values).map Member.name = attributes.map Attribute.name := by
  have names (owner : Attribute) (value : Value) : (field owner value).name = owner.name := rfl
  rw [List.map_zipWith]
  simp only [names]
  rw [← List.map_uncurry_zip_eq_zipWith]
  calc (attributes.zip values).map (Function.uncurry fun owner _ => owner.name)
      = ((attributes.zip values).map Prod.fst).map Attribute.name := by rw [List.map_map]; rfl
    _ = attributes.map Attribute.name := by rw [List.map_fst_zip (Nat.le_of_eq lengths)]

theorem context_scope {machine : Machine} {values : List Value}
    (lengths : machine.attributes.length = values.length) :
    (contextClass machine values).scope.Perm
      ([machine.name, "~" ++ machine.name] ++ contextNames machine) := by
  have fields := field_names lengths
  have grouped : ((if (List.zipWith field machine.attributes values).isEmpty then []
      else [List.zipWith field machine.attributes values]) : List (List Member)).flatten =
        List.zipWith field machine.attributes values := by
    split
    · next empty => rw [List.isEmpty_iff.mp empty]; rfl
    · simp
  have single (members : List Member) : (members.map fun member => [member]).flatten = members := by
    rw [← List.flatMap_def]
    exact List.flatMap_singleton' members
  have events : (machine.events.map fun event => method event ("void " ++ event ++ "()")
      [line ("state->" ++ event ++ "();")]).map Member.name = machine.events := by
    rw [List.map_map]
    exact List.map_id machine.events
  have listed : (contextClass machine values).scope =
      machine.name :: "state" :: (machine.attributes.map Attribute.name ++
        machine.name :: ("~" ++ machine.name) :: "transition_to" :: machine.events) := by
    simp only [Class.scope, contextClass, List.flatMap_cons, List.flatMap_nil, List.flatten_append,
      List.map_append, grouped, fields, single, events, List.append_nil]
    simp [contextMethods, method]
  rw [listed, List.perm_iff_count]
  intro name
  simp only [contextNames, List.count_append, List.count_cons, List.cons_append, List.nil_append]
  omega

theorem of_machine_of_well_formed {machine : Machine} (wellFormed : machine.WellFormed) :
    ∃ initial values, machine.initialState? = some initial ∧
      machine.attributes.length = values.length ∧
      Program.ofMachine machine = .ok (assembled machine initial values) := by
  have distinct : (machine.attributes.map Attribute.name).Nodup :=
    (List.nodup_append.mp (List.nodup_append.mp wellFormed.names_distinct).1).1
  obtain ⟨initial, declared⟩ := Machine.state_named_iff_mem.mpr wellFormed.initial_declared
  obtain ⟨environment, initialized⟩ :=
    (Machine.defaults_well_formed_iff distinct).mp wellFormed.defaults
  obtain ⟨values, folded, bound⟩ := fold_defaults_of_init initialized
  have lengths : machine.attributes.length = values.length := by
    simpa using congrArg List.length (bound distinct)
  have first : machine.initialState? = some initial := declared
  refine ⟨initial, values, first, lengths, ?_⟩
  simp only [Program.ofMachine, first, folded, ok_bind]
  rfl

/-- No scope of a program declares a name twice, the context class apart. -/
structure ScopesApart (machine : Machine) (program : Program) : Prop where
  file : program.fileScope.Nodup
  base : program.base.scope.Perm ("~State" :: baseNames machine) ∧ (baseNames machine).Nodup
  states : ∀ declared ∈ program.states, (declared.scope ++ inheritedNames).Nodup

section

variable {machine : Machine} (wellFormed : machine.WellFormed) (unreserved : machine.Unreserved)

include wellFormed

theorem events_distinct : machine.events.Nodup :=
  (List.nodup_append.mp (List.nodup_append.mp wellFormed.names_distinct).1).2.1

theorem state_names_distinct : (machine.states.map State.name).Nodup :=
  (List.nodup_append.mp wellFormed.names_distinct).2.1

theorem handled_declared {state : State} (declared : state ∈ machine.states) :
    ∀ event ∈ state.handled.map Transition.event, event ∈ machine.events := by
  intro event handled
  obtain ⟨transition, member, rfl⟩ := List.mem_map.mp handled
  have written := (first_per_key_sublist Transition.event state.transitions).subset member
  exact (wellFormed.transitions state declared transition written).event_declared

include unreserved

theorem file_scope_nodup (initial : State) (values : List Value) :
    (assembled machine initial values).fileScope.Nodup := by
  have apart : machine.name ∉ machine.states.map State.name := fun member =>
    (unreserved.states machine.name member).2 rfl
  have names : (machine.name :: machine.states.map State.name).Nodup :=
    List.nodup_cons.mpr ⟨apart, state_names_distinct wellFormed⟩
  have plain : ∀ name ∈ machine.name :: machine.states.map State.name, isReserved name = false :=
    List.forall_mem_cons.mpr ⟨unreserved.own, fun name member => (unreserved.states name member).1⟩
  have own : ["State", "Event", "main"].Nodup ∧
      ∀ name ∈ ["State", "Event", "main"], isReserved name = true := by decide
  have listed : (assembled machine initial values).fileScope =
      "State" :: machine.name :: machine.states.map State.name ++ ["Event", "main"] := by
    simp [Program.fileScope, assembled, baseClass, contextClass, stateClass]
  have sorted : ("State" :: machine.name :: machine.states.map State.name ++ ["Event", "main"]).Perm
      (["State", "Event", "main"] ++ machine.name :: machine.states.map State.name) :=
    List.Perm.cons "State" List.perm_append_comm
  rw [listed, sorted.nodup_iff]
  exact nodup_of_unreserved own names plain

theorem base_names_nodup : (baseNames machine).Nodup :=
  nodup_of_unreserved (by decide) (events_distinct wellFormed) unreserved.events

theorem state_scope_nodup {state : State} (declared : state ∈ machine.states) :
    ((stateClass state).scope ++ inheritedNames).Nodup := by
  have handled := handled_declared wellFormed declared
  have apart : state.name ∉ state.handled.map Transition.event := fun member =>
    (List.nodup_append.mp wellFormed.names_distinct).2.2 state.name
      (List.mem_append_right _ (handled state.name member)) state.name
      (List.mem_map_of_mem declared) rfl
  have names : (state.name :: state.handled.map Transition.event).Nodup :=
    List.nodup_cons.mpr ⟨apart, first_per_key_nodup Transition.event state.transitions⟩
  have plain : ∀ name ∈ state.name :: state.handled.map Transition.event,
      isReserved name = false :=
    List.forall_mem_cons.mpr ⟨(unreserved.states state.name (List.mem_map_of_mem declared)).1,
      fun event member => unreserved.events event (handled event member)⟩
  have own : ("get_name" :: inheritedNames).Nodup ∧
      ∀ name ∈ "get_name" :: inheritedNames, isReserved name = true := by decide
  have sorted : ((stateClass state).scope ++ inheritedNames).Perm
      ("get_name" :: inheritedNames ++ state.name :: state.handled.map Transition.event) := by
    rw [state_scope, List.perm_iff_count]
    intro name
    simp only [List.count_append, List.count_cons, List.cons_append]
    omega
  rw [sorted.nodup_iff]
  exact nodup_of_unreserved own names plain

theorem context_names_nodup_iff :
    (contextNames machine).Nodup ↔
      machine.name ∉ machine.attributes.map Attribute.name ++ machine.events := by
  have distinct : (machine.attributes.map Attribute.name ++ machine.events).Nodup :=
    (List.nodup_append.mp wellFormed.names_distinct).1
  have plain : ∀ name ∈ machine.name :: (machine.attributes.map Attribute.name ++ machine.events),
      isReserved name = false :=
    List.forall_mem_cons.mpr ⟨unreserved.own,
      List.forall_mem_append.mpr ⟨unreserved.attributes, unreserved.events⟩⟩
  constructor
  · intro nodup
    exact (List.nodup_cons.mp (List.nodup_append.mp nodup).2.1).1
  · intro apart
    exact nodup_of_unreserved (by decide) (List.nodup_cons.mpr ⟨apart, distinct⟩) plain

end

/-- In a model with no errors and no warning about reserved names, the file, the common parent and
the state classes never declare a name twice. The context class does exactly when an attribute or an
event is named like the machine. -/
theorem scopes_of_unwarned {machine : Machine} (accepted : hasErrors machine.diagnostics = false)
    (unwarned : Unwarned machine.diagnostics) :
    ∃ program, Program.ofMachine machine = .ok program ∧ ScopesApart machine program ∧
      program.context.scope.Perm ([machine.name, "~" ++ machine.name] ++ contextNames machine) ∧
      ((contextNames machine).Nodup ↔
        machine.name ∉ machine.attributes.map Attribute.name ++ machine.events) := by
  have wellFormed := Machine.has_no_errors_iff_well_formed machine |>.mp accepted
  have unreserved := Machine.unreserved_of_unwarned unwarned
  obtain ⟨initial, values, _, lengths, made⟩ := of_machine_of_well_formed wellFormed
  refine ⟨_, made, ⟨file_scope_nodup wellFormed unreserved initial values,
    ⟨base_scope machine, base_names_nodup wellFormed unreserved⟩, ?_⟩,
    context_scope lengths, context_names_nodup_iff wellFormed unreserved⟩
  intro declared member
  obtain ⟨state, stateMember, rfl⟩ := List.mem_map.mp member
  exact state_scope_nodup wellFormed unreserved stateMember

end Cpp

theorem door_scopes_apart :
    hasErrors doorMachine.diagnostics = false ∧ Unwarned doorMachine.diagnostics ∧
      ∃ program, Cpp.Program.ofMachine doorMachine = .ok program ∧
        Cpp.ScopesApart doorMachine program ∧ (Cpp.contextNames doorMachine).Nodup := by
  have accepted : hasErrors doorMachine.diagnostics = false := by decide
  have unwarned : Unwarned doorMachine.diagnostics := by decide
  obtain ⟨program, made, apart, _, names⟩ := Cpp.scopes_of_unwarned accepted unwarned
  exact ⟨accepted, unwarned, program, made, apart, names.mpr (by decide)⟩

/-- A door with an event that is named like itself. -/
def knockedMachine : Machine where
  name := "Door"
  attributes := []
  events := ["Door"]
  commands := []
  states := [{ name := "Closed", transitions := [⟨"Door", none, "Closed", []⟩], entry := [] }]
  initial := "Closed"

/-- Nothing is found in the model, and its context class has a method with the name of the class. -/
theorem knocked_machine_clashes :
    knockedMachine.diagnostics = [] ∧
      (∃ program, Cpp.Program.ofMachine knockedMachine = .ok program ∧
        program.context.scope = ["Door", "state", "Door", "~Door", "transition_to", "Door"]) ∧
      ¬ (Cpp.contextNames knockedMachine).Nodup := by
  exact ⟨by decide, ⟨_, rfl, by decide⟩, by decide⟩

end StateMachine
