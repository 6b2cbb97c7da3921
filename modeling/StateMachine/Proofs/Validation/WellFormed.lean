import StateMachine.Proofs.Validation.Default

/-!
Well-formed models, said without the checks, and the main statement about validation: it finds no
error exactly in these. Every part of a model counts, whether a run can reach it or not.
-/

set_option autoImplicit false

namespace StateMachine

theorem Attribute.initial_value_eq_ok_iff {environment : Environment} {owner : Attribute}
    {default : Expr} (supplied : owner.default = some default) {value : Value} :
    owner.initialValue environment = .ok value ↔
      default.evaluate environment = .ok value ∧ value.ty = owner.ty := by
  simp only [Attribute.initialValue, supplied, bind_eq_ok_iff]
  constructor
  · rintro ⟨found, evaluated, final⟩
    split at final
    · next typed =>
        cases final
        exact ⟨evaluated, typed⟩
    · cases final
  · rintro ⟨evaluated, typed⟩
    exact ⟨value, evaluated, if_pos typed⟩

namespace Machine

/-- A default that mentions earlier attributes only, has the type of its attribute, and has a value
once the earlier ones are initialised. -/
structure DefaultWellFormed (machine : Machine) (earlier : List Attribute) (owner : Attribute)
    (default : Expr) : Prop where
  mentions_earlier : ∀ name ∈ default.references, name ∈ earlier.map Attribute.name
  typed : machine.inferIn default = .ok owner.ty
  evaluates : ∃ environment value, Environment.init earlier = .ok environment ∧
    default.evaluate environment = .ok value

def ActionWellFormed (machine : Machine) : Action → Prop
  | .assign target value =>
      ∃ owner ∈ machine.attributes, owner.name = target ∧ machine.inferIn value = .ok owner.ty
  | .print parts => ∀ expr, Printed.value expr ∈ parts → ∃ ty, machine.inferIn expr = .ok ty
  | .timeout _ => True
  | .run command => command ∈ machine.commands

structure TransitionWellFormed (machine : Machine) (transition : Transition) : Prop where
  event_declared : transition.event ∈ machine.events
  target_declared : transition.target ∈ machine.states.map State.name
  guard_typed : ∀ guard, transition.guard = some guard → machine.inferIn guard = .ok .bool
  actions : ∀ action ∈ transition.actions, machine.ActionWellFormed action

structure WellFormed (machine : Machine) : Prop where
  /-- Attributes, events and states share one space of names. -/
  names_distinct : (machine.attributes.map Attribute.name ++ machine.events ++
    machine.states.map State.name).Nodup
  commands_distinct : machine.commands.Nodup
  initial_declared : machine.initial ∈ machine.states.map State.name
  defaults : ∀ earlier owner later default, machine.attributes = earlier ++ owner :: later →
    owner.default = some default → machine.DefaultWellFormed earlier owner default
  transitions : ∀ state ∈ machine.states, ∀ transition ∈ state.transitions,
    machine.TransitionWellFormed transition
  entries : ∀ state ∈ machine.states, ∀ action ∈ state.entry, machine.ActionWellFormed action

variable {machine : Machine}

theorem identifiers_names (machine : Machine) :
    machine.identifiers.map Prod.fst =
      machine.attributes.map Attribute.name ++ machine.events ++ machine.states.map State.name := by
  simp only [identifiers, List.map_append, List.map_map]
  congr 2
  exact List.map_id machine.events

theorem state_named_iff_mem {name : String} :
    (∃ state, machine.stateNamed? name = some state) ↔ name ∈ machine.states.map State.name := by
  rw [← Option.isSome_iff_exists, stateNamed?, List.find?_isSome, List.mem_map]
  simp only [beq_iff_eq]

theorem default_well_formed_iff {earlier later : List Attribute} {owner : Attribute}
    {default : Expr} (parts : machine.attributes = earlier ++ owner :: later)
    (supplied : owner.default = some default)
    (distinct : (machine.attributes.map Attribute.name).Nodup) :
    machine.DefaultWellFormed earlier owner default ↔
      ∃ environment value, Environment.init earlier = .ok environment ∧
        owner.initialValue environment = .ok value := by
  have earlierDistinct : (earlier.map Attribute.name).Nodup := by
    rw [parts, List.map_append] at distinct
    exact (List.nodup_append.mp distinct).1
  have typed_iff {ty : Ty} : default.infer (Scope.ofAll earlier) = .ok ty ↔
      (∀ name ∈ default.references, name ∈ earlier.map Attribute.name) ∧
        machine.inferIn default = .ok ty := by
    rw [inferIn, parts]
    exact Expr.infer_earlier_iff
  constructor
  · rintro ⟨mentioned, typed, environment, value, initialized, evaluated⟩
    refine ⟨environment, value, initialized, ?_⟩
    have conforms := Environment.init_conforms initialized earlierDistinct
    have yields := Expr.evaluate_yields (Scope.ofAll earlier) conforms
      (typed_iff.mpr ⟨mentioned, typed⟩)
    rw [evaluated, Yields.ok_iff] at yields
    exact (Attribute.initial_value_eq_ok_iff supplied).mpr ⟨evaluated, yields⟩
  · rintro ⟨environment, value, initialized, initial⟩
    obtain ⟨evaluated, typed⟩ := (Attribute.initial_value_eq_ok_iff supplied).mp initial
    have agrees := Environment.init_matches initialized earlierDistinct
    have inferred := (Expr.evaluate_of_refused agrees default).2 value evaluated
    rw [typed] at inferred
    obtain ⟨mentioned, whole⟩ := typed_iff.mp inferred
    exact ⟨mentioned, whole, environment, value, initialized, evaluated⟩

theorem defaults_well_formed_iff (distinct : (machine.attributes.map Attribute.name).Nodup) :
    (∀ earlier owner later default, machine.attributes = earlier ++ owner :: later →
      owner.default = some default → machine.DefaultWellFormed earlier owner default) ↔
      ∃ environment, Environment.init machine.attributes = .ok environment := by
  constructor
  · intro defaults
    cases result : Environment.init machine.attributes with
    | ok environment => exact ⟨environment, rfl⟩
    | error fault =>
        obtain ⟨stopped, stops⟩ := Environment.init_from_eq_error_iff.mp result
        obtain ⟨earlier, later, reached, parts, initialized, failed⟩ := stops.split
        cases supplied : stopped.default with
        | none => simp [Attribute.initialValue, supplied] at failed
        | some default =>
            have wellFormed := defaults earlier stopped later default parts supplied
            obtain ⟨environment, value, same, initial⟩ :=
              (default_well_formed_iff parts supplied distinct).mp wellFormed
            cases initialized.symm.trans same
            cases failed.symm.trans initial
  · rintro ⟨final, initialized⟩ earlier owner later default parts supplied
    rw [parts] at initialized
    exact (default_well_formed_iff parts supplied distinct).mpr (Environment.init_earlier initialized)

/-- As no attribute is declared twice, the first declaration of a name is the only one. -/
theorem action_fits_iff (distinct : (machine.attributes.map Attribute.name).Nodup)
    (action : Action) : machine.ActionFits action ↔ machine.ActionWellFormed action := by
  cases action with
  | assign target value =>
      simp only [ActionFits, ActionWellFormed]
      constructor
      · rintro ⟨owner, found, inferred⟩
        exact ⟨owner, List.mem_of_find?_eq_some found, by simpa using List.find?_some found, inferred⟩
      · rintro ⟨owner, member, rfl, inferred⟩
        exact ⟨owner, find_owner_of_mem distinct member, inferred⟩
  | print parts =>
      simp only [ActionFits, ActionWellFormed]
      constructor
      · intro fits expr member
        exact fits (.value expr) member
      · intro fits part member
        cases part with
        | text content => trivial
        | value expr => exact fits expr member
  | timeout millis => exact Iff.rfl
  | run command => simp only [ActionFits, ActionWellFormed, hasCommand, List.contains_iff_mem]

theorem transition_fits_iff (distinct : (machine.attributes.map Attribute.name).Nodup)
    (transition : Transition) :
    machine.TransitionFits transition ↔ machine.TransitionWellFormed transition := by
  have guards : machine.GuardFits transition.guard ↔
      ∀ guard, transition.guard = some guard → machine.inferIn guard = .ok .bool := by
    cases supplied : transition.guard <;> simp [GuardFits]
  have events : machine.hasEvent transition.event = true ↔ transition.event ∈ machine.events := by
    rw [hasEvent, List.contains_iff_mem]
  constructor
  · rintro ⟨event, target, guard, actions⟩
    exact ⟨events.mp event, state_named_iff_mem.mp target, guards.mp guard,
      fun action member => (action_fits_iff distinct action).mp (actions action member)⟩
  · rintro ⟨event, target, guard, actions⟩
    exact ⟨events.mpr event, state_named_iff_mem.mpr target, guards.mpr guard,
      fun action member => (action_fits_iff distinct action).mpr (actions action member)⟩

theorem check_reserved_clean (site : Site) (name : String) :
    hasErrors (checkReserved site name) = false := by
  unfold checkReserved
  split <;> rfl

/-- Names that clash in a generated program are warned about only. -/
theorem check_generated_names_clean (machine : Machine) :
    hasErrors machine.checkGeneratedNames = false := by
  simp only [checkGeneratedNames, has_errors_append, has_errors_flat_map, check_reserved_clean,
    implies_true, true_and]
  intro state _
  split
  · rfl
  · split <;> rfl

theorem check_state_names_clean (machine : Machine) :
    hasErrors machine.checkStateNames = false := by
  simp only [checkStateNames, has_errors_flat_map]
  intro state _
  split <;> rfl

theorem has_no_errors_iff_well_formed (machine : Machine) :
    hasErrors machine.diagnostics = false ↔ machine.WellFormed := by
  simp only [diagnostics, has_errors_append, has_errors_flat_map, check_state_clean_iff,
    check_unique_names_clean_iff, check_initial_state_clean_iff, check_generated_names_clean,
    check_state_names_clean, and_true, identifiers_names]
  have attributesDistinct (distinct : (machine.attributes.map Attribute.name ++ machine.events ++
      machine.states.map State.name).Nodup) : (machine.attributes.map Attribute.name).Nodup :=
    (List.nodup_append.mp (List.nodup_append.mp distinct).1).1
  constructor
  · rintro ⟨⟨⟨⟨names, commands⟩, initial⟩, defaults⟩, states⟩
    have distinct := attributesDistinct names
    exact {
      names_distinct := names
      commands_distinct := commands
      initial_declared := state_named_iff_mem.mp initial
      defaults := (defaults_well_formed_iff distinct).mpr
        ((check_attributes_clean_iff distinct).mp defaults)
      transitions := fun state declared transition member =>
        (transition_fits_iff distinct transition).mp ((states state declared).1 transition member)
      entries := fun state declared action member =>
        (action_fits_iff distinct action).mp ((states state declared).2 action member) }
  · intro wellFormed
    have distinct := attributesDistinct wellFormed.names_distinct
    refine ⟨⟨⟨⟨wellFormed.names_distinct, wellFormed.commands_distinct⟩,
      state_named_iff_mem.mpr wellFormed.initial_declared⟩,
      (check_attributes_clean_iff distinct).mpr
        ((defaults_well_formed_iff distinct).mp wellFormed.defaults)⟩, ?_⟩
    intro state declared
    exact ⟨fun transition member => (transition_fits_iff distinct transition).mpr
        (wellFormed.transitions state declared transition member),
      fun action member => (action_fits_iff distinct action).mpr
        (wellFormed.entries state declared action member)⟩

end Machine

end StateMachine
