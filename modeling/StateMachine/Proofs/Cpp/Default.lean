import StateMachine.Proofs.Cpp.Program
import StateMachine.Proofs.Validation.Default

/-!
Defaults are read three times: by a session, by the validation and by a generated program. The three
readings go through the same environments and stop at the same attribute.
-/

set_option autoImplicit false

namespace StateMachine

namespace Cpp

theorem fold_defaults_cons (known : Environment) (owner : Attribute) (rest : List Attribute) :
    foldDefaults known (owner :: rest) =
      match owner.initialValue known with
      | .error fault => .error (.unfoldable owner.name fault)
      | .ok value => do
          let values ← foldDefaults (known.set owner.name value) rest
          return value :: values := by
  cases supplied : owner.default with
  | none => simp only [foldDefaults, Attribute.initialValue, supplied, ok_bind]
  | some default =>
      simp only [foldDefaults, Attribute.initialValue, supplied]
      cases default.evaluate known with
      | error fault => rfl
      | ok value =>
          by_cases typed : value.ty = owner.ty
          · simp only [typed, if_true, ok_bind]
          · simp only [typed, if_false, ok_bind, error_bind]

theorem fold_defaults_of_stops {known : Environment} {attributes : List Attribute}
    {stopped : Attribute} {fault : Fault} (stops : known.StopsAt attributes stopped fault) :
    foldDefaults known attributes = .error (.unfoldable stopped.name fault) := by
  induction stops with
  | here rest failed => rw [fold_defaults_cons, failed]
  | later initial _ induction =>
      rw [fold_defaults_cons, initial]
      exact bind_eq_error_iff.mpr (Or.inl induction)

/-- The folded constants are what the finished initialisation binds the names to, as no later
attribute sets a name again. -/
theorem fold_defaults_of_init {known final : Environment} {attributes : List Attribute}
    (initialized : known.initFrom attributes = .ok final) :
    ∃ values, foldDefaults known attributes = .ok values ∧
      ((attributes.map Attribute.name).Nodup →
        attributes.map (fun owner => final.get? owner.name) = values.map some) := by
  induction attributes generalizing known with
  | nil => exact ⟨[], rfl, fun _ => rfl⟩
  | cons owner rest induction =>
      obtain ⟨value, initial, continued⟩ := Environment.init_from_cons initialized
      obtain ⟨values, folded, bound⟩ := induction continued
      refine ⟨value :: values, ?_, ?_⟩
      · rw [fold_defaults_cons, initial]
        exact bind_eq_ok_iff.mpr ⟨values, folded, rfl⟩
      · intro distinct
        rw [List.map_cons, List.nodup_cons] at distinct
        have own : final.get? owner.name = some value := by
          rw [Environment.init_from_get_of_not_mem continued distinct.1, Environment.get_set,
            if_pos rfl]
        rw [List.map_cons, List.map_cons, own, bound distinct.2]

end Cpp

namespace Machine

theorem open_session_of_stops {machine : Machine} {initial : State} {stopped : Attribute}
    {fault : Fault} (declared : machine.initialState? = some initial)
    (stops : Environment.empty.StopsAt machine.attributes stopped fault) :
    machine.openSession = .error (.evaluation fault) := by
  have failed : Environment.init machine.attributes = .error fault := stops.init_from_eq_error
  simp only [openSession, declared, failed]

theorem generate_of_stops {machine : Machine} {initial : State} {stopped : Attribute}
    {fault : Fault} (declared : machine.initialState? = some initial)
    (stops : Environment.empty.StopsAt machine.attributes stopped fault) :
    Cpp.generate machine = .error (.unfoldable stopped.name fault) := by
  rw [Cpp.generate_of_initial declared]
  exact bind_eq_error_iff.mpr (Or.inl (Cpp.fold_defaults_of_stops stops))

/-- How a session and a program of a machine begin: both without a state to begin in, both at the
attribute that has no initial value, or both with the same values. -/
theorem beginning_cases (machine : Machine) :
    (Cpp.generate machine = .error (.undeclaredInitial machine.initial) ∧
      machine.openSession = .error (.undeclaredInitial machine.initial)) ∨
    (∃ stopped ∈ machine.attributes, ∃ fault,
      Cpp.generate machine = .error (.unfoldable stopped.name fault) ∧
        machine.openSession = .error (.evaluation fault)) ∨
    ∃ initial environment values, machine.openSession = .ok ⟨environment, initial.name, false⟩ ∧
      Cpp.generate machine = .ok (Cpp.assembled machine initial values).text ∧
      ((machine.attributes.map Attribute.name).Nodup →
        machine.attributes.map (fun owner => environment.get? owner.name) = values.map some) := by
  cases declared : machine.initialState? with
  | none =>
      refine Or.inl ⟨Cpp.generate_of_undeclared_initial declared, ?_⟩
      simp only [openSession, declared]
  | some initial =>
      refine Or.inr ?_
      cases initialized : Environment.init machine.attributes with
      | error fault =>
          obtain ⟨stopped, stops⟩ := Environment.init_from_eq_error_iff.mp initialized
          exact Or.inl ⟨stopped, stops.mem, fault, generate_of_stops declared stops,
            open_session_of_stops declared stops⟩
      | ok environment =>
          obtain ⟨values, folded, bound⟩ := Cpp.fold_defaults_of_init initialized
          refine Or.inr ⟨initial, environment, values, ?_, ?_, bound⟩
          · simp only [openSession, declared, initialized]
          · rw [Cpp.generate_of_initial declared]
            exact bind_eq_ok_iff.mpr ⟨values, folded, rfl⟩

/-- Sessions, programs and the validation agree on defaults: on whether all of them have values, on
the fault if one has not, on the attribute it belongs to, and on the values themselves. -/
theorem defaults_read_alike (machine : Machine) :
    ((∃ text, Cpp.generate machine = .ok text) ↔ ∃ session, machine.openSession = .ok session) ∧
    (∀ failure, Cpp.generate machine = .error failure →
      failure = .undeclaredInitial machine.initial ∧ machine.openSession = .error failure ∨
      ∃ owner ∈ machine.attributes, ∃ fault, failure = .unfoldable owner.name fault ∧
        machine.openSession = .error (.evaluation fault)) ∧
    (∀ text session, Cpp.generate machine = .ok text → machine.openSession = .ok session →
      (machine.attributes.map Attribute.name).Nodup →
      ∃ values rest,
        machine.attributes.map (fun owner => session.environment.get? owner.name) =
          values.map some ∧
        text = Cpp.rowsText (Cpp.openingRows machine) ++
          String.join (List.zipWith Cpp.fieldLine machine.attributes values) ++ rest) ∧
    ((machine.attributes.map Attribute.name).Nodup →
      (hasErrors machine.checkAttributes = true ↔
        ∃ fault, Environment.init machine.attributes = .error fault) ∧
      ∀ site finding more, machine.checkAttributes = ⟨site, finding⟩ :: more →
        (∃ initial, machine.initialState? = some initial) →
        ∃ owner fault, site = .owner owner ∧ finding.severity = .error ∧
          Cpp.generate machine = .error (.unfoldable owner fault)) := by
  refine ⟨?_, ?_, ?_, ?_⟩
  · obtain ⟨failed, refused⟩ | ⟨_, _, _, failed, refused⟩ | ⟨_, _, _, opened, generated, _⟩ :=
      machine.beginning_cases
    · simp [failed, refused]
    · simp [failed, refused]
    · simp [opened, generated]
  · intro failure failed
    obtain ⟨same, refused⟩ | ⟨owner, member, fault, same, refused⟩ | ⟨_, _, _, _, generated, _⟩ :=
      machine.beginning_cases
    · cases failed.symm.trans same
      exact Or.inl ⟨rfl, refused⟩
    · cases failed.symm.trans same
      exact Or.inr ⟨owner, member, fault, rfl, refused⟩
    · cases failed.symm.trans generated
  · intro text session generated opened distinct
    obtain ⟨failed, _⟩ | ⟨_, _, _, failed, _⟩ |
        ⟨initial, environment, values, sameSession, sameText, bound⟩ := machine.beginning_cases
    · cases generated.symm.trans failed
    · cases generated.symm.trans failed
    · cases opened.symm.trans sameSession
      have textIs := Except.ok.inj (generated.symm.trans sameText)
      obtain ⟨rest, parts⟩ := Cpp.assembled_text machine initial values
      exact ⟨values, rest, bound distinct, textIs.trans parts⟩
  · intro distinct
    constructor
    · rw [← Bool.not_eq_false, check_attributes_clean_iff distinct]
      cases Environment.init machine.attributes <;> simp
    · rintro site finding more found ⟨initial, declared⟩
      obtain ⟨clean, _⟩ | ⟨stopped, fault, first, _, reported, severe, stops⟩ :=
        check_attributes_cases distinct
      · rw [clean] at found
        cases found
      · cases reported.symm.trans found
        exact ⟨stopped.name, fault, rfl, severe, generate_of_stops declared stops⟩

end Machine

/-- A door that wants to know its openings per hour before the first one. -/
def hastyMachine : Machine :=
  { doorMachine with
    attributes := doorAttributes ++ [⟨"rate", .int, some (.binary .div
      (.literal (.int ⟨60, by decide, by decide⟩)) (.reference "count"))⟩] }

theorem door_defaults_read_alike :
    (∃ text values rest, Cpp.generate doorMachine = .ok text ∧
      doorMachine.openSession = .ok doorSession ∧ (doorAttributes.map Attribute.name).Nodup ∧
      doorAttributes.map (fun owner => doorSession.environment.get? owner.name) =
        values.map some ∧
      text = Cpp.rowsText (Cpp.openingRows doorMachine) ++
        String.join (List.zipWith Cpp.fieldLine doorAttributes values) ++ rest) ∧
    hastyMachine.checkAttributes = [⟨.owner "rate", .invalid .divisionByZero⟩] ∧
    ∃ fault, Cpp.generate hastyMachine = .error (.unfoldable "rate" fault) ∧
      hastyMachine.openSession = .error (.evaluation fault) := by
  obtain ⟨succeeds, _, values, _⟩ := doorMachine.defaults_read_alike
  obtain ⟨_, failures, _, checks⟩ := hastyMachine.defaults_read_alike
  constructor
  · have distinct : (doorAttributes.map Attribute.name).Nodup := by decide
    obtain ⟨text, generated⟩ := succeeds.mpr ⟨doorSession, rfl⟩
    obtain ⟨found, rest, bound, textEq⟩ := values text doorSession generated rfl distinct
    exact ⟨text, found, rest, generated, rfl, distinct, bound, textEq⟩
  · have reported : hastyMachine.checkAttributes =
        [⟨.owner "rate", .invalid .divisionByZero⟩] := by decide
    obtain ⟨owner, fault, site, _, failed⟩ :=
      (checks (by decide)).2 _ _ _ reported ⟨_, rfl⟩
    cases site
    obtain ⟨undeclared, _⟩ | ⟨_, _, other, same, refused⟩ := failures _ failed
    · cases undeclared
    · obtain ⟨_, rfl⟩ := Failure.unfoldable.inj same
      exact ⟨reported, fault, failed, refused⟩

end StateMachine
