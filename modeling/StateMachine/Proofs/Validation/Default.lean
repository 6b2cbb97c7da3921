import StateMachine.Proofs.Environment.Stop
import StateMachine.Proofs.Expr.Scope
import StateMachine.Proofs.Validation.Clean

/-!
The check of defaults and the initialisation of attributes go through the same environments as
long as nothing is found, and the first finding is about the attribute at which the initialisation
stops.
-/

set_option autoImplicit false

namespace StateMachine

theorem Scope.visible_for_default {earlier later : List Attribute} {owner : Attribute}
    (first : owner.name ∉ earlier.map Attribute.name) :
    (Scope.forDefault (earlier ++ owner :: later) owner.name).visible = earlier := by
  have apart : ∀ other ∈ earlier, (!(other.name == owner.name)) = true := by
    intro other member
    have differs : other.name ≠ owner.name := fun same =>
      first (same ▸ List.mem_map_of_mem member)
    simp [differs]
  simp only [Scope.forDefault, Scope.visible]
  rw [List.takeWhile_append_of_pos apart]
  simp

namespace Machine

/-- A default is found fault with exactly when its attribute has no initial value. Where inference
refuses it, evaluation fails as well, although perhaps for another reason. -/
theorem check_default_cases {declared earlier : List Attribute} {environment : Environment}
    {owner : Attribute} (visible : (Scope.forDefault declared owner.name).visible = earlier)
    (agrees : environment.Matches earlier) :
    (∃ value, checkDefault declared environment owner = ([], value) ∧
      owner.initialValue environment = .ok value) ∨
    ∃ finding fault value,
      checkDefault declared environment owner = ([⟨.owner owner.name, finding⟩], value) ∧
        finding.severity = .error ∧ owner.initialValue environment = .error fault := by
  have sameVisible : (Scope.ofAll earlier).visible =
      (Scope.forDefault declared owner.name).visible := visible.symm
  cases supplied : owner.default with
  | none =>
      refine Or.inl ⟨owner.ty.zero, ?_, ?_⟩
      · simp only [checkDefault, supplied]
      · simp only [Attribute.initialValue, supplied]
  | some default =>
      have completeness := (Expr.evaluate_of_refused agrees default).2
      cases evaluated : default.evaluate environment with
      | error fault =>
          have failed : owner.initialValue environment = .error fault := by
            simp only [Attribute.initialValue, supplied, evaluated, error_bind]
          refine Or.inr ?_
          cases inferred : default.infer (Scope.forDefault declared owner.name) with
          | error refusal =>
              exact ⟨.invalid refusal, fault, owner.ty.zero,
                by simp only [checkDefault, supplied, inferred], rfl, failed⟩
          | ok found =>
              by_cases same : found = owner.ty
              · exact ⟨.invalid fault, fault, owner.ty.zero,
                  by simp only [checkDefault, supplied, inferred, same, if_true, evaluated], rfl,
                  failed⟩
              · exact ⟨.defaultMismatch default found owner.name owner.ty, fault, owner.ty.zero,
                  by simp only [checkDefault, supplied, inferred, same, if_false], rfl, failed⟩
      | ok value =>
          have inferred : default.infer (Scope.forDefault declared owner.name) = .ok value.ty :=
            Expr.infer_of_lookup
              (fun _ _ _ found => Scope.lookup_of_same_visible sameVisible found)
              (completeness value evaluated)
          by_cases same : value.ty = owner.ty
          · refine Or.inl ⟨value, ?_, ?_⟩
            · simp only [checkDefault, supplied, inferred, same, if_true, evaluated]
            · simp only [Attribute.initialValue, supplied, evaluated, ok_bind, same, if_true]
          · refine Or.inr ⟨.defaultMismatch default value.ty owner.name owner.ty,
              .mismatch (.default owner.name) owner.ty value.ty, owner.ty.zero, ?_, rfl, ?_⟩
            · simp only [checkDefault, supplied, inferred, same, if_false]
            · simp only [Attribute.initialValue, supplied, evaluated, ok_bind, same, if_false]

/-- The check of the remaining attributes after `earlier` ones that were initialised. -/
theorem check_defaults_cases (earlier : List Attribute) {rest : List Attribute}
    {environment : Environment}
    (distinct : ((earlier ++ rest).map Attribute.name).Nodup)
    (initialized : Environment.init earlier = .ok environment) :
    (checkDefaults (earlier ++ rest) environment rest = [] ∧
      ∃ final, environment.initFrom rest = .ok final) ∨
    ∃ stopped fault finding more,
      checkDefaults (earlier ++ rest) environment rest =
          ⟨.owner stopped.name, finding⟩ :: more ∧
        finding.severity = .error ∧ environment.StopsAt rest stopped fault := by
  induction rest generalizing earlier environment with
  | nil => exact Or.inl ⟨rfl, environment, rfl⟩
  | cons owner rest induction =>
      have earlierDistinct : (earlier.map Attribute.name).Nodup := by
        rw [List.map_append] at distinct
        exact (List.nodup_append.mp distinct).1
      have first : owner.name ∉ earlier.map Attribute.name := by
        rw [List.map_append, List.map_cons] at distinct
        intro member
        exact (List.nodup_append.mp distinct).2.2 _ member _ (by simp) rfl
      have agrees := Environment.init_matches initialized earlierDistinct
      have visible : (Scope.forDefault (earlier ++ owner :: rest) owner.name).visible = earlier :=
        Scope.visible_for_default first
      obtain ⟨value, checked, initial⟩ | ⟨finding, fault, value, checked, severe, failed⟩ :=
        check_default_cases visible agrees
      · -- The attribute just checked joins the earlier ones, which later defaults may mention.
        have split : earlier ++ owner :: rest = earlier ++ [owner] ++ rest := by simp
        have extended := Environment.init_extend initialized initial
        have later := induction (earlier ++ [owner]) (by rw [← split]; exact distinct) extended
        rw [← split] at later
        simp only [checkDefaults, checked, List.nil_append]
        obtain ⟨clean, final, continued⟩ | ⟨stopped, fault, finding, more, found, severe, stops⟩ :=
          later
        · exact Or.inl ⟨clean, final, bind_eq_ok_iff.mpr ⟨value, initial, continued⟩⟩
        · exact Or.inr ⟨stopped, fault, finding, more, found, severe, .later initial stops⟩
      · refine Or.inr ⟨owner, fault, finding, ?_⟩
        simp only [checkDefaults, checked, List.singleton_append]
        exact ⟨_, rfl, severe, .here rest failed⟩

theorem check_attributes_cases {machine : Machine}
    (distinct : (machine.attributes.map Attribute.name).Nodup) :
    (machine.checkAttributes = [] ∧
      ∃ environment, Environment.init machine.attributes = .ok environment) ∨
    ∃ stopped fault finding more,
      machine.checkAttributes = ⟨.owner stopped.name, finding⟩ :: more ∧
        finding.severity = .error ∧
        Environment.empty.StopsAt machine.attributes stopped fault :=
  check_defaults_cases [] distinct rfl

theorem check_attributes_clean_iff {machine : Machine}
    (distinct : (machine.attributes.map Attribute.name).Nodup) :
    hasErrors machine.checkAttributes = false ↔
      ∃ environment, Environment.init machine.attributes = .ok environment := by
  obtain ⟨clean, initialized⟩ | ⟨stopped, fault, finding, more, found, severe, stops⟩ :=
    check_attributes_cases distinct
  · simp only [clean, initialized, hasErrors, List.any_nil]
  · have failed : Environment.init machine.attributes = .error fault := stops.init_from_eq_error
    simp [found, failed, hasErrors, Diagnostic.isError, severe]

end Machine

end StateMachine
