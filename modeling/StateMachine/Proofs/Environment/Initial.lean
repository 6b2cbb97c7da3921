import StateMachine.Machine.Defaults
import StateMachine.Proofs.Environment.Assignment
import StateMachine.Proofs.Expr.Typing

/-!
The environment in which a session begins: its names, and the types of its values.
-/

set_option autoImplicit false

namespace StateMachine

theorem find_owner_of_mem {declared : List Attribute} {owner : Attribute}
    (distinct : (declared.map Attribute.name).Nodup) (member : owner ∈ declared) :
    declared.find? (fun other => other.name == owner.name) = some owner := by
  induction declared with
  | nil => cases member
  | cons first rest induction =>
      simp only [List.map_cons, List.nodup_cons] at distinct
      obtain rfl | later := List.mem_cons.mp member
      · simp
      · have apart : (first.name == owner.name) = false := by
          apply beq_eq_false_iff_ne.mpr
          intro same
          exact distinct.1 (same ▸ List.mem_map_of_mem later)
        simp only [List.find?_cons, apart]
        exact induction distinct.2 later

theorem Attribute.initial_value_ty {environment : Environment} {owner : Attribute} {value : Value}
    (initial : owner.initialValue environment = .ok value) : value.ty = owner.ty := by
  unfold Attribute.initialValue at initial
  split at initial
  · cases initial
    exact Ty.zero_ty owner.ty
  · obtain ⟨found, _, checked⟩ := bind_eq_ok_iff.mp initial
    split at checked
    · next fits =>
        cases checked
        exact fits
    · cases checked

namespace Environment

theorem Conforms.set {environment : Environment} {declared : List Attribute}
    (conforms : environment.Conforms declared) {name : String} {owner : Attribute} {value : Value}
    (found : declared.find? (fun other => other.name == name) = some owner)
    (typed : value.ty = owner.ty) : (environment.set name value).Conforms declared := by
  intro other otherOwner otherFound
  rw [get_set]
  by_cases same : other = name
  · subst same
    cases found.symm.trans otherFound
    exact ⟨value, if_pos rfl, typed⟩
  · rw [if_neg same]
    exact conforms other otherOwner otherFound

theorem init_from_cons {environment final : Environment} {owner : Attribute}
    {rest : List Attribute} (initialized : environment.initFrom (owner :: rest) = .ok final) :
    ∃ value, owner.initialValue environment = .ok value ∧
      (environment.set owner.name value).initFrom rest = .ok final :=
  bind_eq_ok_iff.mp initialized

theorem init_from_append (environment : Environment) (first second : List Attribute) :
    environment.initFrom (first ++ second) =
      environment.initFrom first >>= fun reached => reached.initFrom second := by
  induction first generalizing environment with
  | nil => rfl
  | cons owner rest induction => simp only [List.cons_append, initFrom, bind_assoc, induction]

theorem init_extend {environment : Environment} {attributes : List Attribute} {owner : Attribute}
    {value : Value} (initialized : init attributes = .ok environment)
    (initial : owner.initialValue environment = .ok value) :
    init (attributes ++ [owner]) = .ok (environment.set owner.name value) := by
  unfold init at initialized ⊢
  rw [init_from_append, initialized, ok_bind, initFrom, initial, ok_bind]
  rfl

theorem init_from_assigns {environment final : Environment} {attributes : List Attribute}
    (initialized : environment.initFrom attributes = .ok final) :
    ∃ assignments, assignments.map Prod.fst = attributes.map Attribute.name ∧
      final = environment.setAll assignments := by
  induction attributes generalizing environment with
  | nil =>
      cases initialized
      exact ⟨[], rfl, rfl⟩
  | cons owner rest induction =>
      obtain ⟨value, _, continued⟩ := init_from_cons initialized
      obtain ⟨assignments, named, rfl⟩ := induction continued
      exact ⟨(owner.name, value) :: assignments, congrArg (owner.name :: ·) named, rfl⟩

theorem init_from_names {environment final : Environment} {attributes : List Attribute}
    (initialized : environment.initFrom attributes = .ok final) :
    final.names = environment.names ++
      ((attributes.map Attribute.name).removeAll environment.names).eraseDups := by
  obtain ⟨assignments, named, rfl⟩ := init_from_assigns initialized
  rw [names_set_all, named]

theorem init_names {final : Environment} {attributes : List Attribute}
    (initialized : init attributes = .ok final) :
    final.names = (attributes.map Attribute.name).eraseDups := by
  simpa using init_from_names initialized

theorem init_from_get_of_not_mem {environment final : Environment} {attributes : List Attribute}
    (initialized : environment.initFrom attributes = .ok final) {name : String}
    (undeclared : name ∉ attributes.map Attribute.name) :
    final.get? name = environment.get? name := by
  obtain ⟨assignments, named, rfl⟩ := init_from_assigns initialized
  rw [get_set_all, lookup_reverse_eq_none_iff.mpr (named ▸ undeclared), Option.none_or]

theorem init_from_typed {environment final : Environment} {attributes : List Attribute}
    (initialized : environment.initFrom attributes = .ok final)
    (distinct : (attributes.map Attribute.name).Nodup) :
    ∀ owner ∈ attributes, ∃ value, final.get? owner.name = some value ∧ value.ty = owner.ty := by
  induction attributes generalizing environment with
  | nil => simp
  | cons first rest induction =>
      obtain ⟨value, initial, continued⟩ := init_from_cons initialized
      simp only [List.map_cons, List.nodup_cons] at distinct
      intro owner member
      obtain rfl | later := List.mem_cons.mp member
      · refine ⟨value, ?_, Attribute.initial_value_ty initial⟩
        rw [init_from_get_of_not_mem continued distinct.1, get_set, if_pos rfl]
      · exact induction continued distinct.2 owner later

theorem init_conforms {final : Environment} {attributes : List Attribute}
    (initialized : init attributes = .ok final)
    (distinct : (attributes.map Attribute.name).Nodup) : final.Conforms attributes :=
  conforms_of_forall_mem (init_from_typed initialized distinct)

theorem init_matches {final : Environment} {attributes : List Attribute}
    (initialized : init attributes = .ok final)
    (distinct : (attributes.map Attribute.name).Nodup) : final.Matches attributes where
  conforms := init_conforms initialized distinct
  declared_of_bound := by
    intro name bound
    rw [init_names initialized] at bound
    exact List.mem_eraseDups.mp bound

end Environment

end StateMachine
