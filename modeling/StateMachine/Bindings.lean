/-!
Bindings of names in the order in which the names were first bound.
-/

set_option autoImplicit false

namespace StateMachine

/-- Replaces the value of a bound name in place; appends the binding otherwise. -/
def setBinding {α : Type} (name : String) (value : α) : List (String × α) → List (String × α)
  | [] => [(name, value)]
  | (bound, held) :: rest =>
      if bound = name then (bound, value) :: rest
      else (bound, held) :: setBinding name value rest

/-- A bound name keeps its place; a new one comes last. -/
theorem set_binding_names {α : Type} (name : String) (value : α)
    (bindings : List (String × α)) :
    (setBinding name value bindings).map Prod.fst =
      if name ∈ bindings.map Prod.fst then bindings.map Prod.fst
      else bindings.map Prod.fst ++ [name] := by
  induction bindings with
  | nil => simp [setBinding]
  | cons binding rest induction =>
      obtain ⟨bound, held⟩ := binding
      by_cases here : bound = name
      · simp [setBinding, here]
      · have apart : name ≠ bound := fun same => here same.symm
        simp only [setBinding, here, if_false, List.map_cons, List.mem_cons, apart, false_or,
          induction]
        split <;> simp

theorem lookup_is_some_iff {α : Type} {name : String} {bindings : List (String × α)} :
    (bindings.lookup name).isSome = true ↔ name ∈ bindings.map Prod.fst := by
  rw [List.lookup_isSome_iff, List.mem_map]
  constructor
  · rintro ⟨binding, member, same⟩
    exact ⟨binding, member, (beq_iff_eq.mp same).symm⟩
  · rintro ⟨binding, member, rfl⟩
    exact ⟨binding, member, beq_self_eq_true _⟩

end StateMachine
