import Mathlib.Data.List.Basic
import StateMachine.Environment

/-!
Environments through their views: the value bound to a name, the names in their order, and the
bindings that join the two.
-/

set_option autoImplicit false

namespace StateMachine

theorem lookup_cons_eq_ite {α : Type} (name other : String) (value : α)
    (rest : List (String × α)) :
    ((name, value) :: rest).lookup other =
      if other = name then some value else rest.lookup other := by
  by_cases same : other = name
  · subst same
    simp
  · have differs : (other == name) = false := beq_eq_false_iff_ne.mpr same
    simp only [List.lookup_cons, differs, same, if_false]

theorem lookup_set_binding {α : Type} (name other : String) (value : α)
    (bindings : List (String × α)) :
    (setBinding name value bindings).lookup other =
      if other = name then some value else bindings.lookup other := by
  induction bindings with
  | nil => exact lookup_cons_eq_ite name other value []
  | cons binding rest induction =>
      obtain ⟨bound, held⟩ := binding
      by_cases here : bound = name
      · subst here
        simp only [setBinding, if_true, lookup_cons_eq_ite]
        split <;> rfl
      · simp only [setBinding, here, if_false, lookup_cons_eq_ite, induction]
        by_cases found : other = bound
        · have apart : other ≠ name := fun same => here (found.symm.trans same)
          simp only [found, if_true, if_neg (found ▸ apart)]
        · simp only [found, if_false]

theorem lookup_filter_map {α : Type} (find : String → Option α) (names : List String)
    (name : String) :
    (names.filterMap fun bound => (find bound).map fun value => (bound, value)).lookup name =
      if name ∈ names then find name else none := by
  induction names with
  | nil => rfl
  | cons bound rest induction =>
      cases found : find bound with
      | none =>
          rw [List.filterMap_cons_none (by simp [found]), induction]
          by_cases same : name = bound
          · simp [same, found]
          · simp [same]
      | some value =>
          rw [List.filterMap_cons_some (b := (bound, value)) (by simp [found]),
            lookup_cons_eq_ite, induction]
          by_cases same : name = bound
          · simp [same, found]
          · simp [same]

namespace Environment

@[simp] theorem get_set (environment : Environment) (name other : String) (value : Value) :
    (environment.set name value).get? other =
      if other = name then some value else environment.get? other :=
  lookup_set_binding name other value environment.values

theorem get_eq_none_iff {environment : Environment} {name : String} :
    environment.get? name = none ↔ name ∉ environment.names := by
  rw [← contains_iff, contains, Bool.not_eq_true, Option.isSome_eq_false_iff,
    Option.isNone_iff_eq_none]

@[simp] theorem names_empty : empty.names = [] := rfl

theorem names_set (environment : Environment) (name : String) (value : Value) :
    (environment.set name value).names =
      if name ∈ environment.names then environment.names else environment.names ++ [name] := by
  simp only [set, contains_iff]

theorem names_set_of_mem {environment : Environment} {name : String}
    (bound : name ∈ environment.names) (value : Value) :
    (environment.set name value).names = environment.names := by
  rw [names_set, if_pos bound]

theorem get_of_mem {environment : Environment} {name : String}
    (bound : name ∈ environment.names) : ∃ value, environment.get? name = some value :=
  Option.isSome_iff_exists.mp (contains_iff.mpr bound)

theorem bindings_names (environment : Environment) :
    environment.bindings.map Prod.fst = environment.names := by
  calc environment.bindings.map Prod.fst
      = environment.names.filterMap some := by
        rw [bindings, List.map_filterMap]
        apply List.filterMap_congr
        intro name bound
        obtain ⟨value, found⟩ := get_of_mem bound
        simp [found]
    _ = environment.names := List.filterMap_some

theorem lookup_bindings (environment : Environment) (name : String) :
    environment.bindings.lookup name = environment.get? name := by
  rw [bindings, lookup_filter_map]
  split
  · rfl
  · next unbound => exact (get_eq_none_iff.mpr unbound).symm

theorem mem_bindings_iff {environment : Environment} {name : String} {value : Value} :
    (name, value) ∈ environment.bindings ↔ environment.get? name = some value := by
  simp only [bindings, List.mem_filterMap, Option.map_eq_some_iff, Prod.mk.injEq]
  constructor
  · rintro ⟨_, _, _, found, rfl, rfl⟩
    exact found
  · intro found
    have bound : environment.contains name = true := Option.isSome_iff_exists.mpr ⟨value, found⟩
    exact ⟨name, contains_iff.mp bound, value, found, rfl, rfl⟩

end Environment

end StateMachine
