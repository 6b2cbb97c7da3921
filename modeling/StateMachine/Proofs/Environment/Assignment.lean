import Mathlib.Data.Finset.Card
import StateMachine.Proofs.Environment.Binding

/-!
Environments after any assignments: each name stands where it was first set, with the value to
which it was last set.
-/

set_option autoImplicit false

namespace StateMachine

theorem removeAll_append_singleton (names bound : List String) (name : String) :
    names.removeAll (bound ++ [name]) =
      (names.removeAll bound).filter fun other => !(other == name) := by
  simp only [List.removeAll, List.filter_filter]
  apply List.filter_congr
  intro other _
  by_cases same : other = name <;> simp [same]

def LastSet (assignments : List (String × Value)) (name : String) (value : Value) : Prop :=
  ∃ earlier later, assignments = earlier ++ (name, value) :: later ∧ name ∉ later.map Prod.fst

/-- From behind, the last assignment is the first that a look-up meets. -/
theorem lookup_reverse_eq_some_iff {assignments : List (String × Value)} {name : String}
    {value : Value} :
    assignments.reverse.lookup name = some value ↔ LastSet assignments name value := by
  have apart_iff (passed : List (String × Value)) :
      (∀ other ∈ passed, (name != other.1) = true) ↔ name ∉ passed.reverse.map Prod.fst := by
    simp only [bne_iff_ne, List.map_reverse, List.mem_reverse, List.mem_map, not_exists, not_and]
    exact forall₂_congr fun _ _ => ne_comm
  rw [List.lookup_eq_some_iff]
  constructor
  · rintro ⟨passed, rest, reversed, apart⟩
    refine ⟨rest.reverse, passed.reverse, ?_, (apart_iff passed).mp apart⟩
    simpa using congrArg List.reverse reversed
  · rintro ⟨earlier, later, rfl, unset⟩
    refine ⟨later.reverse, earlier.reverse, by simp, (apart_iff later.reverse).mpr ?_⟩
    rwa [List.reverse_reverse]

theorem lookup_reverse_eq_none_iff {assignments : List (String × Value)} {name : String} :
    assignments.reverse.lookup name = none ↔ name ∉ assignments.map Prod.fst := by
  rw [← Option.isNone_iff_eq_none, ← Option.isSome_eq_false_iff, ← Bool.not_eq_true,
    lookup_is_some_iff, List.map_reverse, List.mem_reverse]

namespace Environment

def setAll (environment : Environment) : List (String × Value) → Environment
  | [] => environment
  | (name, value) :: rest => (environment.set name value).setAll rest

theorem names_set_all (environment : Environment) (assignments : List (String × Value)) :
    (environment.setAll assignments).names = environment.names ++
      ((assignments.map Prod.fst).removeAll environment.names).eraseDups := by
  induction assignments generalizing environment with
  | nil => simp [setAll]
  | cons assignment rest induction =>
      obtain ⟨name, value⟩ := assignment
      rw [setAll, induction, names_set, List.map_cons, List.cons_removeAll]
      -- A bound name drops out of the rest on both sides; a new one goes first on both.
      by_cases bound : name ∈ environment.names
      · simp [bound]
      · simp [bound, List.eraseDups_cons, removeAll_append_singleton]

theorem get_set_all (environment : Environment) (assignments : List (String × Value))
    (name : String) :
    (environment.setAll assignments).get? name =
      (assignments.reverse.lookup name).or (environment.get? name) := by
  induction assignments generalizing environment with
  | nil => rfl
  | cons assignment rest induction =>
      obtain ⟨target, value⟩ := assignment
      have first : (environment.set target value).get? name =
          ([(target, value)].lookup name).or (environment.get? name) := by
        rw [get_set, lookup_cons_eq_ite]
        split <;> rfl
      rw [setAll, induction, first, List.reverse_cons, List.lookup_append, Option.or_assoc]

structure Records (environment : Environment) (assignments : List (String × Value)) : Prop where
  names_nodup : environment.names.Nodup
  mem_names_iff (name : String) :
    name ∈ environment.names ↔ name ∈ environment.values.map Prod.fst
  /-- Of a name that was set several times the first one counts. -/
  names_eq : environment.names = (assignments.map Prod.fst).eraseDups
  bindings_names : environment.bindings.map Prod.fst = environment.names
  mem_bindings_iff (name : String) (value : Value) :
    (name, value) ∈ environment.bindings ↔ LastSet assignments name value
  get_eq_some_iff (name : String) (value : Value) :
    environment.get? name = some value ↔ LastSet assignments name value
  get_eq_none_iff (name : String) :
    environment.get? name = none ↔ name ∉ assignments.map Prod.fst
  size_eq : environment.size = (assignments.map Prod.fst).toFinset.card

section Empty

variable (assignments : List (String × Value))

theorem names_empty_set_all :
    (empty.setAll assignments).names = (assignments.map Prod.fst).eraseDups := by
  simpa using names_set_all empty assignments

theorem get_empty_set_all (name : String) :
    (empty.setAll assignments).get? name = assignments.reverse.lookup name := by
  rw [get_set_all]
  exact Option.or_none

theorem size_empty_set_all :
    (empty.setAll assignments).size = (assignments.map Prod.fst).toFinset.card := by
  have same : (empty.setAll assignments).names.toFinset = (assignments.map Prod.fst).toFinset := by
    ext name
    rw [List.mem_toFinset, names_empty_set_all, List.mem_eraseDups, List.mem_toFinset]
  calc (empty.setAll assignments).size
      = (empty.setAll assignments).names.toFinset.card :=
        (List.toFinset_card_of_nodup (empty.setAll assignments).names_nodup).symm
    _ = (assignments.map Prod.fst).toFinset.card := by rw [same]

theorem set_all_records : (empty.setAll assignments).Records assignments where
  names_nodup := (empty.setAll assignments).names_nodup
  mem_names_iff _ := (empty.setAll assignments).names_perm.mem_iff
  names_eq := names_empty_set_all assignments
  bindings_names := (empty.setAll assignments).bindings_names
  mem_bindings_iff name _ := by
    rw [mem_bindings_iff, get_empty_set_all, lookup_reverse_eq_some_iff]
  get_eq_some_iff name _ := by rw [get_empty_set_all, lookup_reverse_eq_some_iff]
  get_eq_none_iff name := by rw [get_empty_set_all, lookup_reverse_eq_none_iff]
  size_eq := size_empty_set_all assignments

-- Setting `z` again gives it another value in its old place.
example :
    (empty.setAll [("z", .bool false), ("a", .bool true), ("z", .bool true)]).bindings =
      [("z", .bool true), ("a", .bool true)] := by decide

end Empty

end Environment

end StateMachine
