import StateMachine.Bindings
import StateMachine.Value

/-!
Environments hold the current values of attributes. Look-ups ask the values; whatever lists an
environment follows the names, which stand in the order of first assignment.
-/

set_option autoImplicit false

namespace StateMachine

structure Environment where
  /-- The value of each name. The order of the entries has no meaning. -/
  values : List (String × Value)
  /-- Names in the order in which they were first set. -/
  names : List String
  names_nodup : names.Nodup
  /-- The two stay in step: nothing is listed without a value, and no value is left out. -/
  names_perm : names.Perm (values.map Prod.fst)
deriving DecidableEq

namespace Environment

def empty : Environment where
  values := []
  names := []
  names_nodup := List.nodup_nil
  names_perm := List.Perm.nil

def size (environment : Environment) : Nat := environment.names.length

def isEmpty (environment : Environment) : Bool := environment.names.isEmpty

def get? (environment : Environment) (name : String) : Option Value :=
  environment.values.lookup name

def contains (environment : Environment) (name : String) : Bool :=
  (environment.get? name).isSome

theorem contains_iff {environment : Environment} {name : String} :
    environment.contains name = true ↔ name ∈ environment.names :=
  lookup_is_some_iff.trans environment.names_perm.mem_iff.symm

/-- Binds `name` to `value`. A name that was bound keeps its place; a new one comes last. -/
def set (environment : Environment) (name : String) (value : Value) : Environment where
  values := setBinding name value environment.values
  names :=
    if environment.contains name then environment.names else environment.names ++ [name]
  names_nodup := by
    split
    · exact environment.names_nodup
    · next unbound =>
        have apart : ∀ bound ∈ environment.names, bound ≠ name := by
          rintro bound member rfl
          exact unbound (contains_iff.mpr member)
        simpa [List.nodup_append, environment.names_nodup] using apart
  names_perm := by
    have bound_iff : environment.contains name = true ↔
        name ∈ environment.values.map Prod.fst := lookup_is_some_iff
    simp only [set_binding_names, bound_iff]
    split
    · exact environment.names_perm
    · exact environment.names_perm.append_right [name]

/-- The bound names with their values, in the order of the names. A name without a value would be
passed over. -/
def bindings (environment : Environment) : List (String × Value) :=
  environment.names.filterMap fun name => (environment.get? name).map fun value => (name, value)

end Environment

end StateMachine
