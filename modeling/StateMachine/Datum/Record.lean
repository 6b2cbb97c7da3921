import StateMachine.Datum.Basic
import StateMachine.Value

/-!
Reading records out of data. The parts of a record are found by name, or by place when the record
is written as a list; what is absent, required or empty is decided part by part.
-/

set_option autoImplicit false

namespace StateMachine

/-- The parts called `names`, in that order. Two parts of one name are refused; parts of other
names are passed over. -/
def pickNamed? {α : Type} (names : List String) (fields : List (String × α)) :
    Option (List (Option α)) :=
  names.mapM fun name =>
    match fields.filter (fun field => field.1 == name) with
    | [] => some none
    | [field] => some (some field.2)
    | _ => none

/-- The parts of a record written as a list of its leading parts; there may be no more items than
names. -/
def pickPlaced? {α : Type} : List String → List α → Option (List (Option α))
  | [], [] => some []
  | [], _ :: _ => none
  | _ :: names, [] => (pickPlaced? names []).map (none :: ·)
  | _ :: names, item :: items => (pickPlaced? names items).map (some item :: ·)

def Key.nameAmong? (names : List String) : Key → Option String
  | .name content => some content
  | .place position => names[position]?
  | .other => none

/-- The parts called `names`, in that order, found by keys. A key that tells no part is refused; a
place beyond the last name is passed over. -/
def pickKeyed? {α : Type} (names : List String) (pairs : List (Key × α)) :
    Option (List (Option α)) :=
  if pairs.any fun pair => pair.1 == .other then none
  else
    pickNamed? names (pairs.filterMap fun pair =>
      (pair.1.nameAmong? names).map fun name => (name, pair.2))

namespace Datum

def parts? (names : List String) : Datum → Option (List (Option Datum))
  | .record fields => pickNamed? names fields
  | .list items => pickPlaced? names items
  | _ => none

def pairs? : Datum → Option (List (Key × Datum))
  | .record fields => some (fields.map fun (name, part) => (.name name, part))
  | .mapping pairs => some pairs
  | _ => none

def name? : Datum → Option String
  | .text content => some content
  | _ => none

def items? : Datum → Option (List Datum)
  | .list items => some items
  | _ => none

/-- One of a fixed set of words: a text, or a record whose only part has that name and is null. -/
def word? : Datum → Option String
  | .text content => some content
  | .record [(name, .null)] => some name
  | _ => none

/-- The same inside another record, where the part may be an empty record, too. -/
def innerWord? : Datum → Option String
  | .record [(name, .record [])] => some name
  | datum => datum.word?

def value? : Datum → Option Value
  | .flag holds => some (.bool holds)
  | .integer number => (Word.ofInt? number).map .int
  | _ => none

def millis? : Datum → Option UInt64
  | .integer number =>
      if 0 ≤ number ∧ number < 18446744073709551616 then some (UInt64.ofNat number.toNat) else none
  | _ => none

def required {α : Type} (read? : Datum → Option α) : Option Datum → Option α
  | none => none
  | some part => read? part

def listed {α : Type} (read? : Datum → Option α) : Option Datum → Option (List α)
  | none => some []
  | some part => do
      let items ← part.items?
      items.mapM read?

/-- A part that may be absent or null. -/
def optional {α : Type} (read? : Datum → Option α) : Option Datum → Option (Option α)
  | none | some .null => some none
  | some part => (read? part).map some

end Datum

def Value.toDatum : Value → Datum
  | .int word => .integer word.val
  | .bool flag => .flag flag

@[simp] theorem Value.value_to_datum (value : Value) : value.toDatum.value? = some value := by
  cases value <;> simp [Value.toDatum, Datum.value?]

end StateMachine
