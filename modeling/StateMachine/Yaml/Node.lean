import StateMachine.Yaml.Token

/-!
Nodes of YAML text: scalars, lists, records, and references to other nodes. Nodes refer to one another
by the names of their anchors in the text. A name may be given again, so the nodes are numbered, and
a reference keeps the number that its name has at its place.
-/

set_option autoImplicit false

namespace StateMachine.Yaml

/-- What may stand before the content of a node. -/
structure Properties (Label : Type) where
  anchor : Option Label
  tag : Option Tag
deriving Repr

namespace Properties

def empty {Label : Type} : Properties Label := ⟨none, none⟩

def isEmpty {Label : Type} (properties : Properties Label) : Bool :=
  properties.anchor.isNone && properties.tag.isNone

end Properties

inductive Node (Label : Type) where
  | scalar (properties : Properties Label) (content : String) (style : Style)
  | list (properties : Properties Label) (items : List (Node Label))
  | record (properties : Properties Label) (pairs : List (Node Label × Node Label))
  | alias (label : Label)
deriving Repr

namespace Node

/-- The scalar that stands where nothing is written. -/
def empty {Label : Type} : Node Label := .scalar Properties.empty "" .plain

mutual

/-- The number of marks that tell a node: one for a scalar or a reference, a first and a last one for
a collection. -/
def weight {Label : Type} : Node Label → Nat
  | .scalar _ _ _ | .alias _ => 1
  | .list _ items => itemsWeight items + 2
  | .record _ pairs => pairsWeight pairs + 2

def itemsWeight {Label : Type} : List (Node Label) → Nat
  | [] => 0
  | item :: rest => item.weight + itemsWeight rest

def pairsWeight {Label : Type} : List (Node Label × Node Label) → Nat
  | [] => 0
  | (name, part) :: rest => name.weight + part.weight + pairsWeight rest

end

abbrev Numbers := List (String × Nat)

/-- Gives a name the number of names so far, its own included if it had one before. Two names may
share a number then. -/
def enter (properties : Properties String) (numbers : Numbers) : Properties Nat × Numbers :=
  match properties.anchor with
  | none => (⟨none, properties.tag⟩, numbers)
  | some name =>
      (⟨some numbers.length, properties.tag⟩,
        (name, numbers.length) :: numbers.filter fun entry => entry.1 != name)

mutual

/-- Replaces names by numbers, in the order of the text. A reference to a name that has not been
given is refused. -/
def number? : Node String → Numbers → Option (Node Nat × Numbers)
  | .scalar properties content style, numbers =>
      let (numbered, after) := enter properties numbers
      some (.scalar numbered content style, after)
  | .alias name, numbers => (numbers.lookup name).map fun number => (.alias number, numbers)
  | .list properties items, numbers => do
      let (numbered, begun) := enter properties numbers
      let (inner, after) ← numberItems? items begun
      return (.list numbered inner, after)
  | .record properties pairs, numbers => do
      let (numbered, begun) := enter properties numbers
      let (inner, after) ← numberPairs? pairs begun
      return (.record numbered inner, after)

def numberItems? : List (Node String) → Numbers → Option (List (Node Nat) × Numbers)
  | [], numbers => some ([], numbers)
  | item :: rest, numbers => do
      let (first, between) ← item.number? numbers
      let (others, after) ← numberItems? rest between
      return (first :: others, after)

def numberPairs? : List (Node String × Node String) → Numbers →
    Option (List (Node Nat × Node Nat) × Numbers)
  | [], numbers => some ([], numbers)
  | (name, part) :: rest, numbers => do
      let (firstName, afterName) ← name.number? numbers
      let (firstPart, between) ← part.number? afterName
      let (others, after) ← numberPairs? rest between
      return ((firstName, firstPart) :: others, after)

end

def entry {Label : Type} (properties : Properties Label) (node : Node Label) :
    List (Label × Node Label) :=
  properties.anchor.toList.map (·, node)

mutual

/-- The numbered nodes in the order of their beginnings. -/
def entries {Label : Type} : Node Label → List (Label × Node Label)
  | .scalar properties content style => entry properties (.scalar properties content style)
  | .alias _ => []
  | .list properties items => entry properties (.list properties items) ++ itemsEntries items
  | .record properties pairs => entry properties (.record properties pairs) ++ pairsEntries pairs

def itemsEntries {Label : Type} : List (Node Label) → List (Label × Node Label)
  | [] => []
  | item :: rest => item.entries ++ itemsEntries rest

def pairsEntries {Label : Type} : List (Node Label × Node Label) → List (Label × Node Label)
  | [] => []
  | (name, part) :: rest => name.entries ++ part.entries ++ pairsEntries rest

end

end Node

structure Tree where
  root : Node Nat
  /-- The nodes that references lead to. Of two with one number the later one counts. -/
  targets : List (Nat × Node Nat)
deriving Repr

namespace Tree

def ofNode? (node : Node String) : Option Tree := do
  let (root, _) ← node.number? []
  return ⟨root, root.entries.reverse⟩

end Tree

end StateMachine.Yaml
