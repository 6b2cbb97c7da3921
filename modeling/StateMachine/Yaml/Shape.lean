import StateMachine.Yaml.Plain
import StateMachine.Yaml.Reader

/-!
Reading the nodes of YAML text as data. What a scalar stands for depends on what is expected at its
place, so a document is read along its shape. Parts that are not expected are passed over, and the
references in them are not followed.
-/

set_option autoImplicit false

namespace StateMachine.Yaml

/-- What is expected at a place of a document. -/
inductive Shape where
  | name
  /-- One of a fixed set of words, which may also be given as a tag. -/
  | word
  | flag
  | any
  /-- Anything, or nothing at all. -/
  | optional
  | list (item : Shape)
  | record (parts : List (String × Shape))

/-- The word of a tag that only this document knows; it may be empty. -/
def Tag.word? : Tag → Option String
  | mark :: word => if mark = 0x21 then Tag.text? word else none
  | [] => none

/-- A tag that every document knows. -/
def Tag.ofKind (kind : String) : Tag := Tag.core ++ Tag.ofText kind

/-! Scalars -/

/-- A scalar as its tag says, and without a tag, as its form says if it is not quoted. -/
def anyScalar? (tag : Option Tag) (content : String) (style : Style) : Option Datum :=
  match tag with
  | none => if style = .plain then Plain.settle? content else some (.text content)
  | some tag =>
      if tag.word?.isSome then none
      else if tag = Tag.ofKind "bool" then (Plain.flag? content).map .flag
      else if tag = Tag.ofKind "int" then (Plain.integer? content).map .integer
      else if tag = Tag.ofKind "float" then if Plain.isReal content then some .real else none
      else if tag = Tag.ofKind "null" then if Plain.isNull content then some .null else none
      else if tag.head? = some 0x21 && style = .plain then Plain.settle? content
      else some (.text content)

/-- The word of a tag stands alone. -/
def wordScalar? (tag : Option Tag) (content : String) (style : Style) : Option Datum :=
  match tag.bind Tag.word? with
  | none => some (.text content)
  | some word =>
      if style = .plain && (content.isEmpty || Plain.isNull content) then some (.text word) else none

/-- A quoted word is no truth value, not even behind a tag; the lines of a block are. -/
def flagScalar? (tag : Option Tag) (content : String) (style : Style) : Option Datum :=
  if style = .plain || (style = .literal && tag = some (Tag.ofKind "bool")) then
    (Plain.flag? content).map .flag
  else none

/-- Holds for a scalar that says that something is left out, or fails to. -/
def leftOut? (tag : Option Tag) (content : String) (style : Style) : Option Bool :=
  if style ≠ .plain then some false
  else
    match tag with
    | none => some (content.isEmpty || Plain.isNull content)
    | some tag =>
        if tag = Tag.ofKind "null" then if Plain.isNull content then some true else none
        else some false

/-- The key that a scalar is. Only an integer without a minus sign is a place. -/
def Key.ofScalar (content : String) : Datum → Key
  | .text name => .name name
  | .integer (.ofNat position) => if content.startsWith "-" then .other else .place position
  | _ => .other

/-! Collections -/

/-- A reading that counts the references that may still be followed. -/
abbrev Walk := StateT Nat Option

def Tree.follow (tree : Tree) : Node Nat → Walk (Node Nat)
  | .alias number => do
      let remaining ← get
      if remaining = 0 then failure
      set (remaining - 1)
      tree.targets.lookup number
  | node => return node

abbrev Inside := Shape → Node Nat → Walk Datum

def Tree.readKey (tree : Tree) (inside : Inside) (node : Node Nat) : Walk Key := do
  match ← tree.follow node with
  | .scalar properties content style =>
      return Key.ofScalar content (← anyScalar? properties.tag content style)
  | collection => let _ ← inside .any collection; return .other

def Tree.readAny (tree : Tree) (inside? : Option Inside) : Node Nat → Walk Datum
  | .scalar properties content style => anyScalar? properties.tag content style
  | .list properties items => do
      let inside ← inside?
      if (properties.tag.bind Tag.word?).isSome then failure
      return .list (← items.mapM (inside .any))
  | .record properties pairs => do
      let inside ← inside?
      if (properties.tag.bind Tag.word?).isSome then failure
      return .mapping (← pairs.mapM fun (name, part) => do
        return (← tree.readKey inside name, ← inside .any part))
  | .alias _ => failure

def Tree.readPart (tree : Tree) (inside : Inside) (expected : List (String × Shape))
    (pair : Node Nat × Node Nat) : Walk (Option (String × Datum)) := do
  match ← tree.follow pair.1 with
  | .scalar _ name _ =>
      match expected.lookup name with
      | some shape => return some (name, ← inside shape pair.2)
      | none => return none
  | _ => failure

/-- Reads a node; `inside?` is missing where no further collection may be opened. An empty scalar is
an empty list or record. -/
def Tree.readNode (tree : Tree) (inside? : Option Inside) : Inside := fun shape node => do
  match shape, ← tree.follow node with
  | .name, .scalar _ content _ => return .text content
  | .word, .scalar properties content style => wordScalar? properties.tag content style
  | .flag, .scalar properties content style => flagScalar? properties.tag content style
  | .any, found => tree.readAny inside? found
  | .optional, .scalar properties content style =>
      if ← leftOut? properties.tag content style then return .null
      match ← anyScalar? properties.tag content style with
      | .null => failure
      | datum => return datum
  | .list item, .list _ nodes =>
      let inside ← inside?
      return .list (← nodes.mapM (inside item))
  | .record expected, .record _ pairs =>
      let inside ← inside?
      return .record (← pairs.mapM (tree.readPart inside expected)).reduceOption
  | .list _, .scalar _ content style =>
      if content.isEmpty && style = .plain then return .list [] else failure
  | .record _, .scalar _ content style =>
      if content.isEmpty && style = .plain then return .record [] else failure
  | _, _ => failure

/-- Reads a node in which `room` collections may be opened inside one another. -/
def Tree.readWithin (tree : Tree) : Nat → Inside
  | 0 => tree.readNode none
  | room + 1 => tree.readNode (some (tree.readWithin room))

def depthLimit : Nat := 128

/-- So many references may be followed for each mark that tells the document. -/
def referenceRate : Nat := 100

def Tree.read? (tree : Tree) (shape : Shape) : Option Datum :=
  ((tree.readWithin depthLimit shape tree.root).run (referenceRate * tree.root.weight)).map Prod.fst

def read? (shape : Shape) (text : String) : Option Datum := (parse? text).bind (Tree.read? · shape)

end StateMachine.Yaml
