import StateMachine.Terminal.Cluster
import StateMachine.Text.Split

/-!
What is typed into a terminal, as the lines that the console is given: a line ends at its line feed
or at a carriage return before that, and each backspace takes away the cluster before it. The
console itself knows nothing of this.
-/

set_option autoImplicit false

namespace StateMachine.Terminal

def dropBytes (room : Nat) : List Char → List Char
  | [] => []
  | character :: rest =>
      if character.utf8Size ≤ room then dropBytes (room - character.utf8Size) rest
      else character :: rest

structure TypedLine where
  /-- The characters, last first. -/
  characters : List Char
  /-- The sizes of the clusters in bytes, last first. A size is kept in a byte, so of a cluster that
  has 256 bytes or more only the rest is taken away. -/
  sizes : List UInt8

def TypedLine.type (line : TypedLine) : List Char → TypedLine
  | ['\x08'] => ⟨dropBytes (line.sizes.headD 0).toNat line.characters, line.sizes.tail⟩
  | cluster =>
      ⟨cluster.reverse ++ line.characters,
        UInt8.ofNat (String.ofList cluster).utf8ByteSize :: line.sizes⟩

/-- What is left of a text when every backspace in it has been carried out. -/
def erased (text : List Char) : List Char :=
  ((clusters text).foldl TypedLine.type ⟨[], []⟩).characters.reverse

def inputLines (input : String) : List String :=
  (Text.lines '\n' input.toList).map fun line =>
    String.ofList (erased (if line.getLast? = some '\r' then line.dropLast else line))

end StateMachine.Terminal
