/-!
How alike two words are. Equal characters are paired where their places are near; the likeness is
the mean of three shares: of the first word that is paired, of the second, and of the pairs that keep
their order.
-/

set_option autoImplicit false

namespace StateMachine.Text

/-- Pairs each character, from `place` on, with the first equal one among `free` that is no further
than `reach` from its place; gives the characters that found one, with the other's place. -/
def pairedFrom (reach place : Nat) (free : List (Char × Nat)) : List Char → List (Char × Nat)
  | [] => []
  | character :: rest =>
      let partner := free.find? fun (other, position) =>
        other == character && place ≤ position + reach && position ≤ place + reach
      match partner with
      | some (_, found) =>
          (character, found) ::
            pairedFrom reach (place + 1) (free.filter fun other => other.2 != found) rest
      | none => pairedFrom reach (place + 1) free rest

structure Likeness where
  firstLength : Nat
  secondLength : Nat
  shared : Nat
  /-- How many of them change places with another one. -/
  swapped : Nat
deriving DecidableEq, Repr

namespace Likeness

def of (first second : List Char) : Likeness :=
  let reach := max first.length second.length / 2 - 1
  let paired := pairedFrom reach 0 second.zipIdx first
  let inPlace := second.zipIdx.filter fun other => paired.any fun pair => pair.2 == other.2
  let moved := (paired.zip inPlace).filter fun (left, right) => left.1 != right.1
  ⟨first.length, second.length, paired.length, moved.length / 2⟩

/-- The likeness as a fraction; words without a pair have none. -/
def fraction (likeness : Likeness) : Nat × Nat :=
  if likeness.shared = 0 then (0, 1)
  else
    let lengths := likeness.firstLength * likeness.secondLength
    (likeness.shared * likeness.shared * (likeness.firstLength + likeness.secondLength) +
        (likeness.shared - likeness.swapped) * lengths,
      3 * likeness.shared * lengths)

def isBelow (left right : Nat × Nat) : Bool := left.1 * right.2 < right.1 * left.2

end Likeness

/-- A likeness above this one makes a word worth suggesting. -/
def likenessLimit : Nat × Nat := (7, 10)

/-- Puts a word behind those that are not more alike. -/
def insertByLikeness (word : String) (likeness : Nat × Nat) :
    List (String × (Nat × Nat)) → List (String × (Nat × Nat))
  | [] => [(word, likeness)]
  | first :: rest =>
      if Likeness.isBelow likeness first.2 then (word, likeness) :: first :: rest
      else first :: insertByLikeness word likeness rest

/-- The words that are like `word`, the most alike last. -/
def wordsLike (word : String) (known : List String) : List String :=
  (known.foldl (fun found candidate =>
    let likeness := (Likeness.of word.toList candidate.toList).fraction
    if Likeness.isBelow likenessLimit likeness then insertByLikeness candidate likeness found
    else found) []).map Prod.fst

end StateMachine.Text
