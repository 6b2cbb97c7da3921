/-!
Signed 64-bit integers, held as the mathematical integer together with its range. Arithmetic on
words is arithmetic on the integers they hold followed by `Word.ofInt?`, so nothing wraps.
-/

set_option autoImplicit false

namespace StateMachine

/-- An integer that fits into 64 bits with a sign. -/
structure Word where
  val : Int
  least_le : -9223372036854775808 ≤ val
  le_greatest : val ≤ 9223372036854775807
deriving DecidableEq, Repr

namespace Word

def zero : Word := ⟨0, by decide, by decide⟩

def ofInt? (integer : Int) : Option Word :=
  if range : -9223372036854775808 ≤ integer ∧ integer ≤ 9223372036854775807 then
    some ⟨integer, range.1, range.2⟩
  else none

/-- The decimal text: a minus sign when negative, no leading zero. -/
def text (word : Word) : String := toString word.val

theorem val_injective {left right : Word} (equal : left.val = right.val) : left = right := by
  cases left
  cases right
  cases equal
  rfl

theorem of_int_eq_some_iff {integer : Int} {word : Word} :
    ofInt? integer = some word ↔ word.val = integer := by
  unfold ofInt?
  split
  · next range =>
      constructor
      · intro equal
        cases equal
        rfl
      · intro equal
        cases word
        cases equal
        rfl
  · next range =>
      constructor
      · intro equal
        cases equal
      · intro equal
        exact absurd ⟨equal ▸ word.least_le, equal ▸ word.le_greatest⟩ range

theorem of_int_eq_none_iff {integer : Int} :
    ofInt? integer = none ↔ integer < -9223372036854775808 ∨ 9223372036854775807 < integer := by
  unfold ofInt?
  split <;> simp <;> omega

@[simp] theorem of_int_val (word : Word) : ofInt? word.val = some word :=
  of_int_eq_some_iff.mpr rfl

end Word

end StateMachine
