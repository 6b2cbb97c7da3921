import StateMachine.Text.Decimal
import StateMachine.Word

/-!
The front of a text that lies in a class of characters, and the digits that numbers and words are
written with.
-/

set_option autoImplicit false

namespace StateMachine

namespace Text

theorem span_append {within : Char → Bool} {inside rest : List Char}
    (all : ∀ character ∈ inside, within character = true)
    (stops : ∀ character ∈ rest.head?, within character = false) :
    (inside ++ rest).takeWhile within = inside ∧ (inside ++ rest).dropWhile within = rest := by
  rw [List.takeWhile_append_of_pos all, List.dropWhile_append_of_pos all]
  cases rest with
  | nil => simp
  | cons next others => simp [stops next (by simp)]

end Text

namespace Decimal

theorem digits_are_digits (number : Nat) :
    ∀ character ∈ digits number, isDigit character = true := by
  intro character member
  exact Nat.isDigit_of_mem_toDigits (by decide) (by decide) member

theorem digits_eq_cons (number : Nat) :
    ∃ first rest, digits number = first :: rest ∧ isDigit first = true := by
  have nonempty : digits number ≠ [] := Nat.toDigits_ne_nil
  obtain ⟨first, rest, shape⟩ := List.exists_cons_of_ne_nil nonempty
  refine ⟨first, rest, shape, digits_are_digits number first ?_⟩
  rw [shape]
  exact List.mem_cons_self

theorem digits_no_leading_zero (number : Nat) :
    ¬ ((digits number).head? = some '0' ∧ 1 < (digits number).length) := by
  rintro ⟨leading, long⟩
  have isZero : number = 0 := by
    clear long
    induction number using Nat.strongRecOn with
    | ind number induction =>
        rw [digits, Nat.toDigits_eq_if (by decide)] at leading
        split at leading
        · exact Nat.digitChar_eq_zero.mp (Option.some.inj leading)
        · obtain ⟨first, rest, shape, -⟩ := digits_eq_cons (number / 10)
          rw [← digits, shape, List.cons_append, List.head?_cons] at leading
          have smaller := induction (number / 10) (by omega) (shape ▸ leading)
          omega
  subst isZero
  exact absurd long (by decide)

theorem natural_text {number : Int} (natural : 0 ≤ number) :
    (toString number).toList = digits number.natAbs := by
  obtain ⟨count, rfl⟩ := Int.eq_ofNat_of_zero_le natural
  exact String.toList_ofList

theorem negative_text {number : Int} (negative : number < 0) :
    (toString number).toList = '-' :: digits number.natAbs := by
  obtain ⟨count, rfl⟩ := Int.eq_negSucc_of_lt_zero negative
  have minus : toString (Int.negSucc count) = "-" ++ String.ofList (digits (count + 1)) := rfl
  rw [minus, Int.natAbs_negSucc]
  simp

end Decimal

theorem Word.natural_text {word : Word} (natural : 0 ≤ word.val) :
    word.text.toList = Decimal.digits word.val.toNat := by
  have same : word.val.toNat = word.val.natAbs := by omega
  rw [same]
  exact Decimal.natural_text natural

theorem Word.negative_text {word : Word} (negative : word.val < 0) :
    word.text.toList = '-' :: Decimal.digits word.val.natAbs :=
  Decimal.negative_text negative

end StateMachine
