import StateMachine.Proofs.Text.Line
import StateMachine.Text.Quoted

/-!
Texts in double quotes. What is written stands on one line, and no quote inside of it can be taken
for the closing one: backslashes stand in front of it, and their number is odd. Reading gives the text
back and stops right behind the closing quote, whatever follows there.
-/

set_option autoImplicit false

namespace StateMachine.Text.Quoted

/-- A character stands between quotes as a backslash with a letter that means it, or as it is when it
ends neither the text nor the line. -/
theorem escape_cases (character : Char) :
    (∃ letter, escape character = ['\\', letter] ∧ unescape letter = character ∧
      letter ∈ ['\\', '"', 'n', 'r', 't']) ∨
      escape character = [character] ∧ character ∉ ['\\', '"', '\n', '\r', '\t'] := by
  unfold escape
  split
  case h_1 => exact Or.inl ⟨'\\', rfl, rfl, by decide⟩
  case h_2 => exact Or.inl ⟨'"', rfl, rfl, by decide⟩
  case h_3 => exact Or.inl ⟨'n', rfl, rfl, by decide⟩
  case h_4 => exact Or.inl ⟨'r', rfl, rfl, by decide⟩
  case h_5 => exact Or.inl ⟨'t', rfl, rfl, by decide⟩
  case h_6 => exact Or.inr ⟨rfl, by simp_all⟩

/-! Control characters. -/

theorem escape_lacks {control : Char} (escaped : control ∈ ['\n', '\r', '\t']) (character : Char) :
    control ∉ escape character := by
  obtain ⟨letter, written, -, letters⟩ | ⟨written, plain⟩ := escape_cases character
  · rw [written]
    revert letters escaped
    simp only [List.mem_cons, List.not_mem_nil, or_false]
    rintro (rfl | rfl | rfl) (rfl | rfl | rfl | rfl | rfl) <;> decide
  · rw [written, List.mem_singleton]
    rintro rfl
    exact plain (by simp_all)

/-- Control characters that have an escape of their own do not stand in a written text. -/
theorem encode_lacks {control : Char} (escaped : control ∈ ['\n', '\r', '\t']) (content : String) :
    Lacks control (encode content) := by
  have notQuote : control ∉ ['"'] := by
    rw [List.mem_singleton]
    rintro rfl
    exact absurd escaped (by decide)
  have quote : Lacks control "\"" := lacks_literal notQuote
  have middle : Lacks control (String.ofList (content.toList.flatMap escape)) := by
    rw [Lacks, String.toList_ofList, List.mem_flatMap]
    rintro ⟨character, -, member⟩
    exact escape_lacks escaped character member
  exact lacks_append.mpr ⟨lacks_append.mpr ⟨quote, middle⟩, quote⟩

/-! Backslashes in front of a quote. -/

def trailingBackslashes (text : List Char) : Nat := (text.reverse.takeWhile (· == '\\')).length

theorem trailing_backslashes_cons {character : Char} (other : character ≠ '\\')
    (text : List Char) : trailingBackslashes (character :: text) = trailingBackslashes text := by
  rw [trailingBackslashes, List.reverse_cons, List.takeWhile_append]
  split
  · next whole => simp [trailingBackslashes, other, whole]
  · rfl

theorem trailing_backslashes_pair (letter : Char) (text : List Char) :
    trailingBackslashes ('\\' :: letter :: text) % 2 = trailingBackslashes text % 2 := by
  have reversed : ('\\' :: letter :: text).reverse = text.reverse ++ [letter, '\\'] := by simp
  rw [trailingBackslashes, reversed, List.takeWhile_append]
  split
  · next whole =>
      have run : trailingBackslashes text = text.length := by
        rw [trailingBackslashes, whole, List.length_reverse]
      by_cases same : letter = '\\'
      · simp [same, run]
      · simp [same, run]
  · rfl

/-- Every quote in the text stands behind an odd number of backslashes. -/
def EscapesQuotes (text : List Char) : Prop :=
  ∀ before after, text = before ++ '"' :: after → trailingBackslashes before % 2 = 1

theorem escapes_quotes_nil : EscapesQuotes [] := by
  intro before after split
  simp at split

theorem EscapesQuotes.plain {text : List Char} (escapes : EscapesQuotes text) {character : Char}
    (noQuote : character ≠ '"') (noBackslash : character ≠ '\\') :
    EscapesQuotes (character :: text) := by
  intro before after split
  cases before with
  | nil => exact absurd (List.cons.inj split).1 noQuote
  | cons first before =>
      obtain ⟨rfl, rest⟩ := List.cons.inj split
      rw [trailing_backslashes_cons noBackslash]
      exact escapes before after rest

theorem EscapesQuotes.pair {text : List Char} (escapes : EscapesQuotes text) (letter : Char) :
    EscapesQuotes ('\\' :: letter :: text) := by
  intro before after split
  match before with
  | [] => exact absurd (List.cons.inj split).1 (by decide)
  | [first] =>
      obtain ⟨rfl, -⟩ := List.cons.inj split
      rfl
  | first :: second :: before =>
      obtain ⟨rfl, pair⟩ := List.cons.inj split
      obtain ⟨-, rest⟩ := List.cons.inj pair
      rw [trailing_backslashes_pair]
      exact escapes before after rest

theorem escapes_quotes_body (content : List Char) : EscapesQuotes (content.flatMap escape) := by
  induction content with
  | nil => exact escapes_quotes_nil
  | cons character rest induction =>
      rw [List.flatMap_cons]
      obtain ⟨letter, written, -, -⟩ | ⟨written, plain⟩ := escape_cases character
      · rw [written]
        exact induction.pair letter
      · rw [written]
        simp only [List.mem_cons, not_or] at plain
        exact induction.plain plain.2.1 plain.1

theorem encode_characters (content : String) :
    (encode content).toList = '"' :: (content.toList.flatMap escape ++ ['"']) := by
  have quote : "\"".toList = ['"'] := rfl
  rw [encode, String.toList_append, String.toList_append, quote, String.toList_ofList]
  rfl

/-! Reading. -/

theorem decode_plain {character : Char} (noQuote : character ≠ '"') (noBackslash : character ≠ '\\')
    (text : List Char) :
    decode (character :: text) = (decode text).map fun (content, after) =>
      (character :: content, after) := by
  rw [decode]
  · cases decode text <;> rfl
  all_goals simp_all

theorem decode_pair (letter : Char) (text : List Char) :
    decode ('\\' :: letter :: text) = (decode text).map fun (content, after) =>
      (unescape letter :: content, after) := by
  rw [decode]
  cases decode text <;> rfl

theorem decode_body (content rest : List Char) :
    decode (content.flatMap escape ++ '"' :: rest) = .ok (content, rest) := by
  induction content with
  | nil => rfl
  | cons character others induction =>
      rw [List.flatMap_cons, List.append_assoc]
      obtain ⟨letter, written, meant, -⟩ | ⟨written, plain⟩ := escape_cases character
      · rw [written, List.cons_append, List.singleton_append, decode_pair, induction, ← meant]
        rfl
      · simp only [List.mem_cons, not_or] at plain
        rw [written, List.singleton_append, decode_plain plain.2.1 plain.1, induction]
        rfl

end StateMachine.Text.Quoted
