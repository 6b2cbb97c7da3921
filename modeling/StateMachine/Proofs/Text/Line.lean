import Mathlib.Data.List.DropRight
import StateMachine.Text.Split

/-!
Lines of a text, the white space around them, and what stands in texts that are put together from
parts. A text that is written out is looked at as the list of its characters.
-/

set_option autoImplicit false

namespace StateMachine.Text

theorem split_at_of_cut {α : Type} {cut : α → Bool} {element : α} (cuts : cut element = true)
    (rest : List α) : splitAt cut (element :: rest) = [] :: splitAt cut rest := by
  simp [splitAt, cuts]

theorem split_at_of_whole {α : Type} {cut : α → Bool} {element : α} {rest piece : List α}
    {pieces : List (List α)} (whole : cut element = false)
    (split : splitAt cut rest = piece :: pieces) :
    splitAt cut (element :: rest) = (element :: piece) :: pieces := by
  simp [splitAt, whole, split]

theorem split_at_append {α : Type} {cut : α → Bool} {piece : List α} {feed : α} (rest : List α)
    (whole : ∀ element ∈ piece, cut element = false) (cuts : cut feed = true) :
    splitAt cut (piece ++ feed :: rest) = piece :: splitAt cut rest := by
  induction piece with
  | nil => exact split_at_of_cut cuts rest
  | cons element others induction =>
      have recursive := induction fun other member => whole other (List.mem_cons_of_mem _ member)
      exact split_at_of_whole (whole element List.mem_cons_self) recursive

/-- One element more at the end makes the last piece longer, or begins a new one. -/
theorem split_at_concat {α : Type} (cut : α → Bool) (elements : List α) (last : α) :
    ∃ earlier piece, splitAt cut elements = earlier ++ [piece] ∧
      splitAt cut (elements ++ [last]) =
        earlier ++ if cut last then [piece, []] else [piece ++ [last]] := by
  induction elements with
  | nil => exact ⟨[], [], rfl, rfl⟩
  | cons element rest induction =>
      obtain ⟨earlier, piece, before, after⟩ := induction
      cases cuts : cut element with
      | true =>
          refine ⟨[] :: earlier, piece, ?_, ?_⟩
          · rw [split_at_of_cut cuts, before, List.cons_append]
          · rw [List.cons_append, split_at_of_cut cuts, after, List.cons_append]
      | false =>
          cases earlier with
          | nil =>
              refine ⟨[], element :: piece, split_at_of_whole cuts before, ?_⟩
              cases ends : cut last with
              | true =>
                  rw [ends] at after
                  exact split_at_of_whole cuts after
              | false =>
                  rw [ends] at after
                  exact split_at_of_whole cuts after
          | cons first earlier =>
              exact ⟨(element :: first) :: earlier, piece, split_at_of_whole cuts before,
                split_at_of_whole cuts after⟩

theorem split_at_getLast {α : Type} (cut : α → Bool) (elements : List α) :
    (splitAt cut elements).getLast? = some (elements.rtakeWhile fun element => !cut element) := by
  induction elements using List.reverseRecOn with
  | nil => rfl
  | append_singleton elements last induction =>
      obtain ⟨earlier, piece, before, after⟩ := split_at_concat cut elements last
      rw [before, List.getLast?_concat, Option.some.injEq] at induction
      rw [after, List.rtakeWhile_concat, ← induction]
      by_cases cuts : cut last = true <;> simp [cuts]

/-- Lines that each end with a line feed are read back as they were written. -/
theorem lines_of_terminated {rows : List (List Char)} (single : ∀ row ∈ rows, '\n' ∉ row) :
    lines '\n' (rows.flatMap (· ++ ['\n'])) = rows := by
  have pieces : splitAt (· == '\n') (rows.flatMap (· ++ ['\n'])) = rows ++ [[]] := by
    induction rows with
    | nil => rfl
    | cons row others induction =>
        have whole : ∀ character ∈ row, (character == '\n') = false := by
          intro character member
          rw [beq_eq_false_iff_ne]
          rintro rfl
          exact single row (by simp) member
        have recursive := induction fun other member => single other (List.mem_cons_of_mem _ member)
        rw [List.flatMap_cons, List.append_assoc, List.singleton_append,
          split_at_append _ whole (by simp), recursive, List.cons_append]
  simp only [lines, pieces, List.getLast?_concat, List.dropLast_concat]

theorem skip_white_suffix (text : List Char) : skipWhite text <:+ text :=
  List.dropWhile_suffix isWhite

/-- Skipping stops at once at a character that is not white. -/
theorem skip_white_of_head {text : List Char} (solid : ∀ first ∈ text.head?, isWhite first = false) :
    skipWhite text = text := by
  cases text with
  | nil => rfl
  | cons first rest => simp [skipWhite, solid first (by simp)]

theorem trim_begins {text : List Char} (solid : ∀ first ∈ text.head?, isWhite first = false) :
    trim text <+: text := by
  rw [trim, skip_white_of_head solid, ← List.reverse_suffix, List.reverse_reverse]
  exact skip_white_suffix text.reverse

theorem trim_subset (text : List Char) : trim text ⊆ text := by
  intro character member
  rw [trim, List.mem_reverse] at member
  have inner := (skip_white_suffix _).subset member
  rw [List.mem_reverse] at inner
  exact (skip_white_suffix text).subset inner

theorem trim_indented (count : Nat) (text : List Char) :
    trim (List.replicate count ' ' ++ text) = trim text := by
  have blanks : ∀ character ∈ List.replicate count ' ', isWhite character = true := by
    intro character member
    rw [List.eq_of_mem_replicate member]
    rfl
  have skipped : skipWhite (List.replicate count ' ' ++ text) = skipWhite text :=
    List.dropWhile_append_of_pos blanks
  rw [trim, trim, skipped]

def Lacks (character : Char) (text : String) : Prop := character ∉ text.toList

instance (character : Char) (text : String) : Decidable (Lacks character text) :=
  inferInstanceAs (Decidable (¬ _ ∈ _))

theorem lacks_literal {character : Char} {characters : List Char}
    (absent : character ∉ characters) : Lacks character (String.ofList characters) := by
  rw [Lacks, String.toList_ofList]
  exact absent

theorem lacks_append {character : Char} {first second : String} :
    Lacks character (first ++ second) ↔ Lacks character first ∧ Lacks character second := by
  rw [Lacks, String.toList_append, List.mem_append, not_or]
  rfl

theorem lacks_join {character : Char} {texts : List String}
    (each : ∀ text ∈ texts, Lacks character text) : Lacks character (String.join texts) := by
  rw [Lacks, String.toList_join, List.mem_flatMap]
  rintro ⟨text, textMember, member⟩
  exact each text textMember member

def Begins (first : Char) (text : String) : Prop := text.toList.head? = some first

theorem begins_literal (first : Char) (rest : List Char) :
    Begins first (String.ofList (first :: rest)) := by
  rw [Begins, String.toList_ofList]
  rfl

theorem Begins.append {first : Char} {text : String} (begins : Begins first text) (rest : String) :
    Begins first (text ++ rest) := by
  rw [Begins, String.toList_append, List.head?_append, begins]
  rfl

def Ends (last : Char) (text : String) : Prop := text.toList.getLast? = some last

theorem ends_literal {last : Char} {characters : List Char}
    (final : characters.getLast? = some last) : Ends last (String.ofList characters) := by
  rw [Ends, String.toList_ofList]
  exact final

theorem Ends.prepend {last : Char} {text : String} (ends : Ends last text) (before : String) :
    Ends last (before ++ text) := by
  rw [Ends, String.toList_append, List.getLast?_append, ends]
  rfl

/-- Nothing is trimmed from a text with solid ends. -/
theorem trim_closed {first last : Char} {text : String} (begins : Begins first text)
    (ends : Ends last text) (solid : isWhite first = false ∧ isWhite last = false) :
    trim text.toList = text.toList := by
  have front : skipWhite text.toList = text.toList := by
    apply skip_white_of_head
    rw [begins]
    rintro initial ⟨⟩
    exact solid.1
  have back : skipWhite text.toList.reverse = text.toList.reverse := by
    apply skip_white_of_head
    rw [List.head?_reverse, ends]
    rintro final ⟨⟩
    exact solid.2
  rw [trim, front, back, List.reverse_reverse]

end StateMachine.Text
