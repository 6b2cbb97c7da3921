import StateMachine.Command.Console

/-!
What a line asks of the console, by its words: to end, to restart, to show something, or to pass an
event on.
-/

set_option autoImplicit false

namespace StateMachine.Console

def wordsOf (line : String) : List String := (Text.words line.toList).map String.ofList

def quitWords : List String := ["quit", "exit", "q"]

def queryWords : List String := ["help", "?", "state", "env", "events"]

def resetWord : String := "reset"

def commandWords : List String := resetWord :: (quitWords ++ queryWords)

def quits (line : String) : Bool := (wordsOf line).head?.any fun first => first ∈ quitWords

def resets (line : String) : Bool := (wordsOf line).head? == some resetWord

/-- The event of a line: a single word that is no command. -/
def eventOf? (line : String) : Option String :=
  match wordsOf line with
  | [word] => if word ∈ commandWords then none else some word
  | _ => none

/-- A line without words, one that only asks, or several words of which the first is no command. -/
def idles (line : String) : Bool :=
  match wordsOf line with
  | [] => true
  | first :: rest => first ∈ queryWords || first ∉ commandWords && !rest.isEmpty

/-- The request of a line by its first word, and for others than commands by their number. -/
theorem request_of_words {line first : String} {rest : List String}
    (words : wordsOf line = first :: rest) :
    (first ∈ quitWords ∧ Request.ofLine line = .quit) ∨
      (first = resetWord ∧ Request.ofLine line = .restart) ∨
      (first ∈ queryWords ∧ Request.ofLine line ∈ [.help, .state, .values, .events]) ∨
      first ∉ commandWords ∧
        Request.ofLine line = if rest.isEmpty then .event first else .unclear := by
  unfold wordsOf at words
  unfold Request.ofLine
  rw [words]
  dsimp only
  split
  case h_3 | h_4 | h_5 => exact Or.inl ⟨by decide, rfl⟩
  case h_9 => exact Or.inr (Or.inl ⟨rfl, rfl⟩)
  case h_1 | h_2 | h_6 | h_7 | h_8 => exact Or.inr (Or.inr (Or.inl ⟨by decide, by decide⟩))
  case h_10 =>
    refine Or.inr (Or.inr (Or.inr ⟨?_, rfl⟩))
    simp_all [commandWords, resetWord, quitWords, queryWords]

theorem event_of_command {line first : String} {rest : List String}
    (words : wordsOf line = first :: rest) (command : first ∈ commandWords) :
    eventOf? line = none := by
  rw [eventOf?, words]
  cases rest with
  | nil => exact if_pos command
  | cons second others => rfl

theorem quit_words_apart : ∀ word ∈ quitWords,
    word ∈ commandWords ∧ word ∉ queryWords ∧ word ≠ resetWord := by decide

theorem query_words_apart : ∀ word ∈ queryWords,
    word ∈ commandWords ∧ word ∉ quitWords ∧ word ≠ resetWord := by decide

theorem request_cases (line : String) :
    (Request.ofLine line = .quit ∧
      quits line = true ∧ resets line = false ∧ eventOf? line = none) ∨
    (Request.ofLine line = .restart ∧
      quits line = false ∧ resets line = true ∧ eventOf? line = none) ∨
    (∃ name, Request.ofLine line = .event name ∧
      quits line = false ∧ resets line = false ∧ eventOf? line = some name) ∨
    idles line = true ∧ quits line = false ∧ resets line = false ∧ eventOf? line = none := by
  cases words : wordsOf line with
  | nil =>
      refine Or.inr (Or.inr (Or.inr ?_))
      simp [idles, quits, resets, eventOf?, words]
  | cons first rest =>
      obtain ⟨quit, asked⟩ | ⟨reset, asked⟩ | ⟨query, asked⟩ | ⟨other, asked⟩ :=
        request_of_words words
      · obtain ⟨command, _, apart⟩ := quit_words_apart first quit
        exact Or.inl ⟨asked, by simp [quits, words, quit], by simp [resets, words, apart],
          event_of_command words command⟩
      · subst reset
        refine Or.inr (Or.inl ⟨asked, ?_, by simp [resets, words],
          event_of_command words (by decide)⟩)
        simp [quits, words, quitWords, resetWord]
      · obtain ⟨command, stays, apart⟩ := query_words_apart first query
        exact Or.inr (Or.inr (Or.inr ⟨by simp [idles, words, query], by simp [quits, words, stays],
          by simp [resets, words, apart], event_of_command words command⟩))
      · have apart : first ≠ resetWord := fun same => other (by simp [commandWords, same])
        have stays : first ∉ quitWords := fun quit => other (quit_words_apart first quit).1
        have going : quits line = false ∧ resets line = false := by
          simp [quits, resets, words, stays, apart]
        cases rest with
        | nil => exact Or.inr (Or.inr (Or.inl ⟨first, asked, going.1, going.2, by
            simp [eventOf?, words, other]⟩))
        | cons second others =>
            exact Or.inr (Or.inr (Or.inr ⟨by simp [idles, words, other], going.1, going.2, by
              simp [eventOf?, words]⟩))

theorem turn_of_idle {line : String} (idle : idles line = true) (runner : Runner)
    (session : Session) : ∃ text, turn runner session (Request.ofLine line) = answer session text := by
  cases words : wordsOf line with
  | nil =>
      have blank : Request.ofLine line = .blank := by
        unfold wordsOf at words
        rw [Request.ofLine, words]
      exact ⟨_, by rw [blank]; rfl⟩
  | cons first rest =>
      rw [idles, words] at idle
      obtain ⟨quit, asked⟩ | ⟨reset, asked⟩ | ⟨query, asked⟩ | ⟨other, asked⟩ :=
        request_of_words words
      · obtain ⟨command, noQuery, _⟩ := quit_words_apart first quit
        simp [command, noQuery] at idle
      · subst reset
        simp +decide at idle
      · simp only [List.mem_cons, List.not_mem_nil, or_false] at asked
        rcases asked with asked | asked | asked | asked <;> exact ⟨_, by rw [asked]; rfl⟩
      · have several : rest.isEmpty = false := by
          have noQuery : first ∉ queryWords := fun query => other (query_words_apart first query).1
          simpa [noQuery, other] using idle
        rw [several] at asked
        exact ⟨_, by rw [asked]; rfl⟩

end StateMachine.Console
