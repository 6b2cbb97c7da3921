import StateMachine.Expr.Parser
import StateMachine.Proofs.Text.Quoted

/-!
Quoted texts as they are read again: as parts of printed lines, and as string literals of C++. Both
readers find the text that was written and stop at the closing quote.
-/

set_option autoImplicit false

namespace StateMachine

open Text

namespace Cpp

/-- The simple escape sequences by the character after the backslash. The first one is the
apostrophe. -/
def simpleEscapes : List (Char × Char) :=
  [(Char.ofNat 39, Char.ofNat 39), ('"', '"'), ('?', '?'), ('\\', '\\'), ('a', '\x07'),
    ('b', '\x08'), ('f', '\x0c'), ('n', '\n'), ('r', '\r'), ('t', '\t'), ('v', '\x0b')]

/-- Reads a string literal after its opening quote and gives what follows the closing one. A literal
stands on one line; numeric escapes are not read. -/
def readLiteral : List Char → Option (List Char × List Char)
  | [] => none
  | '"' :: rest => some ([], rest)
  | '\\' :: letter :: rest => do
      let meant ← simpleEscapes.lookup letter
      let (content, after) ← readLiteral rest
      return (meant :: content, after)
  | character :: rest =>
      if character ∈ ['\\', '\n', '\r'] then none
      else do
        let (content, after) ← readLiteral rest
        return (character :: content, after)

def textLiteral? : List Char → Option (List Char × List Char)
  | '"' :: text => readLiteral text
  | _ => none

theorem read_literal_plain {character : Char} (noQuote : character ≠ '"')
    (noEscape : character ∉ ['\\', '\n', '\r']) {text content after : List Char}
    (read : readLiteral text = some (content, after)) :
    readLiteral (character :: text) = some (character :: content, after) := by
  have noBackslash : character ≠ '\\' := fun same => noEscape (same ▸ List.mem_cons_self)
  rw [readLiteral, if_neg noEscape, read]
  · rfl
  all_goals simp_all

theorem read_literal_pair {letter meant : Char} (known : simpleEscapes.lookup letter = some meant)
    {text content after : List Char} (read : readLiteral text = some (content, after)) :
    readLiteral ('\\' :: letter :: text) = some (meant :: content, after) := by
  rw [readLiteral, known, read]
  rfl

/-- The escapes that are written mean the same in C++. -/
theorem simple_escape_of_written {letter : Char} (written : letter ∈ ['\\', '"', 'n', 'r', 't']) :
    simpleEscapes.lookup letter = some (Quoted.unescape letter) := by
  revert written
  simp only [List.mem_cons, List.not_mem_nil, or_false]
  rintro (rfl | rfl | rfl | rfl | rfl) <;> rfl

theorem read_literal_body (content rest : List Char) :
    readLiteral (content.flatMap Quoted.escape ++ '"' :: rest) = some (content, rest) := by
  induction content with
  | nil => rfl
  | cons character others induction =>
      rw [List.flatMap_cons, List.append_assoc]
      obtain ⟨letter, written, meant, letters⟩ | ⟨written, plain⟩ := Quoted.escape_cases character
      · rw [written, List.cons_append, List.singleton_append]
        exact read_literal_pair (meant ▸ simple_escape_of_written letters) induction
      · rw [written, List.singleton_append]
        simp only [List.mem_cons, not_or] at plain
        exact read_literal_plain plain.2.1 (by simp [plain]) induction

end Cpp

theorem trim_encoded (content : String) :
    trim (Quoted.encode content).toList = (Quoted.encode content).toList := by
  have begins : Begins '"' (Quoted.encode content) := by
    rw [Begins, Quoted.encode_characters]
    rfl
  have ends : Ends '"' (Quoted.encode content) := by
    rw [Ends, Quoted.encode_characters, ← List.cons_append]
    exact List.getLast?_concat
  exact trim_closed begins ends (by decide)

theorem Printed.parse_encoded (content : String) :
    parse (Quoted.encode content) = .ok (.text content) := by
  rw [parse, trim_encoded, Quoted.encode_characters]
  simp only [Quoted.decode_body]
  rw [String.ofList_toList]
  rfl

/-- Any text is read back from its written form. This form has no line break in it and only escaped
quotes between the first character and the last, so that as a literal of C++ it ends with its own
closing quote, whatever follows, and stands for the text. -/
theorem quoted_text_survives (content : String) :
    Printed.parse (Quoted.encode content) = .ok (.text content) ∧
      Lacks '\n' (Quoted.encode content) ∧ Lacks '\r' (Quoted.encode content) ∧
      (∃ inner, (Quoted.encode content).toList = '"' :: (inner ++ ['"']) ∧
        Quoted.EscapesQuotes inner) ∧
      ∀ rest, Cpp.textLiteral? ((Quoted.encode content).toList ++ rest) =
        some (content.toList, rest) := by
  refine ⟨Printed.parse_encoded content, Quoted.encode_lacks (by decide) content,
    Quoted.encode_lacks (by decide) content, ?_, ?_⟩
  · exact ⟨_, Quoted.encode_characters content, Quoted.escapes_quotes_body content.toList⟩
  · intro rest
    rw [Quoted.encode_characters, List.cons_append, List.append_assoc, List.singleton_append]
    exact Cpp.read_literal_body content.toList rest

example : Quoted.encode "a\\\"\r\n" = "\"a\\\\\\\"\\r\\n\"" := by decide

end StateMachine
