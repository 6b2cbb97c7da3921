import StateMachine.Expr.Token
import StateMachine.Machine.Mention
import StateMachine.Proofs.Cpp.Handler
import StateMachine.Proofs.Cpp.Reading
import StateMachine.Proofs.Text.Quoted

/-!
What the texts in a program can contain when the names of the machine are identifiers: expressions
and statements stay on one line whatever is printed, and nothing outside the handlers looks like the
start of one.
-/

set_option autoImplicit false

namespace StateMachine

open Cpp Text

/-- Letters, digits and underscores, at least one of them. -/
structure Identifier (name : String) : Prop where
  nonempty : name ≠ ""
  word : ∀ character ∈ name.toList, Token.continuesWord character = true

instance (name : String) : Decidable (Identifier name) :=
  decidable_of_iff (name ≠ "" ∧ name.toList.all Token.continuesWord = true)
    ⟨fun both => ⟨both.1, List.all_eq_true.mp both.2⟩,
      fun named => ⟨named.nonempty, List.all_eq_true.mpr named.word⟩⟩

theorem Identifier.lacks {name : String} (named : Identifier name) {character : Char}
    (other : Token.continuesWord character = false) : Lacks character name := by
  intro member
  rw [named.word character member] at other
  cases other

theorem Identifier.unscoped {name : String} (named : Identifier name) : Unscoped name :=
  ⟨named.lacks (by decide), named.lacks (by decide)⟩

/-- The mentioned names are identifiers; those of commands may be any text. -/
def MentionsIdentifiers (mentions : List Mention) : Prop :=
  ∀ mention ∈ mentions, mention.kind ≠ .command → Identifier mention.name

instance (mentions : List Mention) : Decidable (MentionsIdentifiers mentions) :=
  inferInstanceAs (Decidable (∀ mention ∈ mentions, mention.kind ≠ .command → _))

/-- The declared and the mentioned names are identifiers, but for commands. -/
structure Machine.NamesAreIdentifiers (machine : Machine) : Prop where
  own : Identifier machine.name
  states : ∀ state ∈ machine.states, Identifier state.name
  events : ∀ event ∈ machine.events, Identifier event
  attributes : ∀ owner ∈ machine.attributes, Identifier owner.name
  mentioned : MentionsIdentifiers machine.mentions

theorem digits_lack {character : Char} (other : Decimal.isDigit character = false) (number : Nat) :
    character ∉ Decimal.digits number := by
  intro member
  rw [Decimal.digits_are_digits number character member] at other
  cases other

theorem Word.text_lacks (word : Word) : Lacks '\n' word.text := by
  unfold Lacks
  by_cases negative : word.val < 0
  · rw [Word.negative_text negative, List.mem_cons, not_or]
    exact ⟨by decide, digits_lack (by decide) _⟩
  · rw [Word.natural_text (Int.not_lt.mp negative)]
    exact digits_lack (by decide) _

theorem Value.cpp_lacks (value : Value) : Lacks '\n' value.cpp := by
  cases value with
  | bool flag => cases flag <;> decide
  | int word =>
      simp only [Value.cpp]
      split
      · exact lacks_literal (by decide)
      · split
        · simp +decide only [lacks_append, word.text_lacks]
        · exact word.text_lacks

theorem Expr.cpp_lacks {path : String} (plain : Lacks '\n' path) {expr : Expr}
    (named : ∀ name ∈ expr.references, Identifier name) : Lacks '\n' (expr.cpp path) := by
  induction expr with
  | literal value => exact value.cpp_lacks
  | reference name =>
      have own : Lacks '\n' name := (named name (by simp [references])).lacks (by decide)
      exact lacks_append.mpr ⟨plain, own⟩
  | binary operator left right leftInduction rightInduction =>
      have first := leftInduction fun name member => named name (List.mem_append_left _ member)
      have second := rightInduction fun name member => named name (List.mem_append_right _ member)
      have symbol : Lacks '\n' operator.symbol := by cases operator <;> decide
      simp +decide only [cpp, lacks_append, first, second, symbol]
  | negate operand induction => simp +decide only [cpp, lacks_append, induction named]
  | not operand induction => simp +decide only [cpp, lacks_append, induction named]
  | group inner induction => simp +decide only [cpp, lacks_append, induction named]

/-- Quoting escapes every line feed. -/
theorem quoted_lacks (content : String) : Lacks '\n' (Quoted.encode content) :=
  Quoted.encode_lacks (by decide) content

theorem text_of_nat_lacks (number : Nat) : Lacks '\n' (toString number) := by
  have digits : (toString number).toList = Decimal.digits number := String.toList_ofList
  rw [Lacks, digits]
  exact digits_lack (by decide) number

theorem expr_named {site : MentionSite} {expr : Expr}
    (named : MentionsIdentifiers (expr.mentions site)) : ∀ name ∈ expr.references, Identifier name := by
  intro name member
  exact named ⟨.owner, name, site⟩ (List.mem_map.mpr ⟨name, member, rfl⟩) (by simp)

theorem transition_names {state : String} {transition : Transition}
    (named : MentionsIdentifiers (transition.mentions state)) :
    Identifier transition.event ∧ Identifier transition.target := by
  constructor
  · exact named ⟨.event, transition.event, .transition state transition.event⟩
      (by simp [Transition.mentions]) (by simp)
  · exact named ⟨.state, transition.target, .transition state transition.event⟩
      (by simp [Transition.mentions]) (by simp)

theorem Printed.cpp_lacks {path : String} (plain : Lacks '\n' path) {site : MentionSite}
    {part : Printed} (named : MentionsIdentifiers (part.mentions site)) :
    Lacks '\n' (part.cpp path) := by
  cases part with
  | text content => exact quoted_lacks content
  | value expr => exact Expr.cpp_lacks plain (expr_named named)

/-- A statement that begins with a name of the library moves on to no state. -/
theorem std_statement {opening closing : List Char} {middle : String} (single : Lacks '\n' middle)
    (fixed : '\n' ∉ 's' :: 't' :: 'd' :: opening ∧ '\n' ∉ closing ∧ closing.getLast? = some ';') :
    IsStatement (String.ofList ('s' :: 't' :: 'd' :: opening) ++ middle ++ String.ofList closing) := by
  refine ⟨?_, ((begins_literal 's' _).append middle).append _, (ends_literal fixed.2.2).prepend _, ?_⟩
  · rw [lacks_append, lacks_append]
    exact ⟨⟨lacks_literal fixed.1, single⟩, lacks_literal fixed.2.1⟩
  · rw [target?, Option.map_eq_none_iff, Option.eq_none_iff_forall_ne_some]
    intro between found
    rw [between_eq_some_iff, String.toList_append, String.toList_append, String.toList_ofList] at found
    simp at found

theorem assignment_statement {target : String} (named : Identifier target) {value : String}
    (single : Lacks '\n' value) : IsStatement (contextPath ++ target ++ " = " ++ value ++ ";") := by
  have plain : Lacks '\n' contextPath := lacks_literal (by decide)
  have own : Lacks '\n' target := named.lacks (by decide)
  have unopened : Lacks '(' target := named.lacks (by decide)
  have begins : Begins 's' contextPath := begins_literal _ _
  have ends : Ends ';' ";" := ends_literal (by decide)
  have line : Lacks '\n' (contextPath ++ target ++ " = " ++ value ++ ";") := by
    simp only [lacks_append, plain, own, single, true_and, and_true]
    decide
  refine ⟨line, (((begins.append _).append _).append _).append _, ends.prepend _, ?_⟩
  rw [target?, Option.map_eq_none_iff, Option.eq_none_iff_forall_ne_some]
  intro middle found
  rw [between_eq_some_iff] at found
  -- The name would have to go on with an opening parenthesis.
  have names : target.toList ++ ' ' :: ("= ".toList ++ (value.toList ++ ";".toList)) =
      "transition_to".toList ++ '(' :: ("new ".toList ++ middle ++ ");".toList) := by
    simpa [contextPath] using found
  obtain ⟨gap, shorter, rest⟩ | ⟨gap, longer, rest⟩ := List.append_eq_append_iff.mp names
  · cases gap with
    | nil => exact absurd (List.cons.inj rest).1 (by decide)
    | cons first others =>
        obtain ⟨rfl, _⟩ := List.cons.inj rest
        have blank : ' ' ∈ "transition_to".toList := by rw [shorter]; simp
        exact absurd blank (by decide)
  · cases gap with
    | nil => exact absurd (List.cons.inj rest).1 (by decide)
    | cons first others =>
        obtain ⟨rfl, _⟩ := List.cons.inj rest
        exact unopened (by rw [longer]; simp)

theorem Action.cpp_statements {site : MentionSite} {action : Action}
    (named : MentionsIdentifiers (action.mentions site)) :
    ∀ text ∈ action.cpp contextPath, IsStatement text := by
  have plain : Lacks '\n' contextPath := lacks_literal (by decide)
  cases action with
  | assign target value =>
      have targetNamed : Identifier target :=
        named ⟨.owner, target, site⟩ List.mem_cons_self (by simp)
      have valueNamed := expr_named fun mention member =>
        named mention (List.mem_cons_of_mem _ member)
      intro text member
      obtain rfl := List.mem_singleton.mp member
      exact assignment_statement targetNamed (Expr.cpp_lacks plain valueNamed)
  | print parts =>
      have printed : Lacks '\n'
          (String.join (parts.map fun part => " << " ++ part.cpp contextPath)) := by
        apply lacks_join
        intro text member
        obtain ⟨part, partMember, rfl⟩ := List.mem_map.mp member
        have single := Printed.cpp_lacks plain fun mention mentioned =>
          named mention (List.mem_flatMap.mpr ⟨part, partMember, mentioned⟩)
        exact lacks_append.mpr ⟨lacks_literal (by decide), single⟩
      intro text member
      obtain rfl := List.mem_singleton.mp member
      exact std_statement printed (by decide)
  | timeout millis =>
      have number := text_of_nat_lacks millis.toNat
      simp only [cpp, List.forall_mem_cons]
      exact ⟨std_statement number (by decide), std_statement number (by decide), by simp⟩
  | run command =>
      have announced := quoted_lacks ("Run Command: " ++ command ++ "()")
      intro text member
      obtain rfl := List.mem_singleton.mp member
      exact std_statement announced (by decide)

end StateMachine
