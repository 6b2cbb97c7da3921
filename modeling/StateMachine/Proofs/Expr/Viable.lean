import StateMachine.Proofs.Expr.Grammar
import StateMachine.Proofs.Text.Place

/-!
Texts that do not read as an expression. Reading breaks off where a token cannot go on, and up to
there the text is the beginning of one that reads: an operand is put where one is missing, and the
ends of the open groups behind it. All the while it moves from character to character.
-/

set_option autoImplicit false

namespace StateMachine

open Text

namespace Expr

/-! Whatever has been read can be completed. -/

def Begun (tokens : List Token) : Prop :=
  ∃ (rest : List Token) (whole : Expr), whole.Stratified ∧ Spelled whole (tokens ++ rest)

/-- Nothing takes apart what a prefix operator makes. -/
theorem admits_prefixed (stack : List Pending) : Admits 6 stack := by
  match stack with
  | .binary _ operator :: _ => exact operator.level_lt_prefix
  | .negate :: _ | .not :: _ => exact Nat.le_refl 6
  | .group :: _ | [] => trivial

theorem Waits.close {stack : List Pending} {before own : List Token} {operand : Expr}
    (waits : Waits stack before) (spelled : Spelled operand own) (stratified : operand.Stratified)
    (admits : Admits operand.binding stack) :
    ∃ (count : Nat) (whole : Expr), whole.Stratified ∧
      Spelled whole (before ++ (own ++ List.replicate count .closing)) := by
  induction waits generalizing operand own with
  | nil => exact ⟨0, operand, stratified, by simpa using spelled⟩
  | @binary stack operator left before leftTokens _ admitsLeft loose stratifiedLeft spelledLeft
      induction =>
      have joined : (Expr.binary operator left operand).Stratified :=
        ⟨loose, admits, stratifiedLeft, stratified⟩
      obtain ⟨count, whole, closed, written⟩ :=
        induction (.binary spelledLeft spelled) joined admitsLeft
      exact ⟨count, whole, closed, by simpa using written⟩
  | @negate stack before _ induction =>
      obtain ⟨count, whole, closed, written⟩ :=
        induction (.negate spelled) ⟨admits, stratified⟩ (admits_prefixed stack)
      exact ⟨count, whole, closed, by simpa using written⟩
  | @not stack before _ induction =>
      obtain ⟨count, whole, closed, written⟩ :=
        induction (.not spelled) ⟨admits, stratified⟩ (admits_prefixed stack)
      exact ⟨count, whole, closed, by simpa using written⟩
  | @group stack before _ induction =>
      obtain ⟨count, whole, closed, written⟩ :=
        induction (.group spelled) stratified ((admits_prefixed stack).weaken (Nat.le_succ 6))
      exact ⟨count + 1, whole, closed, by simpa [List.replicate_succ] using written⟩

theorem Waits.begun {stack : List Pending} {tokens : List Token} (waits : Waits stack tokens) :
    Begun tokens := by
  have spelled : Spelled (.literal (.int Word.zero)) [.number ['0']] :=
    .number (List.cons_ne_nil _ _) (List.forall_mem_singleton.mpr rfl) rfl
  obtain ⟨count, whole, stratified, written⟩ := waits.close spelled (Int.le_refl 0)
    ((admits_prefixed stack).weaken (Nat.le_succ 6))
  exact ⟨_, whole, stratified, written⟩

theorem Holds.begun {stack : List Pending} {operand : Expr} {tokens : List Token}
    (holds : Holds stack operand tokens) : Begun tokens := by
  obtain ⟨before, own, rfl, waits, spelled⟩ := holds.parts
  obtain ⟨count, whole, stratified, written⟩ :=
    waits.close spelled holds.stratified holds.admits
  exact ⟨List.replicate count .closing, whole, stratified, by rwa [List.append_assoc]⟩

theorem Reader.Reached.begun {reader : Reader} {tokens : List Token}
    (reached : reader.Reached tokens) : Begun tokens := by
  cases reader with
  | before stack => exact Waits.begun reached
  | behind stack operand => exact Holds.begun reached.1

/-- Some text that goes on like this reads as an expression. -/
def Viable (front : String) : Prop :=
  ∃ (completion : String) (expr : Expr), parse (front ++ completion) = .ok expr

def Barred (tokens : List Token) : Prop :=
  ∀ text : String, tokens <+: (lexemes text.toList).map Lexeme.token →
    ∃ error, parse text = .error error

/-- Reading breaks off behind `front`: so far the text can become an expression, but not together with
the next token, if there is one. -/
structure BreaksOff (text front : String) : Prop where
  viable : Viable front
  barred : ∃ taken left : List Lexeme, lexemes text.toList = taken ++ left ∧
    text.toList = front.toList ++ sourceOf left ∧
    ∀ next ∈ left.head?, Barred ((taken ++ [next]).map Lexeme.token)

theorem Begun.viable {tokens : List Token} (begun : Begun tokens) {front : List Char}
    (spaced : Spaced tokens front) : Viable (String.ofList front) := by
  obtain ⟨rest, whole, stratified, spelled⟩ := begun
  have written (others : List Token) : Spaced others (others.flatMap Token.text) := by
    induction others with
    | nil => exact .blank (by simp)
    | cons token others induction => exact induction.cons token
  refine ⟨String.ofList (rest.flatMap Token.text), whole, parse_of_spelled stratified spelled ?_⟩
  rw [← String.ofList_append, String.toList_ofList]
  exact spaced.append (written rest)

end Expr

/-! Reading goes on by strides. -/

/-- By how many bytes reading goes on at a time over a token: over a word by its characters, over
anything else by a byte for each digit or sign. -/
def Token.strides : Token → List Nat
  | .number digits => digits.map fun _ => 1
  | .word name => name.map Char.utf8Size
  | .opening | .closing | .bang => [1]
  | .operator known => [known.symbol.utf8ByteSize]
  -- Reading never gets over such a character.
  | .unknown character => [character.utf8Size]

/-- By how many bytes reading goes on at a time over a text that is cut into lexemes. -/
def strides (text : List Char) : List Lexeme → List Nat
  | [] => (text.takeWhile isWhite).map Char.utf8Size
  | ⟨token, source⟩ :: found =>
      (text.takeWhile isWhite).map Char.utf8Size ++
        (token.strides ++ strides (source.drop token.text.length) found)

/-- The places in a text at which reading looks at what comes next. -/
def places (text : List Char) : List Nat := placesOf (strides text (lexemes text))

theorem digit_size {character : Char} (digit : Decimal.isDigit character = true) :
    character.utf8Size = 1 := by
  simp only [Decimal.isDigit, Char.isDigit, Bool.and_eq_true, decide_eq_true_eq] at digit
  rw [Char.utf8Size_eq_one_iff]
  exact UInt32.le_trans digit.2 (by decide)

theorem Token.lead_through {token : Token}
    (formed : token.WellFormed ∨ ∃ character, token = .unknown character) :
    LeadThrough token.strides token.text := by
  cases token with
  | number digits =>
      obtain ⟨_, all⟩ := formed.resolve_right (by simp)
      have sizes : (digits.map fun _ => 1) = digits.map Char.utf8Size :=
        List.map_congr_left fun digit member => (digit_size (all digit member)).symm
      rw [strides, sizes]
      exact .characters digits
  | word name => exact .characters name
  | opening | closing | bang => exact .single rfl
  | operator known =>
      apply LeadThrough.single
      rw [byte_length_eq]
      exact congrArg String.utf8ByteSize String.ofList_toList
  | unknown character => exact .characters [character]

theorem scanned_parts {text rest : List Char} {first : Char}
    (cut : skipWhite text = first :: rest) :
    text = text.takeWhile isWhite ++
      ((Token.scan first rest).1.text ++ (Token.scan first rest).2) := by
  rw [← (Token.scan_parts first rest).1, ← cut]
  exact List.takeWhile_append_dropWhile.symm

theorem strides_of_scanned {text rest : List Char} {first : Char}
    (cut : skipWhite text = first :: rest) :
    strides text (lexemes text) = (text.takeWhile isWhite).map Char.utf8Size ++
      ((Token.scan first rest).1.strides ++
        strides (Token.scan first rest).2 (lexemes (Token.scan first rest).2)) := by
  rw [lexemes_eq_cons cut, strides, (Token.scan_parts first rest).1, List.drop_left]

theorem strides_lead_through (text : List Char) :
    LeadThrough (strides text (lexemes text)) text := by
  induction text using lexemes.induct with
  | case1 text blank =>
      have white : text.takeWhile isWhite = text :=
        List.takeWhile_eq_self_iff.mpr (List.dropWhile_eq_nil_iff.mp blank)
      rw [lexemes_eq_nil blank, strides, white]
      exact .characters text
  | case2 text first rest cut induction =>
      have token := Token.lead_through (Token.scan_parts first rest).2
      have whole := (LeadThrough.characters (text.takeWhile isWhite)).append (token.append induction)
      rwa [← strides_of_scanned cut, ← scanned_parts cut] at whole

theorem source_of_lexemes (text : List Char) : Expr.sourceOf (lexemes text) = skipWhite text := by
  cases cut : skipWhite text with
  | nil =>
      rw [lexemes_eq_nil cut]
      rfl
  | cons first rest =>
      rw [lexemes_eq_cons cut]
      rfl

theorem gap_mem_places (text : List Char) : byteLength (text.takeWhile isWhite) ∈ places text := by
  have gap := LeadThrough.characters (text.takeWhile isWhite)
  rw [places]
  cases lexemes text with
  | nil =>
      have ends := gap.behind (zero_mem_places_of [])
      rwa [List.append_nil] at ends
  | cons lexeme found => exact gap.behind (zero_mem_places_of _)

theorem lexemes_split {text : List Char} {taken left : List Lexeme}
    (cut : lexemes text = taken ++ left) :
    ∃ front, text = front ++ Expr.sourceOf left ∧ Spaced (taken.map Lexeme.token) front ∧
      byteLength front ∈ places text := by
  induction taken generalizing text with
  | nil =>
      refine ⟨text.takeWhile isWhite, ?_, .blank fun _ member => List.mem_takeWhile_imp member,
        gap_mem_places text⟩
      rw [← show lexemes text = left from cut, source_of_lexemes]
      exact List.takeWhile_append_dropWhile.symm
  | cons lexeme taken induction =>
      cases skipped : skipWhite text with
      | nil =>
          rw [lexemes_eq_nil skipped] at cut
          nomatch cut
      | cons first rest =>
          have strides_eq := strides_of_scanned skipped
          have parts := scanned_parts skipped
          rw [lexemes_eq_cons skipped] at cut
          obtain ⟨rfl, cutRest⟩ := List.cons.inj cut
          obtain ⟨front, split, spaced, place⟩ := induction cutRest
          have white : ∀ character ∈ text.takeWhile isWhite, isWhite character = true :=
            fun _ member => List.mem_takeWhile_imp member
          have token := Token.lead_through (Token.scan_parts first rest).2
          refine ⟨text.takeWhile isWhite ++ ((Token.scan first rest).1.text ++ front), ?_,
            .token white spaced, ?_⟩
          · rw [split] at parts
            simpa only [List.append_assoc] using parts
          · have behind := (LeadThrough.characters (text.takeWhile isWhite)).behind
              (token.behind place)
            rw [← strides_eq] at behind
            rwa [byte_length_append, byte_length_append]

namespace Expr

theorem Reader.Bars.barred {tokens : List Token} (bars : (Reader.before []).Bars tokens) :
    Barred tokens := by
  intro text begins
  obtain ⟨refusal, refused⟩ := bars (lexemes text.toList) begins
  have same : readOperand [] (lexemes text.toList) = .error refusal := refused
  exact ⟨refusal.toError text.toList, by rw [parse, same]⟩

theorem refused_of_error {text : String} {error : SyntaxError} (failed : parse text = .error error) :
    ∃ refusal, readOperand [] (lexemes text.toList) = .error refusal ∧
      error = refusal.toError text.toList := by
  unfold parse at failed
  split at failed
  · cases failed
  · next refusal refused => exact ⟨refusal, refused, (Except.error.inj failed).symm⟩

theorem error_place {text : String} {error : SyntaxError} (failed : parse text = .error error) :
    error.text = text ∧ error.position ∈ places text.toList ∧
      ∃ front rest, text = front ++ rest ∧ front.utf8ByteSize = error.position ∧
        BreaksOff text front := by
  obtain ⟨refusal, refused, rfl⟩ := refused_of_error failed
  have begins : (Reader.before []).Reached [] := Waits.nil
  obtain ⟨_, same, _⟩ | ⟨fault, taken, left, last, cut, reached, bars, same⟩ :=
    begins.reads (lexemes_spaced text.toList).2
  · cases refused.symm.trans same
  · cases refused.symm.trans same
    obtain ⟨front, split, spaced, place⟩ := lexemes_split cut
    have position : ((⟨fault, sourceOf left⟩ : Refusal).toError text.toList).position =
        byteLength front := by
      rw [Refusal.toError, split, byte_length_append, Nat.add_sub_cancel]
    have breaks : BreaksOff text (String.ofList front) := by
      refine ⟨reached.begun.viable spaced, taken, left, cut, ?_, ?_⟩
      · rw [String.toList_ofList]
        exact split
      · exact fun next member => (bars next member).barred
    refine ⟨String.ofList_toList, position ▸ place, String.ofList front,
      String.ofList (sourceOf left), ?_, ?_, breaks⟩
    · rw [← String.ofList_append, ← split, String.ofList_toList]
    · rw [position, byte_length_eq]

theorem lexeme_place {text : List Char} {lexeme : Lexeme} (found : lexeme ∈ lexemes text) :
    ∃ front, text = front ++ lexeme.source ∧ byteLength front ∈ places text := by
  obtain ⟨taken, behind, cut⟩ := List.append_of_mem found
  obtain ⟨front, split, _, place⟩ := lexemes_split cut
  exact ⟨front, split, place⟩

/-- A syntax error tells the text and the first place in it where an expression cannot go on: the text
before it can be completed, that with the next token cannot. Wherever reading looks, be it for a
lexeme or between quotes, it looks at the beginning of a character or at the end of the text. -/
theorem syntax_error_breaks_off (text : String) :
    (∀ error, parse text = .error error →
      error.text = text ∧ error.position ≤ text.utf8ByteSize ∧
        String.Pos.Raw.IsValid text ⟨error.position⟩ ∧ error.position ∈ places text.toList ∧
        ∃ front rest, text = front ++ rest ∧ front.utf8ByteSize = error.position ∧
          BreaksOff text front) ∧
      (∀ lexeme ∈ lexemes text.toList, ∃ front, text.toList = front ++ lexeme.source ∧
        byteLength front ∈ places text.toList) ∧
      (∀ place ∈ places text.toList, String.Pos.Raw.IsValid text ⟨place⟩) ∧
      ∀ quoted, trim text.toList = '"' :: quoted →
        ∀ place ∈ placesOf (1 :: quoted.map Char.utf8Size),
          String.Pos.Raw.IsValid (String.ofList ('"' :: quoted)) ⟨place⟩ := by
  have visited : ∀ place ∈ places text.toList, String.Pos.Raw.IsValid text ⟨place⟩ :=
    fun place member => (is_place_iff text place).mp ((strides_lead_through _).is_place member)
  refine ⟨?_, fun lexeme found => lexeme_place found, visited, ?_⟩
  · intro error failed
    obtain ⟨same, place, breaks⟩ := error_place failed
    have valid := visited _ place
    exact ⟨same, valid.le_utf8ByteSize, valid, place, breaks⟩
  · intro quoted _ place member
    have quote : LeadThrough [1] ['"'] := .single rfl
    have whole := (quote.append (.characters quoted)).is_place member
    rwa [← is_place_iff, String.toList_ofList]

/-- The number is too large, and is reported where it begins. -/
theorem large_number_breaks_off :
    parse "(größe + -2) * !(3 <= 99999999999999999999" =
        .error ⟨"(größe + -2) * !(3 <= 99999999999999999999", 24,
          .outOfRange (List.replicate 20 '9')⟩ ∧
      (24 ∈ places "(größe + -2) * !(3 <= 99999999999999999999".toList ∧
        String.Pos.Raw.IsValid "(größe + -2) * !(3 <= 99999999999999999999" ⟨24⟩ ∧
        ∃ front rest, "(größe + -2) * !(3 <= 99999999999999999999" = front ++ rest ∧
          front.utf8ByteSize = 24 ∧
          BreaksOff "(größe + -2) * !(3 <= 99999999999999999999" front) ∧
      (∃ front, "größe".toList = front ++ "größe".toList ∧
        byteLength front ∈ places "größe".toList) ∧
      String.Pos.Raw.IsValid (String.ofList "\"größe\"".toList) ⟨5⟩ := by
  have refused : parse "(größe + -2) * !(3 <= 99999999999999999999" =
      .error ⟨"(größe + -2) * !(3 <= 99999999999999999999", 24,
        .outOfRange (List.replicate 20 '9')⟩ := by
    decide +kernel
  obtain ⟨fails, _, visited, _⟩ :=
    syntax_error_breaks_off "(größe + -2) * !(3 <= 99999999999999999999"
  obtain ⟨_, lexeme, _, _⟩ := syntax_error_breaks_off "größe"
  obtain ⟨_, _, _, quoted⟩ := syntax_error_breaks_off " \"größe\""
  obtain ⟨_, _, _, place, breaks⟩ := fails _ refused
  refine ⟨refused, ⟨place, visited 24 place, breaks⟩, ?_, ?_⟩
  · exact lexeme ⟨.word "größe".toList, "größe".toList⟩ (by decide +kernel)
  · exact quoted "größe\"".toList (by decide +kernel) 5 (by decide)

end Expr

end StateMachine
