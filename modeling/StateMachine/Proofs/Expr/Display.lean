import StateMachine.Proofs.Expr.Grammar

/-!
The text of an expression is read as the expression exactly when it is stratified. So every
expression that was read from some text is read again from its own.
-/

set_option autoImplicit false

namespace StateMachine.Expr

theorem number_spelled {word : Word} (natural : 0 ≤ word.val) :
    Spelled (.literal (.int word)) [.number word.text.toList] := by
  rw [Word.natural_text natural]
  exact digits_spelled (Int.toNat_of_nonneg natural)

/-- The text of an expression spells it, with a blank on both sides of a binary operator. -/
theorem text_spaced {expr : Expr} (stratified : expr.Stratified) :
    ∃ tokens, Spelled expr tokens ∧ Spaced tokens expr.text.toList := by
  induction expr with
  | literal value =>
      cases value with
      | int word => exact ⟨_, number_spelled stratified, .singleton _⟩
      | bool flag => exact ⟨_, .flag flag, .singleton _⟩
  | reference name => exact ⟨_, .reference name, .singleton _⟩
  | binary operator left right leftInduction rightInduction =>
      obtain ⟨-, -, stratifiedLeft, stratifiedRight⟩ := stratified
      obtain ⟨first, spelledLeft, spacedLeft⟩ := leftInduction stratifiedLeft
      obtain ⟨second, spelledRight, spacedRight⟩ := rightInduction stratifiedRight
      have blank : ∀ character ∈ [' '], Text.isWhite character = true := by simp; decide
      have following := ((spacedRight.gap blank).cons (.operator operator)).gap blank
      refine ⟨_, .binary spelledLeft spelledRight, ?_⟩
      simpa [text, Token.text] using spacedLeft.append following
  | negate operand induction =>
      obtain ⟨tokens, spelled, spaced⟩ := induction stratified.2
      refine ⟨_, .negate spelled, ?_⟩
      simpa [text, Token.text, Operator.symbol] using spaced.cons (.operator .sub)
  | not operand induction =>
      obtain ⟨tokens, spelled, spaced⟩ := induction stratified.2
      refine ⟨_, .not spelled, ?_⟩
      simpa [text, Token.text] using spaced.cons .bang
  | group inner induction =>
      obtain ⟨tokens, spelled, spaced⟩ := induction stratified
      refine ⟨_, .group spelled, ?_⟩
      simpa [text, Token.text] using (spaced.append (.singleton .closing)).cons .opening

/-- Whatever was read is read again from its text, and the expressions that are read from their own
text are the stratified ones. -/
theorem parse_text :
    (∀ source expr, parse source = .ok expr → parse expr.text = .ok expr) ∧
      ∀ expr, parse expr.text = .ok expr ↔ expr.Stratified := by
  have reads {expr : Expr} (stratified : expr.Stratified) : parse expr.text = .ok expr := by
    obtain ⟨tokens, spelled, spaced⟩ := text_spaced stratified
    exact parse_of_spelled stratified spelled spaced
  constructor
  · intro source expr parsed
    exact reads (spelled_of_parse parsed).1
  · intro expr
    exact ⟨fun parsed => (spelled_of_parse parsed).1, reads⟩

/-- A text without a blank where one is not needed, and its expression. -/
def crowdedText : String := "007--höhe>=( x*_y)||!! on "

def crowdedExpr : Expr :=
  .binary .or
    (.binary .ge
      (.binary .sub (.literal (.int ⟨7, by decide, by decide⟩)) (.negate (.reference "höhe")))
      (.group (.binary .mul (.reference "x") (.reference "_y"))))
    (.not (.not (.reference "on")))

theorem crowded_text_read_again :
    parse crowdedText = .ok crowdedExpr ∧ parse crowdedExpr.text = .ok crowdedExpr ∧
      crowdedExpr.Stratified := by
  have parsed : parse crowdedText = .ok crowdedExpr := by decide +kernel
  have again : parse crowdedExpr.text = .ok crowdedExpr := parse_text.1 _ _ parsed
  exact ⟨parsed, again, (parse_text.2 crowdedExpr).mp again⟩

end StateMachine.Expr
