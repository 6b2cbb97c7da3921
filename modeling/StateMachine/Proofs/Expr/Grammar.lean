import StateMachine.Proofs.Expr.Spelling

/-!
The reader accepts exactly the spaced tokens of stratified expressions. Its stack is understood as
the beginning of an expression: the tokens before an operand, and how tightly the operand has to
bind so that nothing on the stack takes it apart.
-/

set_option autoImplicit false

namespace StateMachine.Expr

/-- An operand that binds so tightly keeps its shape on a stack: what waits on top takes it as a
whole. -/
def Admits (binding : Nat) : List Pending → Prop
  | .binary _ operator :: _ => operator.level < binding
  | .negate :: _ | .not :: _ => 6 ≤ binding
  | _ => True

theorem Admits.weaken {binding tighter : Nat} {stack : List Pending} (admits : Admits binding stack)
    (le : binding ≤ tighter) : Admits tighter stack := by
  match stack, admits with
  | .binary _ operator :: _, below => exact Nat.lt_of_lt_of_le below le
  | .negate :: _, above | .not :: _, above => exact Nat.le_trans above le
  | .group :: _, _ | [], _ => trivial

def Settled : List Pending → Prop
  | .negate :: _ | .not :: _ => False
  | _ => True

/-- Prefix operators wait for tighter operands than binary operators make. -/
theorem settled_of_admits {binding : Nat} {stack : List Pending} (loose : binding < 6)
    (admits : Admits binding stack) : Settled stack := by
  match stack, admits with
  | .binary _ _ :: _, _ | .group :: _, _ | [], _ => trivial
  | .negate :: _, above | .not :: _, above => exact absurd above (Nat.not_le_of_lt loose)

theorem complete_prefixes_of_settled {stack : List Pending} (settled : Settled stack)
    (expr : Expr) : completePrefixes stack expr = (stack, expr) := by
  match stack, settled with
  | .binary _ _ :: _, _ | .group :: _, _ | [], _ => rfl

theorem complete_binary_of_admits {level : Nat} {stack : List Pending}
    (admits : Admits level stack) (expr : Expr) :
    completeBinary level stack expr = (stack, expr) := by
  match stack, admits with
  | .binary _ _ :: _, below => rw [completeBinary, if_neg (Nat.not_le_of_lt below)]
  | .negate :: _, _ | .not :: _, _ | .group :: _, _ | [], _ => rfl

/-- Reading an operand leaves a state from which its operators are completed as from the operand
itself. -/
def ReadsAs (stack : List Pending) (found : List Lexeme) (expr : Expr) : Prop :=
  ∃ waiting operand,
    (∀ rest, readOperand stack (found ++ rest) = readOperator waiting operand rest) ∧
    ∀ level ≤ expr.binding, completeBinary level waiting operand =
      completeBinary level (completePrefixes stack expr).1 (completePrefixes stack expr).2

theorem of_word_flag (flag : Bool) : ofWord (flagText flag).toList = .literal (.bool flag) := by
  cases flag <;> rfl

theorem of_word_name {name : String} (named : IsName name) :
    ofWord name.toList = .reference name := by
  have apart {other : String} (different : name ≠ other) : name.toList ≠ other.toList :=
    fun same => different (String.toList_inj.mp same)
  have notTrue : name.toList ≠ ['t', 'r', 'u', 'e'] := apart named.not_true
  have notFalse : name.toList ≠ ['f', 'a', 'l', 's', 'e'] := apart named.not_false
  rw [ofWord, if_neg notTrue, if_neg notFalse, String.ofList_toList]

namespace ReadsAs

variable {stack : List Pending} {found others : List Lexeme} {operand : Expr}

/-- A token that is an operand by itself. -/
theorem single (reads : ∀ rest, readOperand stack (found ++ rest) =
      readOperator (completePrefixes stack operand).1 (completePrefixes stack operand).2 rest) :
    ReadsAs stack found operand :=
  ⟨_, _, reads, fun _ _ => rfl⟩

theorem negate (reads : ReadsAs (.negate :: stack) others operand) (tight : 6 ≤ operand.binding)
    (source : List Char) :
    ReadsAs stack (⟨.operator .sub, source⟩ :: others) (.negate operand) := by
  obtain ⟨waiting, whole, reads, completes⟩ := reads
  refine ⟨waiting, whole, fun rest => reads rest, fun level below => ?_⟩
  exact completes level (Nat.le_trans below tight)

theorem not (reads : ReadsAs (.not :: stack) others operand) (tight : 6 ≤ operand.binding)
    (source : List Char) : ReadsAs stack (⟨.bang, source⟩ :: others) (.not operand) := by
  obtain ⟨waiting, whole, reads, completes⟩ := reads
  refine ⟨waiting, whole, fun rest => reads rest, fun level below => ?_⟩
  exact completes level (Nat.le_trans below tight)

theorem group {inner : Expr} (reads : ReadsAs (.group :: stack) found inner)
    (source closing : List Char) :
    ReadsAs stack (⟨.opening, source⟩ :: (found ++ [⟨.closing, closing⟩])) (.group inner) := by
  obtain ⟨waiting, operand, reads, completes⟩ := reads
  have closed : completeBinary 0 waiting operand = (.group :: stack, inner) :=
    completes 0 (Nat.zero_le _)
  apply single
  intro rest
  calc readOperand stack (⟨.opening, source⟩ :: (found ++ [⟨.closing, closing⟩]) ++ rest)
      = readOperand (.group :: stack) (found ++ (⟨.closing, closing⟩ :: rest)) := by
        rw [List.cons_append, List.append_assoc]; rfl
    _ = readOperator waiting operand (⟨.closing, closing⟩ :: rest) := reads _
    _ = readOperator (completePrefixes stack (.group inner)).1
          (completePrefixes stack (.group inner)).2 rest := by
        simp only [readOperator, closed]

theorem binary {operator : Operator} {left right : Expr} (admits : Admits operator.level stack)
    (first : ReadsAs stack found left) (looseLeft : operator.level ≤ left.binding)
    (second : ReadsAs (.binary left operator :: stack) others right)
    (looseRight : operator.level < right.binding) (source : List Char) :
    ReadsAs stack (found ++ ⟨.operator operator, source⟩ :: others)
      (.binary operator left right) := by
  have plain (expr : Expr) : completePrefixes stack expr = (stack, expr) :=
    complete_prefixes_of_settled (settled_of_admits operator.level_lt_prefix admits) expr
  obtain ⟨waiting, operand, readsLeft, completesLeft⟩ := first
  obtain ⟨waiting', operand', readsRight, completesRight⟩ := second
  -- Nothing on the stack binds as tightly as the operator, so it takes the whole left operand.
  have whole : completeBinary operator.level waiting operand = (stack, left) := by
    rw [completesLeft _ looseLeft, plain left]
    exact complete_binary_of_admits admits left
  refine ⟨waiting', operand', fun rest => ?_, fun level below => ?_⟩
  · calc readOperand stack (found ++ ⟨.operator operator, source⟩ :: others ++ rest)
        = readOperator waiting operand (⟨.operator operator, source⟩ :: (others ++ rest)) := by
          rw [List.append_assoc, List.cons_append, readsLeft]
      _ = readOperand (.binary left operator :: stack) (others ++ rest) := by
          simp only [readOperator, whole]
      _ = readOperator waiting' operand' rest := readsRight rest
  · rw [completesRight level (Nat.le_trans below (Nat.le_of_lt looseRight)), plain]
    exact if_pos below

end ReadsAs

theorem Spelled.reads {expr : Expr} {tokens : List Token} (spelled : Spelled expr tokens)
    (stratified : expr.Stratified) {found : List Lexeme}
    (same : found.map Lexeme.token = tokens) {stack : List Pending}
    (admits : Admits expr.binding stack) : ReadsAs stack found expr := by
  induction spelled generalizing found stack with
  | @number digits word nonempty all value =>
      obtain ⟨⟨_, source⟩, rfl, rfl⟩ := List.map_eq_singleton_iff.mp same
      have held : Word.ofInt? (Decimal.number digits) = some word :=
        Word.of_int_eq_some_iff.mpr value.symm
      exact .single fun rest => by simp only [List.singleton_append, readOperand, held]
  | flag flag =>
      obtain ⟨⟨_, source⟩, rfl, rfl⟩ := List.map_eq_singleton_iff.mp same
      exact .single fun rest => by simp only [List.singleton_append, readOperand, of_word_flag]
  | reference name =>
      obtain ⟨⟨_, source⟩, rfl, rfl⟩ := List.map_eq_singleton_iff.mp same
      exact .single fun rest => by
        simp only [List.singleton_append, readOperand, of_word_name stratified]
  | negate spelled induction =>
      obtain ⟨⟨_, source⟩, others, rfl, rfl, sameOthers⟩ := List.map_eq_cons_iff.mp same
      have reads : ReadsAs (.negate :: stack) others _ :=
        induction stratified.2 sameOthers stratified.1
      exact reads.negate stratified.1 source
  | not spelled induction =>
      obtain ⟨⟨_, source⟩, others, rfl, rfl, sameOthers⟩ := List.map_eq_cons_iff.mp same
      have reads : ReadsAs (.not :: stack) others _ :=
        induction stratified.2 sameOthers stratified.1
      exact reads.not stratified.1 source
  | group spelled induction =>
      obtain ⟨⟨_, source⟩, others, rfl, rfl, sameOthers⟩ := List.map_eq_cons_iff.mp same
      obtain ⟨inside, last, rfl, sameInside, sameLast⟩ := List.map_eq_append_iff.mp sameOthers
      obtain ⟨⟨_, closing⟩, rfl, rfl⟩ := List.map_eq_singleton_iff.mp sameLast
      have reads : ReadsAs (.group :: stack) inside _ := induction stratified sameInside trivial
      exact reads.group source closing
  | @binary operator left right _ _ spelledLeft spelledRight leftInduction rightInduction =>
      obtain ⟨looseLeft, looseRight, stratifiedLeft, stratifiedRight⟩ := stratified
      obtain ⟨before, after, rfl, sameBefore, sameAfter⟩ := List.map_eq_append_iff.mp same
      obtain ⟨⟨_, source⟩, others, rfl, rfl, sameOthers⟩ := List.map_eq_cons_iff.mp sameAfter
      have first := leftInduction stratifiedLeft sameBefore (admits.weaken looseLeft)
      have second : ReadsAs (.binary left operator :: stack) others right :=
        rightInduction stratifiedRight sameOthers looseRight
      exact .binary admits first looseLeft second looseRight source

/-- The tokens that a stack has taken: those before the operand that comes next. Everything on it
keeps its shape on what waits below. -/
inductive Waits : List Pending → List Token → Prop
  | nil : Waits [] []
  | binary {stack : List Pending} {operator : Operator} {left : Expr} {before own : List Token}
      (waits : Waits stack before) (admits : Admits operator.level stack)
      (loose : operator.level ≤ left.binding) (stratified : left.Stratified)
      (spelled : Spelled left own) :
      Waits (.binary left operator :: stack) (before ++ (own ++ [.operator operator]))
  | negate {stack : List Pending} {before : List Token} (waits : Waits stack before) :
      Waits (.negate :: stack) (before ++ [.operator .sub])
  | not {stack : List Pending} {before : List Token} (waits : Waits stack before) :
      Waits (.not :: stack) (before ++ [.bang])
  | group {stack : List Pending} {before : List Token} (waits : Waits stack before) :
      Waits (.group :: stack) (before ++ [.opening])

structure Holds (stack : List Pending) (operand : Expr) (tokens : List Token) : Prop where
  parts : ∃ before own, tokens = before ++ own ∧ Waits stack before ∧ Spelled operand own
  stratified : operand.Stratified
  admits : Admits operand.binding stack
  settled : Settled stack

theorem complete_prefixes_holds {stack : List Pending} {operand : Expr} {before own : List Token}
    (waits : Waits stack before) (spelled : Spelled operand own) (stratified : operand.Stratified)
    (tight : 6 ≤ operand.binding) :
    Holds (completePrefixes stack operand).1 (completePrefixes stack operand).2 (before ++ own) ∧
      6 ≤ (completePrefixes stack operand).2.binding := by
  induction waits generalizing operand own with
  | nil => exact ⟨⟨⟨[], own, rfl, .nil, spelled⟩, stratified, trivial, trivial⟩, tight⟩
  | @binary stack operator left before leftTokens waits admits loose leftStratified leftSpelled =>
      have below : operator.level < operand.binding :=
        Nat.lt_of_lt_of_le operator.level_lt_prefix tight
      have waiting := Waits.binary waits admits loose leftStratified leftSpelled
      exact ⟨⟨⟨_, own, rfl, waiting, spelled⟩, stratified, below, trivial⟩, tight⟩
  | group waits =>
      exact ⟨⟨⟨_, own, rfl, .group waits, spelled⟩, stratified, trivial, trivial⟩, tight⟩
  | negate waits induction =>
      rw [List.append_assoc]
      exact induction (.negate spelled) ⟨tight, stratified⟩ (Nat.le_refl 6)
  | not waits induction =>
      rw [List.append_assoc]
      exact induction (.not spelled) ⟨tight, stratified⟩ (Nat.le_refl 6)

theorem complete_binary_holds {level : Nat} {stack : List Pending} {operand : Expr}
    {tokens : List Token} (holds : Holds stack operand tokens) (loose : level ≤ operand.binding) :
    Holds (completeBinary level stack operand).1 (completeBinary level stack operand).2 tokens ∧
      Admits level (completeBinary level stack operand).1 ∧
      level ≤ (completeBinary level stack operand).2.binding := by
  induction stack generalizing operand with
  | nil => exact ⟨holds, trivial, loose⟩
  | cons pending stack induction =>
      cases pending with
      | group => exact ⟨holds, trivial, loose⟩
      | negate | not => exact holds.settled.elim
      | binary left operator =>
          rw [completeBinary]
          split
          · next above =>
              obtain ⟨_, own, rfl, waits, spelled⟩ := holds.parts
              cases waits with
              | @binary _ _ _ before leftTokens waits admits looseLeft stratified spelledLeft =>
                  refine induction ⟨⟨before, leftTokens ++ .operator operator :: own, by simp,
                    waits, .binary spelledLeft spelled⟩, ?_, admits,
                    settled_of_admits operator.level_lt_prefix admits⟩ above
                  exact ⟨looseLeft, holds.admits, stratified, holds.stratified⟩
          · next below => exact ⟨holds, Nat.lt_of_not_le below, loose⟩

theorem of_word_spelled {name : List Char} (formed : (Token.word name).WellFormed) :
    (ofWord name).Stratified ∧ Spelled (ofWord name) [.word name] ∧ (ofWord name).binding = 7 := by
  unfold ofWord
  split
  · next same =>
      subst same
      exact ⟨trivial, .flag true, rfl⟩
  · next notTrue =>
      split
      · next same =>
          subst same
          exact ⟨trivial, .flag false, rfl⟩
      · next notFalse =>
          have spelled := Spelled.reference (String.ofList name)
          rw [String.toList_ofList] at spelled
          refine ⟨⟨by rwa [String.toList_ofList], ?_, ?_⟩, spelled, rfl⟩
          · intro same
            exact notTrue (String.toList_ofList.symm.trans (congrArg String.toList same))
          · intro same
            exact notFalse (String.toList_ofList.symm.trans (congrArg String.toList same))

theorem Holds.whole {operand : Expr} {tokens : List Token} (holds : Holds [] operand tokens) :
    operand.Stratified ∧ Spelled operand tokens := by
  obtain ⟨before, own, rfl, waits, spelled⟩ := holds.parts
  cases waits
  exact ⟨holds.stratified, spelled⟩

/-- The end of a group makes it an operand of what waits outside. -/
theorem Holds.close {outer : List Pending} {inner : Expr} {tokens : List Token}
    (holds : Holds (.group :: outer) inner tokens) :
    Holds (completePrefixes outer (.group inner)).1 (completePrefixes outer (.group inner)).2
        (tokens ++ [.closing]) ∧
      6 ≤ (completePrefixes outer (.group inner)).2.binding := by
  obtain ⟨_, own, rfl, waits, spelled⟩ := holds.parts
  cases waits with
  | @group _ before waits =>
      have closed := complete_prefixes_holds waits (.group spelled) holds.stratified (Nat.le_succ 6)
      simpa using closed

/-- An operator takes what can be completed before it as its left operand. -/
theorem Holds.operate {stack : List Pending} {operand : Expr} {tokens : List Token}
    (holds : Holds stack operand tokens) (tight : 6 ≤ operand.binding) (operator : Operator) :
    Waits (.binary (completeBinary operator.level stack operand).2 operator ::
      (completeBinary operator.level stack operand).1) (tokens ++ [.operator operator]) := by
  have loose := Nat.le_trans (Nat.le_of_lt operator.level_lt_prefix) tight
  obtain ⟨completed, admits, above⟩ := complete_binary_holds holds loose
  obtain ⟨before, own, rfl, waits, spelled⟩ := completed.parts
  rw [List.append_assoc]
  exact .binary waits admits above completed.stratified spelled

/-- Where reading stands: before an operand, or behind one. -/
inductive Reader where
  | before (stack : List Pending)
  | behind (stack : List Pending) (operand : Expr)

namespace Reader

def read : Reader → List Lexeme → Except Refusal Expr
  | .before stack => readOperand stack
  | .behind stack operand => readOperator stack operand

def Reached : Reader → List Token → Prop
  | .before stack, tokens => Waits stack tokens
  | .behind stack operand, tokens => Holds stack operand tokens ∧ 6 ≤ operand.binding

def Steps (reader : Reader) (tokens : List Token) (token : Token) : Prop :=
  (∀ source found, ∃ fault, reader.read (⟨token, source⟩ :: found) = .error ⟨fault, source⟩) ∨
    ∃ next : Reader, next.Reached (tokens ++ [token]) ∧
      ∀ source found, reader.read (⟨token, source⟩ :: found) = next.read found

theorem before_steps {stack : List Pending} {tokens : List Token} (waits : Waits stack tokens)
    {token : Token} (formed : token.WellFormed ∨ ∃ character, token = .unknown character) :
    (Reader.before stack).Steps tokens token := by
  cases token with
  | number digits =>
      obtain ⟨nonempty, all⟩ := formed.resolve_right (by simp)
      cases held : Word.ofInt? (Decimal.number digits) with
      | none =>
          refine Or.inl fun source found => ⟨.outOfRange digits, ?_⟩
          simp only [read, readOperand, held]
      | some word =>
          have value := (Word.of_int_eq_some_iff.mp held).symm
          have natural : (0 : Int) ≤ word.val := value ▸ Int.natCast_nonneg _
          have holds := complete_prefixes_holds waits (.number nonempty all value) natural
            (Nat.le_succ 6)
          refine Or.inr ⟨.behind _ _, holds, fun source found => ?_⟩
          simp only [read, readOperand, held]
  | word name =>
      obtain ⟨stratified, spelled, binding⟩ := of_word_spelled (formed.resolve_right (by simp))
      have holds := complete_prefixes_holds waits spelled stratified (binding ▸ Nat.le_succ 6)
      exact Or.inr ⟨.behind _ _, holds, fun _ _ => rfl⟩
  | opening => exact Or.inr ⟨.before _, Waits.group waits, fun _ _ => rfl⟩
  | bang => exact Or.inr ⟨.before _, Waits.not waits, fun _ _ => rfl⟩
  | operator known =>
      cases known with
      | sub => exact Or.inr ⟨.before _, Waits.negate waits, fun _ _ => rfl⟩
      | _ =>
          refine Or.inl fun source found => ?_
          cases source <;> exact ⟨_, rfl⟩
  | closing | unknown _ =>
      refine Or.inl fun source found => ?_
      cases source <;> exact ⟨_, rfl⟩

theorem behind_steps {stack : List Pending} {operand : Expr} {tokens : List Token}
    (holds : Holds stack operand tokens) (tight : 6 ≤ operand.binding) (token : Token) :
    (Reader.behind stack operand).Steps tokens token := by
  cases token with
  | operator known => exact Or.inr ⟨.before _, holds.operate tight known, fun _ _ => rfl⟩
  | closing =>
      have completed := (complete_binary_holds holds (Nat.zero_le _)).1
      unfold Steps
      simp only [read, readOperator]
      split
      · next outer inner done =>
          rw [done] at completed
          exact Or.inr ⟨.behind _ _, completed.close, fun _ _ => rfl⟩
      · exact Or.inl fun _ _ => ⟨_, rfl⟩
  | number _ | word _ | opening | bang | unknown _ => exact Or.inl fun _ _ => ⟨_, rfl⟩

theorem Reached.steps {reader : Reader} {tokens : List Token} (reached : reader.Reached tokens)
    {token : Token} (formed : token.WellFormed ∨ ∃ character, token = .unknown character) :
    reader.Steps tokens token :=
  match reader, reached with
  | .before _, waits => before_steps waits formed
  | .behind _ _, ⟨holds, tight⟩ => behind_steps holds tight token

/-- At the end of the text either something is missing or the expression is whole. -/
theorem Reached.ends {reader : Reader} {tokens : List Token} (reached : reader.Reached tokens) :
    (∃ fault, reader.read [] = .error ⟨fault, []⟩) ∨
      ∃ expr : Expr, reader.read [] = .ok expr ∧ expr.Stratified ∧ Spelled expr tokens := by
  cases reader with
  | before stack => exact Or.inl ⟨_, rfl⟩
  | behind stack operand =>
      have completed := (complete_binary_holds reached.1 (Nat.zero_le _)).1
      simp only [read, readOperator]
      split
      · next whole done =>
          rw [done] at completed
          exact Or.inr ⟨whole, rfl, completed.whole⟩
      · exact Or.inl ⟨_, rfl⟩

end Reader

def sourceOf : List Lexeme → List Char
  | [] => []
  | lexeme :: _ => lexeme.source

namespace Reader

/-- Nothing can be read that begins with these tokens. -/
def Bars (reader : Reader) (tokens : List Token) : Prop :=
  ∀ found : List Lexeme, tokens <+: found.map Lexeme.token →
    ∃ refusal, reader.read found = .error refusal

theorem bars_singleton {reader : Reader} {token : Token}
    (refuses : ∀ source found, ∃ fault,
      reader.read (⟨token, source⟩ :: found) = .error ⟨fault, source⟩) :
    reader.Bars [token] := by
  intro found begins
  cases found with
  | nil => nomatch List.prefix_nil.mp begins
  | cons lexeme found =>
      obtain ⟨rfl, _⟩ := List.cons_prefix_cons.mp begins
      obtain ⟨fault, refused⟩ := refuses lexeme.source found
      exact ⟨_, refused⟩

theorem Bars.cons {reader next : Reader} {token : Token} {tokens : List Token}
    (bars : next.Bars tokens)
    (takes : ∀ source found, reader.read (⟨token, source⟩ :: found) = next.read found) :
    reader.Bars (token :: tokens) := by
  intro found begins
  cases found with
  | nil => nomatch List.prefix_nil.mp begins
  | cons lexeme found =>
      obtain ⟨rfl, rest⟩ := List.cons_prefix_cons.mp begins
      obtain ⟨refusal, refused⟩ := bars found rest
      exact ⟨refusal, (takes lexeme.source found).trans refused⟩

/-- Reading takes all lexemes, and what is read is stratified and spelled by the tokens taken; or it
takes some of them and breaks off. Then either no lexeme is left, or nothing can be read that goes on
with the next one. -/
theorem Reached.reads {reader : Reader} {tokens : List Token} (reached : reader.Reached tokens)
    {found : List Lexeme} (formed : ∀ lexeme ∈ found,
      lexeme.token.WellFormed ∨ ∃ character, lexeme.token = .unknown character) :
    (∃ expr : Expr, reader.read found = .ok expr ∧ expr.Stratified ∧
        Spelled expr (tokens ++ found.map Lexeme.token)) ∨
      ∃ (fault : SyntaxFault) (taken left : List Lexeme) (last : Reader), found = taken ++ left ∧
        last.Reached (tokens ++ taken.map Lexeme.token) ∧
        (∀ next ∈ left.head?, reader.Bars ((taken ++ [next]).map Lexeme.token)) ∧
        reader.read found = .error ⟨fault, sourceOf left⟩ := by
  induction found generalizing reader tokens with
  | nil =>
      have spent : tokens ++ ([] : List Lexeme).map Lexeme.token = tokens := List.append_nil tokens
      obtain ⟨fault, missing⟩ | whole := reached.ends
      · exact Or.inr ⟨fault, [], [], reader, rfl, spent.symm ▸ reached, by simp, missing⟩
      · rw [spent]
        exact Or.inl whole
  | cons lexeme found induction =>
      obtain ⟨own, others⟩ := List.forall_mem_cons.mp formed
      obtain refuses | ⟨next, went, takes⟩ := reached.steps own
      · obtain ⟨fault, refused⟩ := refuses lexeme.source found
        refine Or.inr ⟨fault, [], lexeme :: found, reader, rfl, ?_, ?_, refused⟩
        · rw [List.map_nil, List.append_nil]
          exact reached
        · rintro _ ⟨⟩
          exact bars_singleton refuses
      · rw [takes lexeme.source found, List.map_cons, List.append_cons]
        obtain whole | ⟨fault, taken, left, last, rfl, reachedLast, bars, refused⟩ :=
          induction went others
        · exact Or.inl whole
        · refine Or.inr ⟨fault, lexeme :: taken, left, last, rfl, ?_, ?_, refused⟩
          · rw [List.map_cons, List.append_cons]
            exact reachedLast
          · intro first member
            exact (bars first member).cons takes

end Reader

theorem Reader.Reached.spelled {reader : Reader} {tokens : List Token}
    (reached : reader.Reached tokens) {found : List Lexeme}
    (formed : ∀ lexeme ∈ found,
      lexeme.token.WellFormed ∨ ∃ character, lexeme.token = .unknown character)
    {expr : Expr} (read : reader.read found = .ok expr) :
    expr.Stratified ∧ Spelled expr (tokens ++ found.map Lexeme.token) := by
  obtain ⟨_, same, whole⟩ | ⟨_, _, _, _, _, _, _, refused⟩ := reached.reads formed
  · cases read.symm.trans same
    exact whole
  · cases read.symm.trans refused

def OperandSpelled (found : List Lexeme) : Prop :=
  ∀ stack before expr, Waits stack before → readOperand stack found = .ok expr →
    expr.Stratified ∧ Spelled expr (before ++ found.map Lexeme.token)

def OperatorSpelled (found : List Lexeme) : Prop :=
  ∀ stack operand tokens expr, Holds stack operand tokens → 6 ≤ operand.binding →
    readOperator stack operand found = .ok expr →
    expr.Stratified ∧ Spelled expr (tokens ++ found.map Lexeme.token)

theorem spelled_of_read {found : List Lexeme}
    (formed : ∀ lexeme ∈ found,
      lexeme.token.WellFormed ∨ ∃ character, lexeme.token = .unknown character) :
    OperandSpelled found ∧ OperatorSpelled found := by
  constructor
  · intro stack before expr waits read
    have reached : (Reader.before stack).Reached before := waits
    exact reached.spelled formed read
  · intro stack operand tokens expr holds tight read
    have reached : (Reader.behind stack operand).Reached tokens := ⟨holds, tight⟩
    exact reached.spelled formed read

theorem spelled_of_parse {text : String} {expr : Expr} (parsed : parse text = .ok expr) :
    expr.Stratified ∧ ∃ tokens, Spelled expr tokens ∧ Spaced tokens text.toList := by
  obtain ⟨spaced, formed⟩ := lexemes_spaced text.toList
  unfold parse at parsed
  split at parsed
  · next whole read =>
      cases parsed
      obtain ⟨stratified, spelled⟩ := (spelled_of_read formed).1 [] [] _ .nil read
      exact ⟨stratified, _, spelled, spaced⟩
  · cases parsed

theorem parse_of_spelled {text : String} {expr : Expr} {tokens : List Token}
    (stratified : expr.Stratified) (spelled : Spelled expr tokens)
    (spaced : Spaced tokens text.toList) : parse text = .ok expr := by
  have admits : Admits expr.binding [] := trivial
  obtain ⟨waiting, operand, reads, completes⟩ :=
    spelled.reads stratified (spelled.lexemes_eq stratified spaced) admits
  have whole : completeBinary 0 waiting operand = ([], expr) := completes 0 (Nat.zero_le _)
  have read : readOperand [] (lexemes text.toList) = .ok expr := by
    rw [← List.append_nil (lexemes text.toList), reads, readOperator, whole]
  rw [parse, read]

/-- A text reads as an expression exactly when the expression shows its shape without further
parentheses and the text holds its tokens in order, with any white space around them. -/
theorem parse_eq_ok_iff (text : String) (expr : Expr) :
    parse text = .ok expr ↔
      expr.Stratified ∧ ∃ tokens, Spelled expr tokens ∧ Spaced tokens text.toList := by
  constructor
  · exact spelled_of_parse
  · rintro ⟨stratified, tokens, spelled, spaced⟩
    exact parse_of_spelled stratified spelled spaced

end StateMachine.Expr
