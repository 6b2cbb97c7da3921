import StateMachine.Json.Reader
import StateMachine.Json.Writer
import StateMachine.Proofs.Text.Numeral

/-!
What is written as JSON is read back. Every part is read together with the text behind it, and it
ends where that text begins.
-/

set_option autoImplicit false

namespace StateMachine.Json

/-! Texts in quotes. -/

theorem digit_of_hex {number : Nat} (small : number < 16) :
    Radix.digit? 16 (hexDigit number) = some number := by
  revert number
  decide

theorem control_unit {character : Char} (control : character.toNat < 0x20) :
    Radix.number? 16
        ['0', '0', hexDigit (character.toNat / 16), hexDigit (character.toNat % 16)] =
      some character.toNat := by
  have small : character.toNat / 16 < 16 := by omega
  have high := digit_of_hex small
  have low := digit_of_hex (Nat.mod_lt character.toNat (by decide : 16 > 0))
  have zero : Radix.digit? 16 '0' = some 0 := by decide
  simp [Radix.number?, high, low, zero]
  omega

theorem escape_cases (character : Char) :
    (∃ letter, escape character = ['\\', letter] ∧ letter ≠ 'u' ∧
      escapedChar? letter = some character) ∨
    (character.toNat < 0x20 ∧ escape character =
      ['\\', 'u', '0', '0', hexDigit (character.toNat / 16), hexDigit (character.toNat % 16)]) ∨
    (escape character = [character] ∧ character ≠ '"' ∧ character ≠ '\\' ∧
      ¬ character.toNat < 0x20) := by
  unfold escape
  split
  case h_1 => exact Or.inl ⟨'"', rfl, by decide, rfl⟩
  case h_2 => exact Or.inl ⟨'\\', rfl, by decide, rfl⟩
  case h_3 => exact Or.inl ⟨'b', rfl, by decide, rfl⟩
  case h_4 => exact Or.inl ⟨'f', rfl, by decide, rfl⟩
  case h_5 => exact Or.inl ⟨'n', rfl, by decide, rfl⟩
  case h_6 => exact Or.inl ⟨'r', rfl, by decide, rfl⟩
  case h_7 => exact Or.inl ⟨'t', rfl, by decide, rfl⟩
  case h_8 noQuote noBackslash _ _ _ _ _ =>
    split
    · next control => exact Or.inr (Or.inl ⟨control, rfl⟩)
    · next plain => exact Or.inr (Or.inr ⟨rfl, noQuote, noBackslash, plain⟩)

theorem read_escaped (character : Char) (rest : List Char) :
    readString? (escape character ++ rest) = (readString? rest).map (Content.push character) := by
  obtain ⟨letter, written, short, meant⟩ | ⟨control, written⟩ |
      ⟨written, noQuote, noBackslash, plain⟩ := escape_cases character
  · rw [written, List.cons_append, List.singleton_append, readString?.eq_def]
    simp [meant, short]
  · have notHigh : isHighSurrogate character.toNat = false := by
      simp only [isHighSurrogate, Bool.and_eq_false_iff, decide_eq_false_iff_not]
      omega
    have notLow : isLowSurrogate character.toNat = false := by
      simp only [isLowSurrogate, Bool.and_eq_false_iff, decide_eq_false_iff_not]
      omega
    rw [written, readString?.eq_def]
    simp [control_unit control, notHigh, notLow]
  · rw [written, List.singleton_append, readString?, if_neg (not_or.mpr ⟨plain, noBackslash⟩)]
    all_goals simp_all

theorem read_quoted (content rest : List Char) :
    readString? (content.flatMap escape ++ '"' :: rest) = some (some content, rest) := by
  induction content with
  | nil => rw [List.flatMap_nil, List.nil_append, readString?]
  | cons character others induction =>
      rw [List.flatMap_cons, List.append_assoc, read_escaped, induction]
      rfl

/-! Numbers. -/

def EndsNumber (rest : List Char) : Prop :=
  ∀ character ∈ rest.head?, Decimal.isDigit character = false ∧ character ≠ '.' ∧
    character ≠ 'e' ∧ character ≠ 'E'

/-- An integer that fits into 64 bits, with or without a sign. -/
def InRange (number : Int) : Prop :=
  -9223372036854775808 ≤ number ∧ number < 18446744073709551616

theorem finish_number {negative : Bool} {digits rest : List Char} {number : Int}
    (ends : EndsNumber rest) (valued : integer? negative digits = some number) :
    finishNumber? negative digits rest = some (.integer number, rest) := by
  cases rest with
  | nil => simp [finishNumber?, valued]
  | cons next others =>
      obtain ⟨-, noPoint, noLower, noUpper⟩ := ends next rfl
      simp [finishNumber?, valued, noPoint, noLower, noUpper]

theorem integer_of_digits {number : Int} (inRange : InRange number) :
    integer? (decide (number < 0)) (Decimal.digits number.natAbs) = some number := by
  obtain ⟨low, high⟩ := inRange
  rw [integer?, Decimal.number_digits]
  by_cases negative : number < 0
  · rw [decide_eq_true negative, if_pos rfl, if_pos (by omega)]
    exact congrArg some (by omega)
  · rw [decide_eq_false negative, if_neg Bool.false_ne_true, if_pos (by omega)]
    exact congrArg some (by omega)

theorem read_digits {number : Nat} {rest : List Char} (ends : EndsNumber rest) :
    Decimal.spanDigits (Decimal.digits number ++ rest) = (Decimal.digits number, rest) := by
  have cut := Text.span_append (Decimal.digits_are_digits number)
    fun character first => (ends character first).1
  rw [Decimal.spanDigits, cut.1, cut.2]

theorem read_integer {number : Int} (inRange : InRange number) {rest : List Char}
    (ends : EndsNumber rest) :
    readNumber? ((toString number).toList ++ rest) = some (.integer number, rest) := by
  have valued := finish_number ends (integer_of_digits inRange)
  have short := Decimal.digits_no_leading_zero number.natAbs
  obtain ⟨first, others, shape, digit⟩ := Decimal.digits_eq_cons number.natAbs
  by_cases negative : number < 0
  · rw [decide_eq_true negative] at valued
    rw [Decimal.negative_text negative, List.cons_append, readNumber?]
    simp only [read_digits ends]
    rw [shape] at valued short ⊢
    simp only [if_neg short, valued]
  · rw [decide_eq_false negative] at valued
    have notMinus : first ≠ '-' := by
      rintro rfl
      exact absurd digit (by decide)
    rw [Decimal.natural_text (by omega), readNumber?]
    · simp only [read_digits ends]
      rw [shape] at valued short ⊢
      simp only [if_neg short, valued]
    · rw [shape]
      intro after same
      exact notMinus (List.cons.inj same).1

/-! Containers. -/

/-- Data that have a written form of their own, in containers of which at most `room` are open at a
time. -/
inductive Fits : Nat → Datum → Prop where
  | null (room : Nat) : Fits room .null
  | flag (room : Nat) (holds : Bool) : Fits room (.flag holds)
  | integer {room : Nat} {number : Int} (inRange : InRange number) : Fits room (.integer number)
  | text (room : Nat) (content : String) : Fits room (.text content)
  | list {room : Nat} {items : List Datum} (parts : ∀ item ∈ items, Fits room item) :
      Fits (room + 1) (.list items)
  | record {room : Nat} {fields : List (String × Datum)}
      (parts : ∀ field ∈ fields, Fits room field.2) : Fits (room + 1) (.record fields)

def joined (parts : List String) : List Char := (",".intercalate parts).toList

theorem joined_cons_cons (part next : String) (others : List String) :
    joined (part :: next :: others) = part.toList ++ ',' :: joined (next :: others) := by
  simp [joined, String.toList_intercalate]

theorem joined_singleton (part : String) : joined [part] = part.toList := by
  simp [joined]

theorem compact_items_eq (items : List Datum) : compactItems items = items.map compact := by
  induction items with
  | nil => rfl
  | cons item rest induction => rw [compactItems, induction, List.map_cons]

def fieldText (field : String × Datum) : String := quoted field.1 ++ ":" ++ compact field.2

theorem compact_fields_eq (fields : List (String × Datum)) :
    compactFields fields = fields.map fieldText := by
  induction fields with
  | nil => rfl
  | cons field rest induction =>
      obtain ⟨name, part⟩ := field
      rw [compactFields, induction, List.map_cons, fieldText]

theorem compact_list (items : List Datum) :
    (compact (.list items)).toList = '[' :: (joined (items.map compact) ++ [']']) := by
  rw [compact, compact_items_eq]
  simp [joined]

theorem compact_record (fields : List (String × Datum)) :
    (compact (.record fields)).toList =
      '\x7b' :: (joined (fields.map fieldText) ++ ['\x7d']) := by
  rw [compact, compact_fields_eq]
  simp [joined]

theorem quoted_characters (content : String) :
    (quoted content).toList = '"' :: (content.toList.flatMap escape ++ ['"']) := by
  simp [quoted]

theorem field_characters (field : String × Datum) :
    (fieldText field).toList =
      '"' :: (field.1.toList.flatMap escape ++ '"' :: ':' :: (compact field.2).toList) := by
  simp [fieldText, quoted]

theorem digit_not_blank {character : Char} (digit : Decimal.isDigit character = true) :
    isBlank character = false := by
  rw [← Bool.not_eq_true]
  intro blank
  simp only [isBlank, Bool.or_eq_true, beq_iff_eq] at blank
  obtain ((rfl | rfl) | rfl) | rfl := blank <;> cases digit

theorem scalar_begins (datum : Datum) :
    ∃ first others, (scalar datum).toList = first :: others ∧ isBlank first = false ∧
      first ≠ ']' := by
  unfold scalar
  split
  case h_1 => exact ⟨'t', ['r', 'u', 'e'], rfl, rfl, by decide⟩
  case h_2 => exact ⟨'f', ['a', 'l', 's', 'e'], rfl, rfl, by decide⟩
  case h_3 number =>
    by_cases negative : number < 0
    · exact ⟨'-', _, Decimal.negative_text negative, rfl, by decide⟩
    · obtain ⟨first, others, shape, digit⟩ := Decimal.digits_eq_cons number.natAbs
      refine ⟨first, others, ?_, digit_not_blank digit, by rintro rfl; cases digit⟩
      rw [← shape]
      exact Decimal.natural_text (Int.not_lt.mp negative)
  case h_4 content => exact ⟨'"', _, quoted_characters content, rfl, by decide⟩
  case h_5 => exact ⟨'n', ['u', 'l', 'l'], rfl, rfl, by decide⟩

theorem compact_begins (datum : Datum) :
    ∃ first others, (compact datum).toList = first :: others ∧ isBlank first = false ∧
      first ≠ ']' := by
  cases datum with
  | list items => exact ⟨'[', _, compact_list items, by decide, by decide⟩
  | record fields => exact ⟨'\x7b', _, compact_record fields, by decide, by decide⟩
  | null | flag _ | integer _ | real | text _ | mapping _ | unreadable =>
      simpa only [compact] using scalar_begins _

def Reads (room : Nat) (datum : Datum) : Prop :=
  ∀ fuel rest, (compact datum).toList.length ≤ fuel → EndsNumber rest →
    readValue? fuel room ((compact datum).toList ++ rest) = some (datum, rest)

theorem ends_number_of_mark {mark : Char} (marks : mark ∈ [',', ']', '\x7d']) (rest : List Char) :
    EndsNumber (mark :: rest) := by
  intro character first
  obtain rfl : mark = character := by simpa using first
  revert marks
  simp only [List.mem_cons, List.not_mem_nil, or_false]
  rintro (rfl | rfl | rfl) <;> decide

theorem read_items {room : Nat} {items : List Datum} (reads : ∀ item ∈ items, Reads room item)
    (nonempty : items ≠ []) {fuel : Nat} (enough : (joined (items.map compact)).length < fuel)
    (rest : List Char) :
    readItems? fuel room (joined (items.map compact) ++ ']' :: rest) = some (items, rest) := by
  induction items generalizing fuel with
  | nil => exact absurd rfl nonempty
  | cons item others induction =>
      cases fuel with
      | zero => exact absurd enough (Nat.not_lt_zero _)
      | succ fuel =>
          have here := reads item List.mem_cons_self
          cases others with
          | nil =>
              rw [List.map_singleton, joined_singleton] at enough ⊢
              have value := here fuel (']' :: rest) (Nat.le_of_lt_succ enough)
                (ends_number_of_mark (by decide) rest)
              rw [readItems?, value]
              rfl
          | cons next more =>
              rw [List.map_cons, List.map_cons, joined_cons_cons] at enough ⊢
              rw [List.length_append, List.length_cons] at enough
              have shorter : (joined ((next :: more).map compact)).length < fuel := by
                rw [List.map_cons]
                omega
              have following := induction
                (fun other member => reads other (List.mem_cons_of_mem item member))
                (List.cons_ne_nil next more) shorter
              have value := here fuel (',' :: (joined (compact next :: more.map compact) ++
                ']' :: rest)) (by omega) (ends_number_of_mark (by decide) _)
              rw [List.append_assoc, List.cons_append, readItems?, value]
              rw [List.map_cons] at following
              have comma (after : List Char) : skipBlanks (',' :: after) = ',' :: after := rfl
              simp only [comma, following, Option.map_some]

theorem read_fields {room : Nat} {fields : List (String × Datum)}
    (reads : ∀ field ∈ fields, Reads room field.2) (nonempty : fields ≠ []) {fuel : Nat}
    (enough : (joined (fields.map fieldText)).length < fuel) (rest : List Char) :
    readFields? fuel room (joined (fields.map fieldText) ++ '\x7d' :: rest) =
      some (fields.map fun field => (some field.1.toList, field.2), rest) := by
  induction fields generalizing fuel with
  | nil => exact absurd rfl nonempty
  | cons field others induction =>
      cases fuel with
      | zero => exact absurd enough (Nat.not_lt_zero _)
      | succ fuel =>
          have here := reads field List.mem_cons_self
          have quote (after : List Char) : skipBlanks ('"' :: after) = '"' :: after := rfl
          have colon (after : List Char) : skipBlanks (':' :: after) = ':' :: after := rfl
          cases others with
          | nil =>
              rw [List.map_singleton, joined_singleton, field_characters] at enough ⊢
              simp only [List.length_cons, List.length_append] at enough
              have value := here fuel ('\x7d' :: rest) (by omega)
                (ends_number_of_mark (by decide) rest)
              simp only [List.cons_append, List.append_assoc, readFields?, quote, read_quoted,
                colon, value]
              rfl
          | cons next more =>
              rw [List.map_cons, List.map_cons, joined_cons_cons, field_characters] at enough ⊢
              simp only [List.length_cons, List.length_append] at enough
              have shorter : (joined ((next :: more).map fieldText)).length < fuel := by
                rw [List.map_cons]
                omega
              have following := induction
                (fun other member => reads other (List.mem_cons_of_mem field member))
                (List.cons_ne_nil next more) shorter
              have value := here fuel (',' :: (joined (fieldText next :: more.map fieldText) ++
                '\x7d' :: rest)) (by omega) (ends_number_of_mark (by decide) _)
              have comma (after : List Char) : skipBlanks (',' :: after) = ',' :: after := rfl
              rw [List.map_cons] at following
              simp only [List.cons_append, List.append_assoc, readFields?, quote, read_quoted,
                colon, value, comma, following, Option.map_some, List.map_cons]

theorem gather_named (fields : List (String × Datum)) :
    gatherFields (fields.map fun field => (some field.1.toList, field.2)) = .record fields := by
  have named : (fields.map fun field => ((some field.1.toList : Content), field.2)).mapM
      (fun part => part.1.map fun characters => (String.ofList characters, part.2)) =
        some fields := by
    induction fields with
    | nil => rfl
    | cons field rest induction =>
        rw [List.map_cons, List.mapM_cons, induction]
        simp
  simp only [gatherFields, named]

theorem joined_begins (item : Datum) (others : List Datum) :
    ∃ first behind, joined ((item :: others).map compact) = first :: behind ∧
      isBlank first = false ∧ first ≠ ']' := by
  obtain ⟨first, behind, begins, solid, inside⟩ := compact_begins item
  cases others with
  | nil => exact ⟨first, behind, (joined_singleton _).trans begins, solid, inside⟩
  | cons next more =>
      refine ⟨first, behind ++ ',' :: joined ((next :: more).map compact), ?_, solid, inside⟩
      rw [List.map_cons, List.map_cons, joined_cons_cons, begins, List.cons_append]

theorem joined_fields_begins (field : String × Datum) (others : List (String × Datum)) :
    ∃ behind, joined ((field :: others).map fieldText) = '"' :: behind := by
  cases others with
  | nil => exact ⟨_, (joined_singleton _).trans (field_characters field)⟩
  | cons next more =>
      refine ⟨field.1.toList.flatMap escape ++ '"' :: ':' :: (compact field.2).toList ++
        ',' :: joined ((next :: more).map fieldText), ?_⟩
      rw [List.map_cons, List.map_cons, joined_cons_cons, field_characters]
      rfl

theorem fuel_left {datum : Datum} {fuel : Nat} (enough : (compact datum).toList.length ≤ fuel) :
    ∃ left, fuel = left + 1 := by
  obtain ⟨first, others, shape, -⟩ := compact_begins datum
  rw [shape, List.length_cons] at enough
  exact ⟨fuel - 1, by omega⟩

theorem reads_integer (room : Nat) {number : Int} (inRange : InRange number) :
    Reads room (.integer number) := by
  intro fuel rest enough ends
  obtain ⟨fuel, rfl⟩ := fuel_left enough
  have value := read_integer inRange ends
  have written : (compact (.integer number)).toList = (toString number).toList := rfl
  obtain ⟨first, others, shape, begins⟩ : ∃ first others, (toString number).toList =
      first :: others ∧ (first = '-' ∨ Decimal.isDigit first = true) := by
    by_cases negative : number < 0
    · exact ⟨'-', _, Decimal.negative_text negative, Or.inl rfl⟩
    · obtain ⟨first, others, shape, digit⟩ := Decimal.digits_eq_cons number.natAbs
      exact ⟨first, others, shape ▸ Decimal.natural_text (Int.not_lt.mp negative), Or.inr digit⟩
  rw [shape, List.cons_append] at value
  rw [written, shape, List.cons_append]
  have solid : skipBlanks (first :: (others ++ rest)) = first :: (others ++ rest) := by
    obtain rfl | digit := begins
    · rfl
    · simp [skipBlanks, digit_not_blank digit]
  rw [readValue?, solid]
  -- Of the branches only that of the numbers is left.
  split
  case h_7 => exact value
  all_goals
    next same =>
      obtain rfl := (List.cons.inj same).1
      obtain minus | digit := begins
      · cases minus
      · cases digit

theorem reads_text (room : Nat) (content : String) : Reads room (.text content) := by
  intro fuel rest enough _
  obtain ⟨fuel, rfl⟩ := fuel_left enough
  have written : (compact (.text content)).toList =
      '"' :: (content.toList.flatMap escape ++ ['"']) := quoted_characters content
  have quote (after : List Char) : skipBlanks ('"' :: after) = '"' :: after := rfl
  simp [written, readValue?, quote, read_quoted, Content.toDatum]

theorem reads_list {room : Nat} {items : List Datum} (reads : ∀ item ∈ items, Reads room item) :
    Reads (room + 1) (.list items) := by
  intro fuel rest enough _
  obtain ⟨fuel, rfl⟩ := fuel_left enough
  have bracket (after : List Char) : skipBlanks ('[' :: after) = '[' :: after := rfl
  cases items with
  | nil => rfl
  | cons item others =>
      rw [compact_list] at enough ⊢
      simp only [List.length_cons, List.length_append, List.length_nil] at enough
      have shorter : (joined ((item :: others).map compact)).length < fuel := by omega
      have read := read_items reads (List.cons_ne_nil item others) shorter rest
      obtain ⟨first, behind, begins, solid, inside⟩ := joined_begins item others
      have unblanked : skipBlanks (joined ((item :: others).map compact) ++ ']' :: rest) =
          first :: (behind ++ ']' :: rest) := by
        rw [begins, List.cons_append, skipBlanks, List.dropWhile_cons, solid]
        rfl
      simp only [List.cons_append, List.append_assoc, List.nil_append, readValue?, bracket,
        unblanked, Nat.add_sub_cancel, read, Option.map_some]
      split
      · next same => exact absurd (List.cons.inj same).1 inside
      · rfl

theorem reads_record {room : Nat} {fields : List (String × Datum)}
    (reads : ∀ field ∈ fields, Reads room field.2) : Reads (room + 1) (.record fields) := by
  intro fuel rest enough _
  obtain ⟨fuel, rfl⟩ := fuel_left enough
  have brace (after : List Char) : skipBlanks ('\x7b' :: after) = '\x7b' :: after := rfl
  cases fields with
  | nil => rfl
  | cons field others =>
      rw [compact_record] at enough ⊢
      simp only [List.length_cons, List.length_append, List.length_nil] at enough
      have shorter : (joined ((field :: others).map fieldText)).length < fuel := by omega
      have read := read_fields reads (List.cons_ne_nil field others) shorter rest
      obtain ⟨behind, begins⟩ := joined_fields_begins field others
      have unblanked : skipBlanks (joined ((field :: others).map fieldText) ++ '\x7d' :: rest) =
          '"' :: (behind ++ '\x7d' :: rest) := by
        rw [begins]
        rfl
      simp only [List.cons_append, List.append_assoc, List.nil_append, readValue?, brace,
        unblanked, Nat.add_sub_cancel, read, Option.map_some, gather_named]
      rfl

theorem Fits.reads {room : Nat} {datum : Datum} (fits : Fits room datum) : Reads room datum := by
  induction fits with
  | null room =>
      intro fuel rest enough _
      obtain ⟨fuel, rfl⟩ := fuel_left enough
      rfl
  | flag room holds =>
      intro fuel rest enough _
      obtain ⟨fuel, rfl⟩ := fuel_left enough
      cases holds with
      | true => rfl
      | false => rfl
  | integer inRange => exact reads_integer _ inRange
  | text room content => exact reads_text room content
  | list _ reads => exact reads_list reads
  | record _ reads => exact reads_record reads

theorem parse_compact {datum : Datum} (fits : Fits depthLimit datum) :
    parse? (compact datum) = some datum := by
  have nothing : EndsNumber [] := fun _ first => nomatch first
  have read := fits.reads ((compact datum).toList.length + 1) [] (Nat.le_succ _) nothing
  rw [List.append_nil] at read
  rw [parse?, read]
  rfl

end StateMachine.Json
