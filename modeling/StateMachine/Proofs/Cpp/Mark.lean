import StateMachine.Proofs.Cpp.Table
import StateMachine.Proofs.Expr.Spacing

/-!
The lines of a program that name a state or an event, told by how they begin and end. A line is of
one kind at most, and texts that are put together from names are of a kind only if their fixed parts
are.
-/

set_option autoImplicit false

namespace StateMachine

open Text

theorem Identifier.begins {name : String} (named : Identifier name) :
    ∃ first rest, name.toList = first :: rest ∧ Token.continuesWord first = true := by
  cases characters : name.toList with
  | nil => exact absurd (String.toList_eq_nil_iff.mp characters) named.nonempty
  | cons first rest =>
      exact ⟨first, rest, rfl, named.word first (by rw [characters]; exact List.mem_cons_self)⟩

/-- A text that begins with a name keeps its beginning when it is trimmed. -/
theorem Identifier.solid {name : String} (named : Identifier name) (rest : List Char) :
    ∀ first ∈ (name.toList ++ rest).head?, isWhite first = false := by
  obtain ⟨initial, letters, characters, letter⟩ := named.begins
  rw [characters]
  rintro first ⟨⟩
  exact not_white (Or.inl letter)

namespace Cpp

/-- The kinds of lines that name a state or an event. -/
inductive Mark where
  /-- The class of a state begins. -/
  | heading
  /-- The class of a state declares a handler. -/
  | override
  /-- A method of the context class or a handler of a state begins. -/
  | method
  /-- A handler of the common parent begins. -/
  | base
  /-- A handler moves on to a state. -/
  | move
  /-- The machine is made with its first state. -/
  | launch
  /-- The name of an event is entered for the input loop. -/
  | entry
deriving DecidableEq, Repr

namespace Mark

def all : List Mark := [.heading, .override, .method, .base, .move, .launch, .entry]

def word : Mark → Option String
  | .heading => some "class"
  | .override | .method => some "void"
  | .base => some "virtual"
  | .move => some "statemachine"
  | .launch => none
  | .entry => some "event_by_name"

def opening : Mark → String
  | .heading | .override | .method => " "
  | .base => " void "
  | .move => "->transition_to(new "
  | .launch => " *statemachine = new "
  | .entry => "[\""

def closing : Mark → String
  | .heading => " : public State \x7b"
  | .override => "() override;"
  | .method | .base => "() \x7b"
  | .move | .launch => ");"
  | .entry => ""

def read? (mark : Mark) (line : List Char) : Option (List Char) :=
  if mark.word.all (·.toList == line.takeWhile Token.continuesWord) then
    between? mark.opening mark.closing (line.dropWhile Token.continuesWord)
  else none

end Mark

structure Headed (word rest : List Char) : Prop where
  plain : ∀ character ∈ word, Token.continuesWord character = true
  stops : (rest.head?.all fun first => !Token.continuesWord first) = true

theorem Headed.take {word rest : List Char} (headed : Headed word rest) :
    (word ++ rest).takeWhile Token.continuesWord = word := by
  rw [List.takeWhile_append_of_pos headed.plain]
  cases rest with
  | nil => simp
  | cons first others => simpa using headed.stops

theorem Headed.drop {word rest : List Char} (headed : Headed word rest) :
    (word ++ rest).dropWhile Token.continuesWord = rest := by
  rw [List.dropWhile_append_of_pos headed.plain]
  cases rest with
  | nil => rfl
  | cons first others =>
      have stops : Token.continuesWord first = false := by simpa using headed.stops
      rw [List.dropWhile_cons_of_neg (by simp [stops])]

theorem headed_split (line : List Char) :
    Headed (line.takeWhile Token.continuesWord) (line.dropWhile Token.continuesWord) := by
  refine ⟨fun character member => List.mem_takeWhile_imp member, ?_⟩
  have refused := List.head?_dropWhile_not Token.continuesWord line
  cases next : (line.dropWhile Token.continuesWord).head? with
  | none => rfl
  | some first =>
      rw [next] at refused
      simpa using refused

theorem Headed.unique {word rest other tail : List Char} (first : Headed word rest)
    (second : Headed other tail) (same : word ++ rest = other ++ tail) :
    word = other ∧ rest = tail := by
  constructor
  · rw [← first.take, same, second.take]
  · rw [← first.drop, same, second.drop]

theorem Headed.append {word before : List Char} (headed : Headed word before)
    (nonempty : before ≠ []) (rest : List Char) : Headed word (before ++ rest) := by
  refine ⟨headed.plain, ?_⟩
  cases before with
  | nil => exact absurd rfl nonempty
  | cons first others => exact headed.stops

/-- A mark is read from the lines that are made from its parts, and from no others. -/
theorem Mark.read_eq_some_iff {mark : Mark} {line middle : List Char} :
    mark.read? line = some middle ↔
      ∃ word, Headed word (mark.opening.toList ++ middle ++ mark.closing.toList) ∧
        (∀ own ∈ mark.word, own.toList = word) ∧
        line = word ++ (mark.opening.toList ++ middle ++ mark.closing.toList) := by
  have words (word : List Char) : mark.word.all (·.toList == word) = true ↔
      ∀ own ∈ mark.word, own.toList = word := by
    cases mark.word <;> simp
  constructor
  · intro found
    rw [Mark.read?] at found
    split at found
    · next same =>
        have parts := between_eq_some_iff.mp found
        refine ⟨line.takeWhile Token.continuesWord, ?_, (words _).mp same, ?_⟩
        · rw [← parts]
          exact headed_split line
        · rw [← parts, List.takeWhile_append_dropWhile]
    · cases found
  · rintro ⟨word, headed, same, rfl⟩
    rw [Mark.read?, headed.take, headed.drop, if_pos ((words word).mpr same)]
    exact between_eq_some_iff.mpr rfl

def clash (first second : List Char) : Bool :=
  !(first.isPrefixOf second || second.isPrefixOf first)

theorem clash_apart {first second whole : List Char} (apart : clash first second = true)
    (begins : first <+: whole) (other : second <+: whole) : False := by
  rw [clash, Bool.not_eq_true', Bool.or_eq_false_iff] at apart
  obtain shorter | longer := List.prefix_or_prefix_of_prefix begins other
  · rw [List.isPrefixOf_iff_prefix.mpr shorter] at apart
    cases apart.1
  · rw [List.isPrefixOf_iff_prefix.mpr longer] at apart
    cases apart.2

structure Outline where
  word : Option (List Char)
  before : List Char
  after : List Char

structure Outline.Fits (outline : Outline) (line : List Char) : Prop where
  begins : ∃ word rest, Headed word (outline.before ++ rest) ∧
    (∀ known ∈ outline.word, known = word) ∧
    line <+: word ++ (outline.before ++ rest)
  ends : outline.after <:+ line

def Mark.excludes (mark : Mark) (outline : Outline) : Bool :=
  (match outline.word, mark.word with
    | some known, some own => known != own.toList
    | _, _ => false) ||
  clash outline.before mark.opening.toList ||
  clash outline.after.reverse mark.closing.toList.reverse

theorem Mark.read_of_excluded {mark : Mark} {outline : Outline} {line : List Char}
    (fits : outline.Fits line) (excluded : mark.excludes outline = true) :
    mark.read? line = none := by
  rw [Option.eq_none_iff_forall_ne_some]
  intro middle found
  obtain ⟨own, ownHeaded, same, parts⟩ := Mark.read_eq_some_iff.mp found
  obtain ⟨word, rest, headed, known, more, whole⟩ := fits.begins
  have nonempty : mark.opening.toList ++ middle ++ mark.closing.toList ≠ [] := by
    cases mark <;> simp [opening]
  -- The line may be shorter than what it was trimmed from, but not within its first word.
  rw [parts, List.append_assoc] at whole
  obtain ⟨sameWord, sameRest⟩ := (ownHeaded.append nonempty more).unique headed whole
  simp only [excludes, Bool.or_eq_true] at excluded
  obtain (otherWord | before) | after := excluded
  · split at otherWord
    · next first second isFirst isSecond =>
        have equal : first = second.toList :=
          (known first isFirst).trans (sameWord.symm.trans (same second isSecond).symm)
        simp [equal] at otherWord
    · cases otherWord
  · refine clash_apart before (List.prefix_append outline.before rest) ?_
    rw [← sameRest, List.append_assoc, List.append_assoc]
    exact List.prefix_append _ _
  · refine clash_apart after (List.reverse_prefix.mpr fits.ends) (List.reverse_prefix.mpr ?_)
    rw [parts, ← List.append_assoc]
    exact List.suffix_append _ _

theorem Mark.read_of_lacks {mark : Mark} {line : List Char} {character : Char}
    (absent : character ∉ line)
    (needed : character ∈ mark.opening.toList ++ mark.closing.toList) : mark.read? line = none := by
  rw [Option.eq_none_iff_forall_ne_some]
  intro middle found
  obtain ⟨word, _, _, rfl⟩ := Mark.read_eq_some_iff.mp found
  obtain opens | closes := List.mem_append.mp needed
  · exact absent (by simp [opens])
  · exact absent (by simp [closes])

def marksOf (line : List Char) : List (Mark × List Char) :=
  Mark.all.filterMap fun mark => (mark.read? line).map (mark, ·)

theorem Mark.mem_all (mark : Mark) : mark ∈ Mark.all := by
  cases mark <;> decide

theorem marks_of_unread {line : List Char} (unread : ∀ mark ∈ Mark.all, mark.read? line = none) :
    marksOf line = [] := by
  rw [marksOf, List.filterMap_eq_nil_iff]
  intro mark member
  rw [unread mark member, Option.map_none]

def Sturdy (opening closing : List Char) : Prop :=
  (opening.head?.all fun first => !isWhite first) = true ∧
    opening.dropWhile Token.continuesWord ≠ [] ∧
    (closing.getLast?.all fun last => !isWhite last) = true

instance (opening closing : List Char) : Decidable (Sturdy opening closing) :=
  inferInstanceAs (Decidable (_ ∧ _ ∧ _))

def Outline.ofParts (opening closing : List Char) : Outline where
  word := some (opening.takeWhile Token.continuesWord)
  before := opening.dropWhile Token.continuesWord
  after := closing

theorem trim_ends {text closing : List Char} (solid : ∀ first ∈ text.head?, isWhite first = false)
    (ends : closing <:+ text) (last : (closing.getLast?.all fun last => !isWhite last) = true) :
    closing <:+ trim text := by
  cases closing using List.reverseRecOn with
  | nil => exact List.nil_suffix
  | append_singleton others final _ =>
      obtain ⟨before, rfl⟩ := ends
      have back : skipWhite (before ++ (others ++ [final])).reverse =
          (before ++ (others ++ [final])).reverse := by
        apply skip_white_of_head
        intro first found
        have same : final = first := by simpa using found
        simpa [← same] using last
      rw [trim, skip_white_of_head solid, back, List.reverse_reverse]
      exact List.suffix_append _ _

/-- What is between the fixed parts does not matter, and neither does white space around them. -/
theorem Outline.parts_fit {opening closing line : List Char} (sturdy : Sturdy opening closing)
    (begins : opening <+: line) (ends : closing <:+ line) :
    (Outline.ofParts opening closing).Fits (trim line) := by
  obtain ⟨first, more, last⟩ := sturdy
  obtain ⟨rest, rfl⟩ := begins
  have solid : ∀ first ∈ (opening ++ rest).head?, isWhite first = false := by
    cases opening with
    | nil => exact absurd rfl more
    | cons initial others =>
        rintro character ⟨⟩
        simpa using first
  have whole : opening ++ rest = opening.takeWhile Token.continuesWord ++
      ((Outline.ofParts opening closing).before ++ rest) := by
    rw [ofParts, ← List.append_assoc, List.takeWhile_append_dropWhile]
  refine ⟨⟨_, rest, (headed_split opening).append more rest, ?_, ?_⟩, trim_ends solid ends last⟩
  · rintro known ⟨⟩
    rfl
  · rw [← whole]
    exact trim_begins solid

/-- A text that begins with a name, so that its first word is not known. -/
theorem Outline.named_fits {name : String} (named : Identifier name)
    {opening closing rest : List Char}
    (fixed : (opening.head?.all fun first => !Token.continuesWord first) = true ∧ opening ≠ [] ∧
      (closing.getLast?.all fun last => !isWhite last) = true)
    (begins : opening <+: rest) (ends : closing <:+ rest) :
    (⟨none, opening, closing⟩ : Outline).Fits (trim (name.toList ++ rest)) := by
  obtain ⟨stops, more, last⟩ := fixed
  obtain ⟨others, rfl⟩ := begins
  have solid := named.solid (opening ++ others)
  have headed : Headed name.toList opening := ⟨named.word, stops⟩
  refine ⟨⟨name.toList, others, headed.append more others, ?_, trim_begins solid⟩, ?_⟩
  · rintro known ⟨⟩
  · exact trim_ends solid (ends.trans (List.suffix_append _ _)) last

def marksIn (text : String) : List (Mark × List Char) := marksOf (trim text.toList)

def Unmarked (opening closing : List Char) : Prop :=
  Sturdy opening closing ∧ ∀ mark ∈ Mark.all, mark.excludes (Outline.ofParts opening closing) = true

instance (opening closing : List Char) : Decidable (Unmarked opening closing) :=
  inferInstanceAs (Decidable (_ ∧ _))

theorem marks_in_parts {opening closing : List Char} (fixed : Unmarked opening closing)
    (middle : String) :
    marksIn (String.ofList opening ++ (middle ++ String.ofList closing)) = [] := by
  have fits : (Outline.ofParts opening closing).Fits
      (trim (String.ofList opening ++ (middle ++ String.ofList closing)).toList) := by
    apply Outline.parts_fit fixed.1
    · exact ⟨middle.toList ++ closing, by simp⟩
    · exact ⟨opening ++ middle.toList, by simp⟩
  exact marks_of_unread fun mark member => Mark.read_of_excluded fits (fixed.2 mark member)

theorem marks_in_begun {opening : List Char} (fixed : Unmarked opening []) (rest : String) :
    marksIn (String.ofList opening ++ rest) = [] := by
  have marks := marks_in_parts fixed rest
  rwa [String.ofList_nil, String.append_empty] at marks

theorem marks_in_whole {characters : List Char} (fixed : Unmarked characters characters) :
    marksIn (String.ofList characters) = [] := by
  have fits : (Outline.ofParts characters characters).Fits
      (trim (String.ofList characters).toList) := by
    rw [String.toList_ofList]
    exact Outline.parts_fit fixed.1 (List.prefix_refl _) (List.suffix_refl _)
  exact marks_of_unread fun mark member => Mark.read_of_excluded fits (fixed.2 mark member)

/-- A text that begins with a name and goes on with fixed characters. -/
theorem marks_in_named {name : String} (named : Identifier name) {characters : List Char}
    (fixed : ((characters.head?.all fun first => !Token.continuesWord first) = true ∧
      characters ≠ [] ∧ (characters.getLast?.all fun last => !isWhite last) = true) ∧
      ∀ mark ∈ Mark.all, mark.excludes ⟨none, characters, characters⟩ = true) :
    marksIn (name ++ String.ofList characters) = [] := by
  have fits : (⟨none, characters, characters⟩ : Outline).Fits
      (trim (name ++ String.ofList characters).toList) := by
    rw [String.toList_append, String.toList_ofList]
    exact Outline.named_fits named fixed.1 (List.prefix_refl _) (List.suffix_refl _)
  exact marks_of_unread fun mark member => Mark.read_of_excluded fits (fixed.2 mark member)

/-- A word and a name after a blank begin no line that a mark with another word is read from. -/
theorem Mark.read_of_words {mark : Mark} {word name : String} (plain : Identifier word)
    (named : Identifier name) (rest : String)
    (other : (mark.word.all fun own => own.toList != word.toList) = true) :
    mark.read? (trim (word ++ (" " ++ (name ++ rest))).toList) = none := by
  have characters : (word ++ (" " ++ (name ++ rest))).toList =
      word.toList ++ (' ' :: name.toList ++ rest.toList) := by simp
  have headed : Headed word.toList (' ' :: name.toList) := ⟨plain.word, rfl⟩
  have fits : (⟨some word.toList, ' ' :: name.toList, []⟩ : Outline).Fits
      (trim (word ++ (" " ++ (name ++ rest))).toList) := by
    rw [characters]
    exact ⟨⟨word.toList, rest.toList, headed.append (by simp) _, by simp,
      trim_begins (plain.solid _)⟩, List.nil_suffix⟩
  apply Mark.read_of_excluded fits
  cases mark
  case launch =>
    -- Where the line of a launch has a star, there is a name here.
    obtain ⟨initial, letters, characters, letter⟩ := named.begins
    have star : initial ≠ '*' := by
      rintro rfl
      exact absurd letter (by decide)
    have apart : clash (' ' :: name.toList) Mark.launch.opening.toList = true := by
      simp [characters, opening, clash, List.isPrefixOf, star, star.symm]
    rw [excludes, Bool.or_eq_true, Bool.or_eq_true]
    exact Or.inl (Or.inr apart)
  all_goals
    simp only [Mark.word, Option.all_some] at other
    simp only [excludes, Mark.word, Bool.or_eq_true]
    refine Or.inl (Or.inl ?_)
    rw [bne_iff_ne] at other ⊢
    exact other.symm

def Mark.outline (mark : Mark) : Outline where
  word := mark.word.map String.toList
  before := mark.opening.toList
  after := mark.closing.toList

theorem Mark.outline_fits {mark : Mark} {line middle : List Char}
    (found : mark.read? line = some middle) : mark.outline.Fits line := by
  obtain ⟨word, headed, same, parts⟩ := Mark.read_eq_some_iff.mp found
  rw [List.append_assoc] at headed parts
  refine ⟨⟨word, middle ++ mark.closing.toList, headed, ?_, ?_⟩, ?_⟩
  · intro known member
    obtain ⟨own, isOwn, rfl⟩ := Option.map_eq_some_iff.mp member
    exact same own isOwn
  · rw [parts]
    exact List.prefix_refl _
  · rw [parts, ← List.append_assoc, ← List.append_assoc]
    exact List.suffix_append _ _

theorem Mark.exclusive (kept : Mark) :
    ∀ mark ∈ Mark.all, mark = kept ∨ mark.excludes kept.outline = true := by
  cases kept <;> decide

/-- A line of one kind is of no other. -/
theorem marks_of_read {line middle : List Char} {kept : Mark}
    (found : kept.read? line = some middle) :
    marksOf line = [(kept, middle)] := by
  have unread (mark : Mark) : (mark.read? line).map (mark, ·) =
      if mark = kept then some (kept, middle) else none := by
    by_cases same : mark = kept
    · rw [if_pos same, same, found, Option.map_some]
    · have excluded := (kept.exclusive mark mark.mem_all).resolve_left same
      rw [if_neg same, Mark.read_of_excluded (Mark.outline_fits found) excluded, Option.map_none]
  simp only [marksOf, unread]
  cases kept <;> rfl

/-- A text that is put together as its kind asks for. -/
theorem marks_of_kind (kept : Mark) {word : String} (named : Identifier word)
    (own : ∀ fixed ∈ kept.word, fixed = word) (middle : String) {last : Char}
    (ends : Ends last (middle ++ kept.closing)) (solid : isWhite last = false) :
    marksIn (word ++ kept.opening ++ middle ++ kept.closing) = [(kept, middle.toList)] := by
  have headed :
      Headed word.toList (kept.opening.toList ++ middle.toList ++ kept.closing.toList) := by
    have opening : Headed word.toList kept.opening.toList := by
      refine ⟨named.word, ?_⟩
      cases kept <;> decide
    rw [List.append_assoc]
    exact opening.append (by cases kept <;> decide) _
  have trimmed : trim (word ++ kept.opening ++ middle ++ kept.closing).toList =
      (word ++ kept.opening ++ middle ++ kept.closing).toList := by
    obtain ⟨first, letters, characters, letter⟩ := named.begins
    have begins : Begins first word := by rw [Begins, characters]; rfl
    have closes : Ends last (word ++ kept.opening ++ middle ++ kept.closing) := by
      rw [String.append_assoc]
      exact ends.prepend _
    exact trim_closed (((begins.append _).append _).append _) closes
      ⟨not_white (Or.inl letter), solid⟩
  apply marks_of_read
  rw [trimmed, Mark.read_eq_some_iff]
  exact ⟨word.toList, headed, fun fixed member => congrArg String.toList (own fixed member),
    by simp⟩

theorem marks_between (kept : Mark) (fixed : kept ≠ .launch ∧ kept ≠ .entry) (middle : String) :
    marksIn (kept.word.getD "" ++ kept.opening ++ (middle ++ kept.closing)) =
      [(kept, middle.toList)] := by
  have word : Identifier (kept.word.getD "") ∧ ∀ own ∈ kept.word, own = kept.word.getD "" := by
    cases kept
    case launch => exact absurd rfl fixed.1
    all_goals exact ⟨by decide, by simp [Mark.word]⟩
  have ends : ∃ last, Ends last kept.closing ∧ isWhite last = false := by
    cases kept
    case entry => exact absurd rfl fixed.2
    all_goals exact ⟨_, ends_literal rfl, by decide⟩
  obtain ⟨last, ends, solid⟩ := ends
  rw [← String.append_assoc]
  exact marks_of_kind kept word.1 word.2 middle (ends.prepend middle) solid

/-- What a mark reads from the lines is what the marks together read there of its kind. -/
theorem read_lines (mark : Mark) (lines : List (List Char)) :
    lines.filterMap mark.read? =
      (lines.flatMap marksOf).filterMap
        fun found => if found.1 = mark then some found.2 else none := by
  induction lines with
  | nil => rfl
  | cons line rest induction =>
      have here : (marksOf line).filterMap
          (fun found => if found.1 = mark then some found.2 else none) =
        (mark.read? line).toList := by
        cases found : mark.read? line with
        | some middle =>
            rw [marks_of_read found]
            simp
        | none =>
            rw [List.filterMap_eq_nil_iff.mpr]
            · rfl
            · rintro ⟨kept, middle⟩ member
              obtain ⟨other, _, read⟩ := List.mem_filterMap.mp member
              obtain ⟨text, found', same⟩ := Option.map_eq_some_iff.mp read
              obtain ⟨rfl, rfl⟩ := Prod.mk.inj same
              have apart : other ≠ mark := by
                rintro rfl
                cases found.symm.trans found'
              exact if_neg apart
      rw [List.flatMap_cons, List.filterMap_append, here, ← induction, List.filterMap_cons]
      cases mark.read? line <;> rfl

theorem Mark.read_eq_line {mark : Mark} {word : String} (own : mark.word = some word)
    {line middle : List Char} :
    mark.read? line = some middle ↔
      line = word.toList ++ (mark.opening.toList ++ middle ++ mark.closing.toList) := by
  have headed : Headed word.toList mark.opening.toList := by
    cases mark
    case launch => cases own
    all_goals
      obtain rfl := Option.some.inj own
      exact ⟨(by decide : Identifier _).word, by decide⟩
  rw [Mark.read_eq_some_iff]
  constructor
  · rintro ⟨first, _, same, rfl⟩
    rw [same word own]
  · rintro rfl
    refine ⟨word.toList, ?_, ?_, rfl⟩
    · rw [List.append_assoc]
      exact headed.append (by cases mark <;> decide) _
    · intro fixed isFixed
      rw [own] at isFixed
      rw [Option.mem_some.mp isFixed]

theorem count_of_kind (mark : Mark) (fixed : mark ≠ .launch) (middle : String)
    (lines : List (List Char)) :
    lines.count (mark.word.getD "" ++ mark.opening ++ (middle ++ mark.closing)).toList =
      (lines.filterMap mark.read?).count middle.toList := by
  have own : mark.word = some (mark.word.getD "") := by
    cases mark
    case launch => exact absurd rfl fixed
    all_goals rfl
  rw [List.count_filterMap, List.count_eq_countP]
  apply List.countP_congr
  intro line _
  simp only [beq_iff_eq]
  rw [Mark.read_eq_line own]
  simp only [String.toList_append, List.append_assoc]

theorem read_of_count {mark : Mark} (fixed : mark ≠ .launch) {middle : String}
    {lines : List (List Char)}
    (member : (mark.word.getD "" ++ mark.opening ++ (middle ++ mark.closing)).toList ∈ lines) :
    middle.toList ∈ lines.filterMap mark.read? := by
  rw [← List.count_pos_iff, ← count_of_kind mark fixed, List.count_pos_iff]
  exact member

/-- The mark of methods reads what stands in the first line of any method. -/
theorem method_read (line : List Char) :
    Mark.method.read? line = between? "void " "() \x7b" line := by
  ext middle
  rw [Mark.read_eq_line rfl, between_eq_some_iff]
  rfl

theorem override_read (line : List Char) :
    Mark.override.read? line = between? "void " "() override;" line := by
  ext middle
  rw [Mark.read_eq_line rfl, between_eq_some_iff]
  rfl

end Cpp

end StateMachine
