import StateMachine.Proofs.Command.Request
import StateMachine.Proofs.Session.Journal
import StateMachine.Proofs.Session.Safety
import StateMachine.Proofs.Text.Line

/-!
The console against its session. Restarts cut the lines into rounds; after each line the session is
as if it had just been opened and started and had then been given the events of the last round, and
what it has emitted is what the rounds emit one after another. All other lines only ask.
-/

set_option autoImplicit false

namespace StateMachine.Console

/-! Rounds of lines. -/

/-- The events of the lines since the last restart. -/
def sinceReset (lines : List String) : List String :=
  (lines.rtakeWhile fun line => !resets line).filterMap eventOf?

/-- The events of all lines, in one list for the beginning and one for each restart. -/
def rounds (lines : List String) : List (List String) :=
  (Text.splitAt resets lines).map (List.filterMap eventOf?)

/-- What a session does that is started and then given the events since the last restart. -/
def rerun (runner : Runner) (opened : Session) (lines : List String) : Run (List Outcome) :=
  runner.inSequence opened (sinceReset lines)

/-- What sessions emit that are started and given the events of a round, one after another. -/
def journal (runner : Runner) (opened : Session) (lines : List String) : List Emission :=
  (rounds lines).flatMap fun events => (runner.inSequence opened events).emitted

/-- The console reads on behind these lines: the last has not ended it, and has not failed. -/
def ReadsOn (runner : Runner) (opened : Session) (lines : List String) : Prop :=
  (∀ line, lines.getLast? = some line → quits line = false) ∧
    ∃ outcomes, (rerun runner opened lines).result = .ok outcomes

theorem since_reset_of_reset {line : String} (reset : resets line = true) (past : List String) :
    sinceReset (past ++ [line]) = [] := by
  simp [sinceReset, reset]

theorem since_reset_of_other {line : String} (other : resets line = false) (past : List String) :
    sinceReset (past ++ [line]) = sinceReset past ++ (eventOf? line).toList := by
  rw [sinceReset, List.rtakeWhile_concat, other]
  cases named : eventOf? line <;> simp [sinceReset, named]

variable {runner : Runner} {opened : Session}

theorem rerun_of_other {line : String} (other : resets line = false)
    (eventless : eventOf? line = none) (past : List String) :
    rerun runner opened (past ++ [line]) = rerun runner opened past := by
  rw [rerun, since_reset_of_other other, eventless, Option.toList_none, List.append_nil, rerun]

theorem rounds_concat (past : List String) (line : String) :
    ∃ earlier, rounds past = earlier ++ [sinceReset past] ∧
      rounds (past ++ [line]) =
        if resets line then rounds past ++ [[]] else earlier ++ [sinceReset (past ++ [line])] := by
  obtain ⟨earlier, piece, before, after⟩ := Text.split_at_concat resets past line
  have last : piece = past.rtakeWhile fun line => !resets line := by
    have ends := Text.split_at_getLast resets past
    rw [before, List.getLast?_concat] at ends
    exact Option.some.inj ends
  refine ⟨earlier.map (List.filterMap eventOf?), ?_, ?_⟩
  · simp [rounds, before, sinceReset, last]
  · cases reset : resets line with
    | true => simp [rounds, before, after, reset]
    | false => simp [rounds, after, sinceReset, last, reset]

theorem journal_of_reset {line : String} (reset : resets line = true) (past : List String) :
    journal runner opened (past ++ [line]) =
      journal runner opened past ++ (rerun runner opened (past ++ [line])).emitted := by
  obtain ⟨earlier, _, after⟩ := rounds_concat past line
  rw [journal, after, if_pos reset, rerun, since_reset_of_reset reset, List.flatMap_append,
    List.flatMap_singleton, journal]

theorem journal_of_other {line : String} {emitted : List Emission} {past : List String}
    (other : resets line = false)
    (adds : (rerun runner opened (past ++ [line])).emitted =
      (rerun runner opened past).emitted ++ emitted) :
    journal runner opened (past ++ [line]) = journal runner opened past ++ emitted := by
  obtain ⟨earlier, before, after⟩ := rounds_concat past line
  rw [other, if_neg Bool.false_ne_true] at after
  rw [rerun, rerun] at adds
  simp only [journal, before, after, List.flatMap_append, List.flatMap_singleton, adds,
    List.append_assoc]

/-! One line. -/

/-- The session is where it would be had it been opened, started and given the events since the last
restart, and nothing has failed. -/
structure Stands (runner : Runner) (opened : Session) (past : List String) (session : Session) :
    Prop where
  session_eq : session = (rerun runner opened past).session
  succeeds : ∃ outcomes, (rerun runner opened past).result = .ok outcomes

/-- The turn does for a line what `rerun` and `journal` gain by it, and the console goes on after the
turn as `ReadsOn` has it. -/
structure Retells (runner : Runner) (opened : Session) (past : List String) (line : String)
    (turn : Turn) : Prop where
  session_eq : turn.session = (rerun runner opened (past ++ [line])).session
  journal_eq :
    journal runner opened (past ++ [line]) = journal runner opened past ++ turn.emitted
  reads_on_iff :
    (∃ text, turn.reply = .shown text) ↔ ReadsOn runner opened (past ++ [line])

theorem reads_on_of_going {past : List String} {line : String} (going : quits line = false) :
    ReadsOn runner opened (past ++ [line]) ↔
      ∃ outcomes, (rerun runner opened (past ++ [line])).result = .ok outcomes := by
  simp [ReadsOn, going]

theorem of_run_shown {α β : Type} {run : Run α} {describe : α → String} {reply : α → β}
    {result : Except Failure β} (maps : result = run.result.map reply) :
    (∃ text, (ofRun run describe).reply = .shown text) ↔ ∃ outcomes, result = .ok outcomes := by
  subst maps
  cases ended : run.result <;> simp [ofRun, ended, Except.map]

/-- What neither restarts nor is an event leaves everything as it is. -/
theorem Stands.unmoved {past : List String} {session : Session} {line : String}
    (stands : Stands runner opened past session) (other : resets line = false)
    (eventless : eventOf? line = none) :
    session = (rerun runner opened (past ++ [line])).session ∧
      journal runner opened (past ++ [line]) = journal runner opened past ++ [] := by
  have same : rerun runner opened (past ++ [line]) = rerun runner opened past :=
    rerun_of_other other eventless past
  refine ⟨?_, journal_of_other other ?_⟩
  · rw [same]
    exact stands.session_eq
  · rw [same, List.append_nil]

theorem Stands.retells_idle {past : List String} {session : Session} {line : String}
    (stands : Stands runner opened past session) (going : quits line = false)
    (other : resets line = false) (eventless : eventOf? line = none) (text : String) :
    Retells runner opened past line (answer session text) := by
  obtain ⟨session_eq, journal_eq⟩ := stands.unmoved other eventless
  refine ⟨session_eq, journal_eq, ?_⟩
  rw [reads_on_of_going going, rerun_of_other other eventless]
  exact iff_of_true ⟨text, rfl⟩ stands.succeeds

theorem retells_restart {past : List String} {session : Session} {line : String}
    (opens : runner.machine.openSession = .ok opened) (going : quits line = false)
    (reset : resets line = true) :
    Retells runner opened past line (turn runner session .restart) := by
  have begins : rerun runner opened (past ++ [line]) =
      ⟨(runner.start opened).session, (runner.start opened).emitted,
        (runner.start opened).result.map fun _ => []⟩ := by
    rw [rerun, since_reset_of_reset reset, Runner.in_sequence_nil]
  have restarts : turn runner session .restart = ofRun (runner.start opened) fun _ => "" := by
    rw [turn, Runner.reset_opens opens, Run.done_and_then]
  rw [restarts]
  refine ⟨?_, ?_, ?_⟩
  · rw [begins]
    rfl
  · rw [journal_of_reset reset, begins]
    rfl
  · rw [reads_on_of_going going]
    exact of_run_shown (congrArg Run.result begins)

theorem Stands.retells_event {past : List String} {session : Session} {line name : String}
    (stands : Stands runner opened past session) (going : quits line = false)
    (other : resets line = false) (named : eventOf? line = some name) :
    Retells runner opened past line (turn runner session (.event name)) := by
  obtain ⟨same, outcomes, succeeds⟩ := stands
  subst same
  have grows : rerun runner opened (past ++ [line]) =
      let run := runner.dispatch (rerun runner opened past).session name
      ⟨run.session, (rerun runner opened past).emitted ++ run.emitted,
        run.result.map fun outcome => outcomes ++ [outcome]⟩ := by
    rw [rerun, since_reset_of_other other, named]
    exact Runner.in_sequence_snoc succeeds name
  refine ⟨?_, ?_, ?_⟩
  · rw [grows]
    rfl
  · apply journal_of_other other
    rw [grows]
    rfl
  · rw [reads_on_of_going going]
    exact of_run_shown (congrArg Run.result grows)

theorem Stands.retells_quit {past : List String} {session : Session} {line : String}
    (stands : Stands runner opened past session) (quit : quits line = true)
    (other : resets line = false) (eventless : eventOf? line = none) :
    Retells runner opened past line (turn runner session .quit) := by
  obtain ⟨session_eq, journal_eq⟩ := stands.unmoved other eventless
  refine ⟨session_eq, journal_eq, ?_⟩
  simp [turn, ReadsOn, quit]

/-- One line, whatever it asks for. -/
theorem Stands.retells {past : List String} {session : Session}
    (stands : Stands runner opened past session) (opens : runner.machine.openSession = .ok opened)
    (line : String) :
    Retells runner opened past line (turn runner session (Request.ofLine line)) := by
  rcases request_cases line with quit | restart | event | idle
  · obtain ⟨asked, quit, other, eventless⟩ := quit
    rw [asked]
    exact stands.retells_quit quit other eventless
  · obtain ⟨asked, going, reset, _⟩ := restart
    rw [asked]
    exact retells_restart opens going reset
  · obtain ⟨name, asked, going, other, named⟩ := event
    rw [asked]
    exact stands.retells_event going other named
  · obtain ⟨idle, going, other, eventless⟩ := idle
    obtain ⟨text, answers⟩ := turn_of_idle idle runner session
    rw [answers]
    exact stands.retells_idle going other eventless text

theorem Retells.stands {past : List String} {line : String} {turn : Turn}
    (retells : Retells runner opened past line turn) {text : String}
    (shown : turn.reply = .shown text) : Stands runner opened (past ++ [line]) turn.session :=
  ⟨retells.session_eq, (retells.reads_on_iff.mp ⟨text, shown⟩).2⟩

/-! All lines. -/

/-- The turns behind `past` are those of the lines for which the console reads on that long, each
leaves the session as `rerun` has it, and together they emit what `journal` gains. -/
structure Follow (runner : Runner) (opened : Session) (past lines : List String)
    (answered : List Turn) : Prop where
  extent : ∀ count, count < answered.length ↔ count < lines.length ∧
    ∀ earlier < count, ReadsOn runner opened (past ++ lines.take (earlier + 1))
  session_eq : ∀ count turn, answered[count]? = some turn →
    turn.session = (rerun runner opened (past ++ lines.take (count + 1))).session
  journal_eq : ∀ count ≤ answered.length,
    journal runner opened (past ++ lines.take count) =
      journal runner opened past ++ (answered.take count).flatMap Turn.emitted

theorem Follow.nil (past : List String) : Follow runner opened past [] [] := by
  refine ⟨?_, ?_, ?_⟩
  · simp
  · simp
  · simp

/-- After the last line for which the console reads on. -/
theorem Retells.follow_last {past : List String} {line : String} {turn : Turn}
    (retells : Retells runner opened past line turn) (ends : ¬ ∃ text, turn.reply = .shown text)
    (rest : List String) : Follow runner opened past (line :: rest) [turn] := by
  refine ⟨?_, ?_, ?_⟩
  · intro count
    cases count with
    | zero => simp
    | succ count =>
        have stops : ¬ ∀ earlier < count + 1,
            ReadsOn runner opened (past ++ (line :: rest).take (earlier + 1)) :=
          fun reads => ends (retells.reads_on_iff.mpr (reads 0 count.succ_pos))
        exact iff_of_false (by simp) fun both => stops both.2
  · intro count following found
    cases count with
    | zero =>
        cases found
        exact retells.session_eq
    | succ count => nomatch found
  · intro count bound
    cases count with
    | zero => simp
    | succ count =>
        obtain rfl : count = 0 := Nat.le_zero.mp (Nat.le_of_succ_le_succ bound)
        simpa using retells.journal_eq

theorem Retells.follow_cons {past : List String} {line : String} {turn : Turn}
    (retells : Retells runner opened past line turn) {text : String}
    (shown : turn.reply = .shown text) {rest : List String} {answered : List Turn}
    (follow : Follow runner opened (past ++ [line]) rest answered) :
    Follow runner opened past (line :: rest) (turn :: answered) := by
  have shift (count : Nat) :
      past ++ (line :: rest).take (count + 1) = past ++ [line] ++ rest.take count := by simp
  refine ⟨?_, ?_, ?_⟩
  · intro count
    cases count with
    | zero => simp
    | succ count =>
        have first := retells.reads_on_iff.mp ⟨text, shown⟩
        simp only [List.length_cons, Nat.add_lt_add_iff_right, follow.extent count, shift]
        refine and_congr_right fun _ => ⟨fun reads earlier bound => ?_, fun reads earlier bound => ?_⟩
        · cases earlier with
          | zero => simpa using first
          | succ earlier => exact reads earlier (Nat.lt_of_succ_lt_succ bound)
        · exact reads (earlier + 1) (Nat.succ_lt_succ bound)
  · intro count following found
    cases count with
    | zero =>
        cases found
        simpa using retells.session_eq
    | succ count =>
        rw [shift]
        exact follow.session_eq count following found
  · intro count bound
    cases count with
    | zero => simp
    | succ count =>
        rw [shift, follow.journal_eq count (Nat.le_of_succ_le_succ bound), retells.journal_eq,
          List.take_succ_cons, List.flatMap_cons, List.append_assoc]

theorem turns_follow (opens : runner.machine.openSession = .ok opened) {past : List String}
    {session : Session} (stands : Stands runner opened past session) (lines : List String) :
    Follow runner opened past lines (turns runner session lines) := by
  induction lines generalizing past session with
  | nil => exact .nil past
  | cons line rest induction =>
      have retells := stands.retells opens line
      rw [turns]
      cases reply : (turn runner session (Request.ofLine line)).reply with
      | shown text => exact retells.follow_cons reply (induction (retells.stands reply))
      | quit => exact retells.follow_last (by simp [reply]) rest
      | failed failure => exact retells.follow_last (by simp [reply]) rest

/-- The console is the session. Lines are answered up to the first that ends the console or fails.
The session after each of them is a new one, started and given the events since the last restart;
what was emitted up to it are the starts and events of all rounds; and lines that only ask change
nothing. -/
theorem turns_replay_session (runner : Runner)
    (accepted : hasErrors runner.machine.diagnostics = false) :
    ∃ opened, runner.machine.openSession = .ok opened ∧
      ∀ lines, (runner.start opened).result = .ok () →
        let begun := runner.start opened
        let answered := turns runner begun.session lines
        (∀ count, count < answered.length ↔ count < lines.length ∧
          ∀ earlier < count, ReadsOn runner opened (lines.take (earlier + 1))) ∧
        (∀ count turn, answered[count]? = some turn →
          turn.session = (rerun runner opened (lines.take (count + 1))).session) ∧
        (∀ count ≤ answered.length,
          begun.emitted ++ (answered.take count).flatMap Turn.emitted =
            journal runner opened (lines.take count)) ∧
        ∀ session, ∀ line ∈ lines, idles line = true →
          ∃ text, turn runner session (Request.ofLine line) = answer session text := by
  obtain ⟨opened, opens⟩ := (Machine.runnable_of_no_errors accepted).open_session
  refine ⟨opened, opens, ?_⟩
  intro lines begins
  have fresh : rerun runner opened [] =
      ⟨(runner.start opened).session, (runner.start opened).emitted, .ok []⟩ := by
    rw [rerun, sinceReset, List.rtakeWhile_nil, List.filterMap_nil, Runner.in_sequence_nil, begins]
    rfl
  have stands : Stands runner opened [] (runner.start opened).session := by
    rw [← congrArg Run.session fresh]
    exact ⟨rfl, [], congrArg Run.result fresh⟩
  have follow := turns_follow opens stands lines
  refine ⟨follow.extent, follow.session_eq, ?_, fun session line _ idle =>
    turn_of_idle idle runner session⟩
  intro count bound
  have opening : journal runner opened [] = (runner.start opened).emitted := by
    rw [← congrArg Run.emitted fresh]
    exact List.append_nil _
  rw [← opening]
  exact (follow.journal_eq count bound).symm

/-- A gong for each quarter of an hour, which counts the seconds. To divide the hour by none fails. -/
def gongMachine : Machine where
  name := "Gong"
  attributes := [⟨"seconds", .int, none⟩]
  events := ["strike", "divide"]
  commands := ["hum"]
  states :=
    [{ name := "Still"
       transitions :=
         [⟨"strike", none, "Still",
            [.assign "seconds"
              (.binary .add (.reference "seconds") (.literal (.int ⟨900, by decide, by decide⟩))),
             .print [.text "seconds: ", .value (.reference "seconds")]]⟩,
          ⟨"divide", none, "Still",
            [.print [.value
              (.binary .div (.literal (.int ⟨3600, by decide, by decide⟩)) (.reference "seconds"))]]⟩]
       entry := [.run "hum"] }]
  initial := "Still"

def gongRunner : Runner := ⟨gongMachine, options⟩

def gongSession : Session := ⟨Environment.empty.set "seconds" (.int Word.zero), "Still", false⟩

def gongLines : List String :=
  ["strike", " state now", "strike it", "", "strike", "reset please", "divide", "strike"]

def gongTurns : List Turn :=
  turns gongRunner (gongRunner.start gongSession).session gongLines

/-- Two rounds: in the first the gong is struck twice, the second fails. The last line is not read. -/
theorem gong_turns_replay :
    hasErrors gongRunner.machine.diagnostics = false ∧
      gongRunner.machine.openSession = .ok gongSession ∧
      (gongRunner.start gongSession).result = .ok () ∧
      gongTurns.length = 7 ∧
      (∀ earlier < 6, ReadsOn gongRunner gongSession (gongLines.take (earlier + 1))) ∧
      (∃ turn, gongTurns[4]? = some turn ∧
        turn.session = (gongRunner.inSequence gongSession ["strike", "strike"]).session) ∧
      (gongRunner.start gongSession).emitted ++ (gongTurns.take 7).flatMap Turn.emitted =
        (gongRunner.inSequence gongSession ["strike", "strike"]).emitted ++
          (gongRunner.inSequence gongSession ["divide"]).emitted ∧
      ∃ text, turn gongRunner gongSession (Request.ofLine "strike it") =
        answer gongSession text := by
  have accepted : hasErrors gongRunner.machine.diagnostics = false := by decide
  obtain ⟨opened, opens, replays⟩ := turns_replay_session gongRunner accepted
  obtain rfl : gongSession = opened := Except.ok.inj opens
  obtain ⟨extent, sessions, emits, idle⟩ := replays gongLines rfl
  have length : gongTurns.length = 7 := by decide
  have answered : 4 < gongTurns.length := by omega
  have fifth : gongTurns[4]? = some gongTurns[4] := List.getElem?_eq_getElem answered
  refine ⟨accepted, opens, rfl, length, ?_, ⟨_, fifth, sessions 4 _ fifth⟩, ?_, ?_⟩
  · have sixFollowed : 6 < gongTurns.length := by omega
    exact ((extent 6).mp sixFollowed).2
  · have replayed := emits 7 length.ge
    exact replayed.trans (by decide)
  · exact idle gongSession "strike it" (by decide) (by decide)

end StateMachine.Console
