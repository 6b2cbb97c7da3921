import StateMachine.Proofs.Session.Interleaving

/-!
Admission of lines to a live session. In every interleaving each line that asks for an event is
dispatched once or dropped and counted once, by the state of the gate, unless it comes behind a
failure that ends the run; a run that ends well has done what the admitted events do one after
another.
-/

set_option autoImplicit false

namespace StateMachine

inductive Reception where
  | admitted
  | ignored
  /-- The gate is open, but the event before failed and its result has not been taken. -/
  | stopped (failure : Failure)
deriving DecidableEq, Repr

/-- Lines that ask for an event, each with its reception. -/
abbrev Receptions := List (String × Reception)

namespace Receptions

def admitted (lines : Receptions) : List String :=
  (lines.filter fun line => line.2 = .admitted).map Prod.fst

def ignored (lines : Receptions) : Nat := lines.countP fun line => line.2 = .ignored

theorem admitted_append (first second : Receptions) :
    admitted (first ++ second) = admitted first ++ admitted second := by
  simp [admitted]

theorem ignored_append (first second : Receptions) :
    ignored (first ++ second) = ignored first + ignored second := by
  simp [ignored]

theorem length_eq {lines : Receptions}
    (unstopped : ∀ event failure, (event, Reception.stopped failure) ∉ lines) :
    lines.length = (admitted lines).length + ignored lines := by
  induction lines with
  | nil => rfl
  | cons line rest induction =>
      have others := induction fun event failure member =>
        unstopped event failure (List.mem_cons_of_mem _ member)
      obtain ⟨event, reception⟩ := line
      cases reception with
      | admitted => simp [admitted, ignored] at others ⊢; omega
      | ignored => simp [admitted, ignored] at others ⊢; omega
      | stopped failure => exact absurd List.mem_cons_self (unstopped event failure)

end Receptions

def Stage.failure? : Stage → Option Failure
  | .done (.error failure) => some failure
  | _ => none

theorem Stage.done_of_failure {stage : Stage} {failure : Failure}
    (failed : stage.failure? = some failure) : stage = .done (.error failure) := by
  unfold failure? at failed
  split at failed
  · cases failed
    rfl
  · nomatch failed

namespace Live

def awaitedFailure? (live : Live) : Option Failure :=
  live.awaitedTask?.bind fun task => task.stage.failure?

/-- How the gate receives a line at this moment. -/
def reception (live : Live) : Reception :=
  match live.gate, live.awaitedFailure? with
  | .processing, _ => .ignored
  | .idle, none => .admitted
  | .idle, some failure => .stopped failure

/-- The line that the reader handles in a move, unless it is blank. -/
def handles (live : Live) (move : LiveMove) : Receptions :=
  match move, live.reader with
  | .line text, .reading => ((eventIn? text).map fun event => (event, live.reception)).toList
  | _, _ => []

def handled (runner : Runner) (live : Live) : List LiveMove → Receptions
  | [] => []
  | move :: rest => live.handles move ++ (live.advance runner move).handled runner rest

/-- The event that has been let in and is dispatched next. -/
def entering (live : Live) : List String :=
  match live.reader, live.awaitedFailure? with
  | .admitting event, none => [event]
  | _, _ => []

/-- The run has ended with this failure, or will as soon as the reader has taken it. -/
def Fails (live : Live) (failure : Failure) : Prop :=
  live.ended = some (.error (.machine failure)) ∨
    live.awaitedFailure? = some failure ∧ ∃ event, live.reader = .admitting event

variable {runner : Runner} {session : Session} {live : Live}

theorem entering_of_unadmitted (nobody : ∀ event, live.reader ≠ .admitting event) :
    live.entering = [] := by
  unfold entering
  split
  · rename_i event admitting _
    exact absurd admitting (nobody event)
  · rfl

theorem handles_of_not_reading (busy : live.reader ≠ .reading) (move : LiveMove) :
    live.handles move = [] := by
  unfold handles
  split
  · rename_i reading
    exact absurd reading busy
  · rfl

/-- What was dispatched and dropped between two situations goes back to these lines. -/
structure Tallies (live later : Live) (lines : Receptions) : Prop where
  admitted : later.dispatched ++ later.entering =
    live.dispatched ++ live.entering ++ lines.admitted
  ignored : later.ignored = live.ignored + lines.ignored

theorem Tallies.trans {between later : Live} {first second : Receptions}
    (earlier : live.Tallies between first) (rest : between.Tallies later second) :
    live.Tallies later (first ++ second) := by
  refine ⟨?_, ?_⟩
  · rw [rest.admitted, earlier.admitted, Receptions.admitted_append, List.append_assoc]
  · rw [rest.ignored, earlier.ignored, Receptions.ignored_append, Nat.add_assoc]

theorem Tallies.still {later : Live} (dispatched : later.dispatched = live.dispatched)
    (entering : later.entering = live.entering) (ignored : later.ignored = live.ignored) :
    live.Tallies later [] := by
  refine ⟨?_, ?_⟩
  · simp [dispatched, entering, Receptions.admitted]
  · simp [ignored, Receptions.ignored]

theorem Tallies.unadmitted {later : Live} (dispatched : later.dispatched = live.dispatched)
    (ignored : later.ignored = live.ignored) (before : ∀ event, live.reader ≠ .admitting event)
    (after : ∀ event, later.reader ≠ .admitting event) : live.Tallies later [] :=
  .still dispatched
    ((entering_of_unadmitted after).trans (entering_of_unadmitted before).symm) ignored

theorem dispatched_launch (event : String) :
    (live.launch event).dispatched = live.dispatched ++ [event] := by
  simp [dispatched, launch]

theorem entering_launch (event : String) : (live.launch event).entering = [] :=
  entering_of_unadmitted fun _ => by simp [launch]

theorem handles_line {text event : String} (reading : live.reader = .reading)
    (asks : eventIn? text = some event) :
    live.handles (.line text) = [(event, live.reception)] := by
  simp [handles, reading, asks]

theorem handles_blank {text : String} (blank : eventIn? text = none) :
    live.handles (.line text) = [] := by
  unfold handles
  split <;> simp_all

theorem entering_of_admitting {event : String} (admitting : live.reader = .admitting event) :
    live.entering = match live.awaitedFailure? with | none => [event] | some _ => [] := by
  rw [entering, admitting]
  cases live.awaitedFailure? <;> rfl

theorem awaited_failure_none (nothing : live.awaited = none) : live.awaitedFailure? = none := by
  simp [awaitedFailure?, awaitedTask?, nothing]

/-! What each move dispatches and drops. -/

/-- Nobody works while an event waits at the gate, so that the result to be taken stays as it is. -/
theorem Guarded.tallies_work (guarded : live.Guarded) (runner : Runner) (place : Nat) :
    live.Tallies (live.work runner place) [] := by
  by_cases waits : ∃ event, live.reader = .admitting event
  · obtain ⟨event, admitting⟩ := waits
    rw [work_of_landed (guarded.admits_behind event admitting).1]
    exact .still rfl rfl rfl
  · have nobody : ∀ event, live.reader ≠ .admitting event := not_exists.mp waits
    refine .unadmitted (work_dispatched place) (work_ignored place) nobody ?_
    rw [work_reader]
    exact nobody

/-- Of an event that waits at the gate the result decides: it is dispatched now or never. -/
theorem tallies_collect (live : Live) : live.Tallies live.collect [] := by
  rw [Live.collect]
  split
  · next event result awaited =>
      have failure : live.awaitedFailure? = (Stage.done result).failure? := by
        rw [awaitedFailure?, awaited]
        rfl
      cases reader : live.reader with
      | ended ending =>
          rw [settle_result_of_ended reader]
          exact .still rfl rfl rfl
      | reading =>
          cases result <;> simp only [settleResult, reader] <;>
            exact .unadmitted rfl rfl (by simp [reader]) (by simp)
      | closing =>
          cases result <;> simp only [settleResult, reader] <;>
            exact .unadmitted rfl rfl (by simp [reader]) (by simp)
      | admitting next =>
          have entering := entering_of_admitting reader
          rw [failure] at entering
          cases result with
          | ok outcome =>
              simp only [settleResult, reader]
              refine ⟨?_, rfl⟩
              rw [dispatched_launch, entering_launch, entering]
              simp [dispatched, Stage.failure?, Receptions.admitted]
          | error failure =>
              simp only [settleResult, reader]
              refine ⟨?_, rfl⟩
              rw [entering, entering_of_unadmitted (by simp)]
              simp [dispatched, Stage.failure?, Receptions.admitted]
  · exact .still rfl rfl rfl

theorem tallies_line (reading : live.reader = .reading) (text : String) :
    live.Tallies (live.takeLine text) (live.handles (.line text)) := by
  have before : live.entering = [] := entering_of_unadmitted (by simp [reading])
  cases asks : eventIn? text with
  | none =>
      rw [take_line_blank asks, handles_blank asks]
      exact .still rfl rfl rfl
  | some event =>
      rw [handles_line reading asks, reception]
      cases gate : live.gate with
      | processing =>
          rw [take_line_refused asks gate]
          refine ⟨?_, rfl⟩
          rw [before, entering_of_unadmitted (by simp [reading])]
          simp [dispatched, Receptions.admitted]
      | idle =>
          cases awaited : live.awaited with
          | none =>
              rw [take_line_launched asks gate awaited, awaited_failure_none awaited]
              refine ⟨?_, rfl⟩
              rw [dispatched_launch, entering_launch, before]
              simp [dispatched, Receptions.admitted]
          | some place =>
              rw [take_line_admitted asks gate awaited]
              refine ⟨?_, ?_⟩
              · rw [entering_of_admitting rfl, before]
                change _ ++ (match live.awaitedFailure? with | none => _ | some _ => _) = _
                cases live.awaitedFailure? <;> simp [dispatched, Receptions.admitted]
              · cases live.awaitedFailure? <;> simp [Receptions.ignored]

theorem Tallies.while_reading {next : Live} {move : LiveMove}
    (heard : live.reader = .reading → live.Tallies next (live.handles move)) :
    live.Tallies (live.whileReading next) (live.handles move) := by
  by_cases reading : live.reader = .reading
  · rw [while_reading_of_reading reading]
    exact heard reading
  · rw [while_reading_of_not_reading reading, handles_of_not_reading reading]
    exact .still rfl rfl rfl

/-- One move dispatches and drops just what the line that it handles calls for. -/
theorem Guarded.tallies_advance (guarded : live.Guarded) (runner : Runner) (move : LiveMove) :
    live.Tallies (live.advance runner move) (live.handles move) := by
  cases move with
  | work place => exact guarded.tallies_work runner place
  | collect => exact live.tallies_collect
  | line text => exact .while_reading fun reading => tallies_line reading text
  | garbled =>
      exact .while_reading fun reading => .unadmitted rfl rfl (by simp [reading]) (by simp)
  | close =>
      exact .while_reading fun reading =>
        .unadmitted rfl rfl (by simp [reading]) (by cases live.awaited <;> simp)

theorem Guarded.tallies_advance_all (guarded : live.Guarded) (runner : Runner)
    (moves : List LiveMove) :
    live.Tallies (live.advanceAll runner moves) (live.handled runner moves) := by
  induction moves generalizing live with
  | nil => exact .still rfl rfl rfl
  | cons move rest induction =>
      have later := guarded.advance runner move
      exact (guarded.tallies_advance runner move).trans (induction later)

/-! Behind a failure. -/

theorem Fails.not_reading {failure : Failure} (fails : live.Fails failure) :
    live.reader ≠ .reading := by
  intro reading
  obtain ended | ⟨_, event, admitting⟩ := fails
  · simp [Live.ended, reading] at ended
  · simp [reading] at admitting

theorem Fails.advance {failure : Failure} (fails : live.Fails failure) (guarded : live.Guarded)
    (runner : Runner) (move : LiveMove) : (live.advance runner move).Fails failure := by
  have busy := fails.not_reading
  have heard (next : Live) : (live.whileReading next).Fails failure := by
    rw [while_reading_of_not_reading busy]
    exact fails
  obtain ended | ⟨failed, event, admitting⟩ := fails
  · have stays := (@advance_of_ended runner _ _ (reader_of_ended ended) move).1
    exact .inl (by rw [Live.ended, stays])
  · cases move with
    | work place =>
        rw [Live.advance, work_of_landed (guarded.admits_behind event admitting).1]
        exact .inr ⟨failed, event, admitting⟩
    | collect =>
        obtain ⟨task, awaited, done⟩ := Option.bind_eq_some_iff.mp failed
        obtain ⟨text, stage⟩ := task
        obtain rfl := Stage.done_of_failure done
        rw [Live.advance, collect, awaited]
        simp only [settleResult, admitting]
        exact .inl rfl
    | _ => exact heard _

theorem Fails.handled {failure : Failure} (fails : live.Fails failure) (guarded : live.Guarded)
    (runner : Runner) (moves : List LiveMove) :
    live.handled runner moves = [] ∧ (live.advanceAll runner moves).Fails failure := by
  induction moves generalizing live with
  | nil => exact ⟨rfl, fails⟩
  | cons move rest induction =>
      obtain ⟨nothing, failed⟩ :=
        induction (fails.advance guarded runner move) (guarded.advance runner move)
      refine ⟨?_, failed⟩
      rw [Live.handled, handles_of_not_reading fails.not_reading, nothing, List.append_nil]

theorem reception_eq_stopped {failure : Failure} (stopped : live.reception = .stopped failure) :
    live.gate = .idle ∧ live.awaitedFailure? = some failure := by
  unfold reception at stopped
  split at stopped
  · nomatch stopped
  · nomatch stopped
  · rename_i idle failed
    cases stopped
    exact ⟨idle, failed⟩

theorem awaited_of_failure {failure : Failure} (failed : live.awaitedFailure? = some failure) :
    ∃ place, live.awaited = some place := by
  cases awaited : live.awaited with
  | none => simp [awaitedFailure?, awaitedTask?, awaited] at failed
  | some place => exact ⟨place, rfl⟩

/-- A line that is stopped stands alone in its move, and the run fails behind it. -/
theorem fails_of_stopped (runner : Runner) {move : LiveMove} {event : String} {failure : Failure}
    (stopped : (event, .stopped failure) ∈ live.handles move) :
    live.handles move = [(event, .stopped failure)] ∧
      (live.advance runner move).Fails failure := by
  have reading : live.reader = .reading := by
    apply Classical.byContradiction
    intro busy
    rw [handles_of_not_reading busy] at stopped
    nomatch stopped
  cases move with
  | line text =>
      cases asks : eventIn? text with
      | none =>
          rw [handles_blank asks] at stopped
          nomatch stopped
      | some other =>
          rw [handles_line reading asks] at stopped ⊢
          obtain ⟨rfl, received⟩ := Prod.mk.inj (List.mem_singleton.mp stopped)
          rw [← received]
          refine ⟨rfl, ?_⟩
          obtain ⟨idle, failed⟩ := reception_eq_stopped received.symm
          obtain ⟨place, awaited⟩ := awaited_of_failure failed
          rw [advance, while_reading_of_reading reading, take_line_admitted asks idle awaited]
          exact .inr ⟨failed, event, rfl⟩
  | _ => simp [handles] at stopped

theorem Guarded.stopped_last (guarded : live.Guarded) (moves : List LiveMove) {event : String}
    {failure : Failure} (stopped : (event, .stopped failure) ∈ live.handled runner moves) :
    (live.handled runner moves).getLast? = some (event, .stopped failure) ∧
      (live.advanceAll runner moves).Fails failure := by
  induction moves generalizing live with
  | nil => nomatch stopped
  | cons move rest induction =>
      have later := guarded.advance runner move
      rw [Live.handled]
      obtain here | there := List.mem_append.mp stopped
      · obtain ⟨alone, fails⟩ := fails_of_stopped runner here
        obtain ⟨nothing, failed⟩ := fails.handled later runner rest
        refine ⟨?_, failed⟩
        rw [nothing, alone]
        rfl
      · obtain ⟨last, failed⟩ := induction later there
        refine ⟨?_, failed⟩
        rw [List.getLast?_append, last]
        rfl

theorem Resting.not_fails (resting : live.Resting runner session) (failure : Failure) :
    ¬ live.Fails failure := by
  rintro (ended | ⟨_, event, admitting⟩) <;>
    obtain reading | completed | garbled := resting.reader <;> simp_all [Live.ended]

theorem begin_entering (runner : Runner) (session : Session) :
    (begin runner session).entering = [] :=
  entering_of_unadmitted (begin_unadmitted runner session)

theorem Tallies.of_begin {lines : Receptions}
    (tallies : (begin runner session).Tallies live lines) :
    live.dispatched ++ live.entering = lines.admitted ∧ live.ignored = lines.ignored := by
  have nothing : (begin runner session).dispatched ++ (begin runner session).entering = [] := by
    rw [begin_entering]
    rfl
  refine ⟨?_, ?_⟩
  · rw [tallies.admitted, nothing, List.nil_append]
  · rw [tallies.ignored]
    exact Nat.zero_add _

/-- Whatever the interleaving, at most one event is under way. A line met by an open gate is
dispatched once, in its turn, and a line met by a closed gate is dropped and counted once. Only a
line that comes while the failure of the event before it has not been taken is neither; it is the
last one, and the run ends with that failure. The machine has done what the dispatched events do one
after another, and if the run ends well they are all the lines that were not dropped. -/
theorem lines_accounted_for (runner : Runner) (session : Session) (moves : List LiveMove) :
    let live := (begin runner session).advanceAll runner moves
    let lines := (begin runner session).handled runner moves
    live.underWay.length ≤ 1 ∧
      live.dispatched ++ live.entering = lines.admitted ∧
      (live.ended ≠ none → live.dispatched = lines.admitted) ∧
      live.ignored = lines.ignored ∧
      (∀ event failure, (event, .stopped failure) ∈ lines →
        lines.getLast? = some (event, .stopped failure) ∧ live.Fails failure) ∧
      (live.underWay = [] →
        live.session = (runner.inSequence session live.dispatched).session ∧
          live.emitted = (runner.inSequence session live.dispatched).emitted) ∧
      (live.ended = some (.ok ()) →
        live.outcomes.length + live.ignored = lines.length ∧
          (runner.inSequence session lines.admitted).result = .ok live.outcomes ∧
          live.session = (runner.inSequence session lines.admitted).session ∧
          live.emitted = (runner.inSequence session lines.admitted).emitted) := by
  intro live lines
  have orderly : live.Orderly runner session := reached_orderly runner session moves
  have guarded := begin_guarded runner session
  obtain ⟨admitted, ignored⟩ := (guarded.tallies_advance_all runner moves).of_begin
  have stopped (event : String) (failure : Failure) (member : (event, .stopped failure) ∈ lines) :
      lines.getLast? = some (event, .stopped failure) ∧ live.Fails failure :=
    guarded.stopped_last moves member
  have dispatched (ended : live.ended ≠ none) : live.dispatched = lines.admitted := by
    have nothing : live.entering = [] := entering_of_unadmitted (unadmitted_of_ended ended)
    rw [← admitted, nothing, List.append_nil]
  refine ⟨(guarded.advance_all runner moves).one_under_way, admitted, dispatched, ignored, stopped, ?_, ?_⟩
  · intro landed
    have settled := orderly.settled landed
    exact ⟨settled.session_eq, settled.emitted_eq⟩
  · intro ended
    have resting := orderly.completed ended
    replace admitted : live.dispatched = lines.admitted := dispatched (by simp [ended])
    have unstopped (event : String) (failure : Failure) : (event, .stopped failure) ∉ lines :=
      fun member => resting.not_fails failure (stopped event failure member).2
    refine ⟨?_, ?_, ?_, ?_⟩
    · rw [Receptions.length_eq unstopped, ← admitted, ignored,
        Runner.in_sequence_length resting.taken]
    · exact admitted ▸ resting.taken
    · exact admitted ▸ resting.session_eq
    · exact admitted ▸ resting.emitted_eq

end Live

/-- A relay that switches after a while. Its first division is by zero. -/
def relayMachine : Machine where
  name := "Relay"
  attributes := [⟨"x", .int, none⟩]
  events := ["go", "bad"]
  commands := []
  states :=
    [{ name := "A"
       transitions :=
         [⟨"go", none, "B", [.timeout 10]⟩,
          ⟨"bad", none, "A", [.assign "x" (.binary .div (.reference "x") (.reference "x"))]⟩]
       entry := [] },
     { name := "B", transitions := [⟨"go", none, "A", [.timeout 10]⟩], entry := [] }]
  initial := "A"

def relayRunner : Runner := ⟨relayMachine, .initialOnly, true⟩

def relaySession : Session := ⟨Environment.empty.set "x" (.int Word.zero), "A", false⟩

/-- The second line comes during the pause, the third just before the gate opens again, and the
fourth before the result of the first event is taken. -/
def relayMoves : List LiveMove :=
  [.line "go", .work 0, .work 0, .work 0, .line " go", .work 0, .work 0, .line "go", .work 0,
    .line "go ", .collect, .work 1, .work 1, .work 1, .work 1, .work 1, .close, .work 1, .collect]

open Live in
theorem relay_lines_accounted_for :
    let live := (begin relayRunner relaySession).advanceAll relayRunner relayMoves
    let lines := (begin relayRunner relaySession).handled relayRunner relayMoves
    lines = [("go", .admitted), ("go", .ignored), ("go", .ignored), ("go", .admitted)] ∧
      live.ended = some (.ok ()) ∧
      live.outcomes.length + live.ignored = lines.length ∧
      (relayRunner.inSequence relaySession lines.admitted).result = .ok live.outcomes ∧
      live.session = (relayRunner.inSequence relaySession lines.admitted).session ∧
      live.emitted = (relayRunner.inSequence relaySession lines.admitted).emitted := by
  intro live lines
  have ended : live.ended = some (.ok ()) := rfl
  obtain ⟨_, _, _, _, _, _, completed⟩ :=
    lines_accounted_for relayRunner relaySession relayMoves
  exact ⟨rfl, ended, completed ended⟩

open Live in
/-- The gate is open again and the reader reads, but the line is neither dispatched nor counted. -/
theorem line_lost_behind_failure :
    let before := (begin relayRunner relaySession).advanceAll relayRunner
      [.line "bad", .work 0, .work 0, .work 0]
    let after := before.advanceAll relayRunner [.line "go", .collect]
    before.reader = .reading ∧ before.gate = .idle ∧ before.dispatched = ["bad"] ∧
      eventIn? "go" = some "go" ∧ after.dispatched = ["bad"] ∧ after.ignored = 0 ∧
      after.ended = some (.error (.machine (.evaluation .divisionByZero))) :=
  ⟨rfl, rfl, rfl, rfl, rfl, rfl, rfl⟩

end StateMachine
