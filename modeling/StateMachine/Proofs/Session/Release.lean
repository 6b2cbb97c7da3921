import StateMachine.Proofs.Session.Admission
import StateMachine.Proofs.Session.Batch

/-!
What a live run leaves behind. A run that ends with its input or with a failure has let go of
everything: the gate is open, and a further run on the session begins like the first one. Only a run
that ends at bytes that are not text can leave an event under way and the gate closed.
-/

set_option autoImplicit false

namespace StateMachine

namespace Stage

def stepsLeft (run : Run Outcome) : Stage → Nat
  | .waiting => run.emitted.length + 3
  | .working pending _ _ => pending.length + 2
  | .leaving _ => 1
  | .done _ => 0

theorem steps_left_next (run : Run Outcome) (stage : Stage) :
    (stage.next run).stepsLeft run = stage.stepsLeft run - 1 := by
  cases stage with
  | working pending after result => cases pending <;> rfl
  | _ => rfl

theorem not_under_way_of_no_steps {run : Run Outcome} {stage : Stage}
    (nothing : stage.stepsLeft run = 0) : stage.isUnderWay = false := by
  cases stage with
  | done result => rfl
  | _ => nomatch nothing

end Stage

namespace Live

/-- Nothing of the run goes on: no event is under way, the gate is open, and no result is left to be
taken. -/
structure Released (live : Live) : Prop where
  landed : live.underWay = []
  idle : live.gate = .idle
  taken : live.awaited = none

/-- A further run on the session, which finds the machine, the gate and the workers as they are. It
cannot begin while a worker uses the machine. -/
def resume (runner : Runner) (live : Live) : Live :=
  if live.tasks.any fun task => task.stage.holdsMachine then live
  else
    let fresh := begin runner live.session
    { fresh with
      gate := live.gate
      tasks := live.tasks
      emitted := live.emitted ++ fresh.emitted }

/-- A failure that ended the run has been taken from the task that it came from. -/
def Taken (live : Live) : Prop :=
  ∀ failure, live.reader = .ended (.error (.machine failure)) → live.awaited = none

variable {runner : Runner} {session : Session} {live : Live}

theorem begin_taken (runner : Runner) (session : Session) : (begin runner session).Taken :=
  fun _ _ => rfl

theorem Taken.settle_result (taken : live.Taken) (result : Except Failure Outcome) :
    (live.settleResult result).Taken := by
  unfold settleResult
  split
  · exact taken
  · exact fun _ _ => rfl
  · exact fun _ _ => rfl
  · exact fun _ _ => rfl
  · exact fun _ ended => nomatch ended
  · exact fun _ _ => rfl

theorem Taken.take_line (taken : live.Taken) (text : String) : (live.takeLine text).Taken := by
  unfold takeLine
  split
  · exact taken
  · exact taken
  · exact fun _ ended => nomatch ended
  · exact fun _ ended => nomatch ended

theorem Taken.advance (taken : live.Taken) (move : LiveMove) :
    (live.advance runner move).Taken := by
  cases move with
  | work place =>
      intro failure ended
      rw [Live.advance, work_reader] at ended
      rw [Live.advance, work_awaited]
      exact taken failure ended
  | collect =>
      rw [Live.advance, Live.collect]
      split
      · exact taken.settle_result _
      · exact taken
  | line text => exact while_reading_keeps taken fun _ => taken.take_line text
  | garbled =>
      apply while_reading_keeps taken
      intro _ failure ended
      cases ended
  | close =>
      apply while_reading_keeps taken
      intro _ failure ended
      cases awaited : live.awaited with
      | none => rfl
      | some place =>
          rw [awaited] at ended
          cases ended

theorem Taken.advance_all (taken : live.Taken) (moves : List LiveMove) :
    (live.advanceAll runner moves).Taken := by
  induction moves generalizing live with
  | nil => exact taken
  | cons move rest induction => exact induction (taken.advance move)

/-! A run that has ended. -/

theorem Resting.released (resting : live.Resting runner session) : live.Released :=
  ⟨resting.landed, resting.idle, resting.awaited⟩

theorem Flying.ended_at_input {earlier : List LiveTask} {event : String} {stage : Stage}
    {result : Except LiveFailure Unit}
    (flying : live.Flying runner session earlier event stage) (ended : live.ended = some result) :
    result = .error .input := by
  obtain reading | closing | garbled | ⟨_, next, admitting⟩ := flying.reader <;>
    simp_all [Live.ended]

/-- What a run reports of the events that it dispatched: their outcomes, or the failure of the last
one. Either way there is no other. -/
def Reports (runner : Runner) (session : Session) (live : Live)
    (result : Except LiveFailure Unit) : Prop :=
  (runner.inSequence session live.dispatched).result.mapError .machine =
    result.map fun _ => live.outcomes

/-- Unless it ends at unreadable input, a run ends with all events done, all results taken and the
gate open. -/
theorem Orderly.released (orderly : live.Orderly runner session) (taken : live.Taken)
    {result : Except LiveFailure Unit} (ended : live.ended = some result)
    (readable : result ≠ .error .input) :
    live.Released ∧ live.Reports runner session result := by
  cases orderly with
  | resting resting =>
      refine ⟨resting.released, ?_⟩
      obtain reading | completed | garbled := resting.reader
      · simp [Live.ended, reading] at ended
      · have done : result = .ok () := by simpa [Live.ended, completed, eq_comm] using ended
        rw [Reports, resting.taken, done]
        rfl
      · have unreadable : result = .error .input := by
          simpa [Live.ended, garbled, eq_comm] using ended
        exact absurd unreadable readable
  | flying earlier event stage flying => exact absurd (flying.ended_at_input ended) readable
  | stopped failure stopped =>
      have failed : result = .error (.machine failure) := by
        simpa [Live.ended, stopped.reader, eq_comm] using ended
      refine ⟨⟨stopped.landed, stopped.idle, taken failure stopped.reader⟩, ?_⟩
      rw [Reports, stopped.failed, failed]
      rfl

/-! The next run. -/

theorem machine_free_of_landed (landed : live.underWay = []) :
    (live.tasks.any fun task => task.stage.holdsMachine) = false := by
  rw [List.any_eq_false]
  intro task member
  have finished := List.filter_eq_nil_iff.mp landed task member
  obtain ⟨result, stage⟩ := Stage.done_of_not_under_way (by simpa using finished)
  simp [stage, Stage.holdsMachine]

theorem Settled.started (settled : live.Settled runner session) : live.session.started = true := by
  rw [settled.session_eq]
  exact Runner.in_sequence_started session live.dispatched

theorem begin_of_started (started : session.started = true) :
    begin runner session =
      { session := session, gate := .idle, tasks := [], awaited := none, reader := .reading,
        outcomes := [], ignored := 0, emitted := [] } := by
  simp [begin, Runner.start_of_started started, Run.done]

/-- The next run reads, and dispatches the first event that it is asked for. -/
theorem Released.accepts (released : live.Released) (settled : live.Settled runner session)
    {text event : String} (asks : eventIn? text = some event) :
    ((live.resume runner).advance runner (.line text)).dispatched =
      live.dispatched ++ [event] := by
  have resumed : live.resume runner =
      { live with awaited := none, reader := .reading, outcomes := [], ignored := 0 } := by
    simp [resume, machine_free_of_landed released.landed, begin_of_started settled.started]
  have reading : (live.resume runner).reader = .reading := by rw [resumed]
  have idle : (live.resume runner).gate = .idle := by rw [resumed, released.idle]
  have nothing : (live.resume runner).awaited = none := by rw [resumed]
  rw [Live.advance, while_reading_of_reading reading, take_line_launched asks idle nothing,
    dispatched_launch, resumed]
  rfl

/-! A run that has ended at unreadable input. -/

namespace Flying

variable {earlier : List LiveTask} {event : String} {stage : Stage}

def lastCall (runner : Runner) (session : Session) (earlier : List LiveTask) (event : String) :
    Run Outcome :=
  runner.dispatch (runner.inSequence session (earlier.map LiveTask.event)).session event

theorem work_on (flying : live.Flying runner session earlier event stage) (steps : Nat) :
    ∃ next, (live.advanceAll runner (List.replicate steps (.work earlier.length))).Flying
        runner session earlier event next ∧
      next.stepsLeft (lastCall runner session earlier event) =
        stage.stepsLeft (lastCall runner session earlier event) - steps := by
  -- The call stays the same along the way, so the steps that are left are counted against it.
  induction steps generalizing live stage with
  | zero => exact ⟨stage, flying, rfl⟩
  | succ steps induction =>
      obtain ⟨next, moved, left⟩ := induction flying.work
      have stepped := Stage.steps_left_next (lastCall runner session earlier event) stage
      refine ⟨next, moved, ?_⟩
      rw [left, ← lastCall, stepped]
      omega

/-- The event that is left under way comes to its end, and then the gate is open. -/
theorem lands (flying : live.Flying runner session earlier event stage)
    (ended : live.reader = .ended (.error .input)) :
    ∃ steps, let later := live.advanceAll runner (List.replicate steps (.work earlier.length))
      later.underWay = [] ∧ later.gate = .idle := by
  refine ⟨stage.stepsLeft (lastCall runner session earlier event), ?_⟩
  extract_lets later
  obtain ⟨next, moved, left⟩ := flying.work_on (stage.stepsLeft (lastCall ..))
  have landed := Stage.not_under_way_of_no_steps (left.trans (Nat.sub_self _))
  have still : later.reader = .ended (.error .input) := (advance_all_of_ended ended _).1
  have nobody : ¬ ∃ next, later.reader = .admitting next := by simp [still]
  refine ⟨?_, moved.idle landed nobody⟩
  rw [moved.under_way_eq, landed]
  rfl

end Flying

/-- What a run that ended at unreadable input has left behind: the gate is closed as long as an event
is under way. The result of the last event may be left to be taken; then it is never taken, but
the worker comes to an end and opens the gate. -/
structure LeftBehind (runner : Runner) (live : Live) : Prop where
  idle_iff : live.gate = .idle ↔ live.underWay = []
  released : live.awaited = none → live.Released
  untaken : ∀ place, live.awaited = some place → live.tasks.length = place + 1 ∧
    ∀ moves, (live.advanceAll runner moves).awaited = some place ∧
      (live.advanceAll runner moves).outcomes = live.outcomes
  lands : ∀ place, live.awaited = some place → ∃ steps,
    let later := live.advanceAll runner (List.replicate steps (.work place))
    later.underWay = [] ∧ later.gate = .idle

theorem Guarded.idle_iff (guarded : live.Guarded) {result : Except LiveFailure Unit}
    (ended : live.reader = .ended result) : live.gate = .idle ↔ live.underWay = [] := by
  have closed := guarded.closed_iff
  cases gate : live.gate with
  | idle => simpa [gate, ended] using closed
  | processing => simpa [gate, ended] using closed

theorem Orderly.left_behind (orderly : live.Orderly runner session) (guarded : live.Guarded)
    (ended : live.reader = .ended (.error .input)) : live.LeftBehind runner := by
  have idle_iff := guarded.idle_iff ended
  -- Nothing is left of a run at rest, and one that failed has not ended at its input.
  cases orderly with
  | resting resting =>
      have nothing {place : Nat} (awaited : live.awaited = some place) : False :=
        nomatch resting.awaited.symm.trans awaited
      exact ⟨idle_iff, fun _ => resting.released, fun _ awaited => (nothing awaited).elim,
        fun _ awaited => (nothing awaited).elim⟩
  | flying earlier event stage flying =>
      have last {place : Nat} (awaited : live.awaited = some place) : earlier.length = place :=
        Option.some.inj (flying.awaited.symm.trans awaited)
      refine ⟨idle_iff, fun nothing => (nomatch flying.awaited.symm.trans nothing), ?_, ?_⟩
      · intro place awaited
        obtain rfl := last awaited
        refine ⟨by simp [flying.tasks], ?_⟩
        intro moves
        obtain ⟨_, same, outcomes⟩ := advance_all_of_ended ended moves
        exact ⟨same.trans awaited, outcomes⟩
      · intro place awaited
        obtain rfl := last awaited
        exact flying.lands ended
  | stopped failure stopped => nomatch ended.symm.trans stopped.reader

/-- A run that ends with its input or with a failure has let go of the gate and has no event under
way. It reports each event that it dispatched, and the next run on the session dispatches the first
event that it is asked for. A run that ends at bytes that are not text gives none of this as long as
an event is under way; that event goes on to its end, and what became of it is never reported. -/
theorem gate_released_unless_garbled (runner : Runner) (session : Session)
    (moves : List LiveMove) :
    let live := (begin runner session).advanceAll runner moves
    (∀ result, live.ended = some result → result ≠ .error .input →
        live.Released ∧ live.Reports runner session result ∧
          ∀ text event, eventIn? text = some event →
            ((live.resume runner).advance runner (.line text)).dispatched =
              live.dispatched ++ [event]) ∧
      (live.ended = some (.error .input) → live.LeftBehind runner) := by
  intro live
  have orderly : live.Orderly runner session := reached_orderly runner session moves
  have taken : live.Taken := (begin_taken runner session).advance_all moves
  constructor
  · intro result ended readable
    obtain ⟨released, reports⟩ := orderly.released taken ended readable
    refine ⟨released, reports, ?_⟩
    intro text event asks
    exact released.accepts (orderly.settled released.landed) asks
  · intro ended
    have guarded : live.Guarded := (begin_guarded runner session).advance_all runner moves
    exact orderly.left_behind guarded (reader_of_ended ended)

/-! Runs on one session, each begun when the one before it has ended. -/

/-- The situations that moves lead to, and further runs behind a run that has ended. -/
inductive Arises (runner : Runner) : Live → Prop where
  | begun (session : Session) : Arises runner (begin runner session)
  | moved {live : Live} (arises : Arises runner live) (move : LiveMove) :
      Arises runner (live.advance runner move)
  | resumed {live : Live} (arises : Arises runner live) (ended : live.ended ≠ none) :
      Arises runner (live.resume runner)

theorem resume_of_free (free : (live.tasks.any fun task => task.stage.holdsMachine) = false) :
    live.resume runner =
      { begin runner live.session with
        gate := live.gate
        tasks := live.tasks
        emitted := live.emitted ++ (begin runner live.session).emitted } := by
  simp only [resume, free, Bool.false_eq_true, if_false]

/-- An event that goes on keeps the gate closed behind the end of its run. -/
theorem Guarded.resume (guarded : live.Guarded) (ended : live.ended ≠ none) (runner : Runner) :
    (live.resume runner).Guarded := by
  cases free : live.tasks.any fun task => task.stage.holdsMachine with
  | true =>
      rw [Live.resume, free, if_pos rfl]
      exact guarded
  | false =>
      rw [resume_of_free free]
      exact guarded.turned (unadmitted_of_ended ended) rfl rfl (.inr rfl)
        (begin_unadmitted runner live.session)

theorem Arises.guarded (arises : live.Arises runner) : live.Guarded := by
  induction arises with
  | begun session => exact begin_guarded runner session
  | moved _ move guarded => exact guarded.advance runner move
  | resumed _ ended guarded => exact guarded.resume ended runner

/-- A further run may begin while an event of a run before it goes on, as it does behind bytes that
are not text. Even so, at most one event is under way and the gate is closed exactly as long as it
has a guard, so each line is dispatched once or dropped and counted once, unless it comes behind a
failure that ends the run. -/
theorem resumed_lines_accounted_for (arises : live.Arises runner) (ended : live.ended ≠ none)
    (free : (live.tasks.any fun task => task.stage.holdsMachine) = false)
    (moves : List LiveMove) :
    let later := (live.resume runner).advanceAll runner moves
    let lines := (live.resume runner).handled runner moves
    later.underWay.length ≤ 1 ∧
      (later.gate = .processing ↔
        later.underWay ≠ [] ∨ ∃ event, later.reader = .admitting event) ∧
      later.dispatched ++ later.entering = live.dispatched ++ lines.admitted ∧
      (later.ended ≠ none → later.dispatched = live.dispatched ++ lines.admitted) ∧
      later.ignored = lines.ignored ∧
      ∀ event failure, (event, .stopped failure) ∈ lines →
        lines.getLast? = some (event, .stopped failure) ∧ later.Fails failure := by
  intro later lines
  have guarded : (live.resume runner).Guarded := arises.guarded.resume ended runner
  have last : later.Guarded := guarded.advance_all runner moves
  have tallies : (live.resume runner).Tallies later lines := guarded.tallies_advance_all runner moves
  have before : (live.resume runner).entering = [] := by
    rw [resume_of_free free]
    exact entering_of_unadmitted (begin_unadmitted runner live.session)
  have dispatched : (live.resume runner).dispatched = live.dispatched := by
    rw [resume_of_free free]
    rfl
  have uncounted : (live.resume runner).ignored = 0 := by
    rw [resume_of_free free]
    rfl
  have admitted : later.dispatched ++ later.entering = live.dispatched ++ lines.admitted := by
    rw [tallies.admitted, before, dispatched, List.append_nil]
  refine ⟨last.one_under_way, last.closed_iff, admitted, ?_, ?_, ?_⟩
  · intro finished
    rw [← admitted, entering_of_unadmitted (unadmitted_of_ended finished), List.append_nil]
  · rw [tallies.ignored, uncounted, Nat.zero_add]
  · intro event failure stopped
    exact guarded.stopped_last moves stopped

end Live

/-- A kiln that pauses before everything it does, and cannot be vented while it is cold. -/
def kilnMachine : Machine where
  name := "Kiln"
  attributes := [⟨"heat", .int, none⟩]
  events := ["fire", "vent"]
  commands := []
  states :=
    [{ name := "Cold"
       transitions :=
         [⟨"fire", none, "Hot", [.timeout 10]⟩,
          ⟨"vent", none, "Cold",
            [.timeout 10, .assign "heat" (.binary .div (.reference "heat") (.reference "heat"))]⟩]
       entry := [] },
     { name := "Hot", transitions := [], entry := [] }]
  initial := "Cold"

def kilnRunner : Runner := ⟨kilnMachine, .initialOnly, true⟩

def kilnSession : Session := ⟨Environment.empty.set "heat" (.int Word.zero), "Cold", false⟩

def kilnMoves : List LiveMove :=
  [.line "vent", .work 0, .work 0, .work 0, .close, .work 0, .work 0, .collect]

open Live in
theorem kiln_gate_released :
    let failed := (begin kilnRunner kilnSession).advanceAll kilnRunner kilnMoves
    let garbled := (begin kilnRunner kilnSession).advanceAll kilnRunner [.line "vent", .garbled]
    failed.ended = some (.error (.machine (.evaluation .divisionByZero))) ∧
      failed.Released ∧
      ((failed.resume kilnRunner).advance kilnRunner (.line "fire")).dispatched =
        ["vent", "fire"] ∧
      garbled.ended = some (.error .input) ∧ garbled.awaited = some 0 ∧
      ∃ steps, let later := garbled.advanceAll kilnRunner (List.replicate steps (.work 0))
        later.underWay = [] ∧ later.gate = .idle := by
  intro failed garbled
  have ended : failed.ended = some (.error (.machine (.evaluation .divisionByZero))) := rfl
  have unreadable : garbled.ended = some (.error .input) := rfl
  obtain ⟨released, _, accepts⟩ :=
    (gate_released_unless_garbled kilnRunner kilnSession kilnMoves).1 _ ended (by simp)
  have behind :=
    (gate_released_unless_garbled kilnRunner kilnSession [.line "vent", .garbled]).2 unreadable
  exact ⟨ended, released, accepts "fire" "fire" rfl, unreadable, rfl, behind.lands 0 rfl⟩

open Live in
/-- The run has ended, the event has failed since, and the first line of the next run is dropped. -/
theorem gate_closed_behind_garbled :
    let ended := (begin kilnRunner kilnSession).advanceAll kilnRunner [.line "vent", .garbled]
    let later := ended.advanceAll kilnRunner (List.replicate 5 (.work 0))
    let next := (ended.resume kilnRunner).advance kilnRunner (.line "fire")
    ended.ended = some (.error .input) ∧ ended.gate = .processing ∧ ended.underWay.length = 1 ∧
      next.dispatched = ["vent"] ∧ next.ignored = 1 ∧
      later.tasks.map LiveTask.stage = [.done (.error (.evaluation .divisionByZero))] ∧
      later.ended = some (.error .input) ∧ later.outcomes = [] :=
  ⟨rfl, rfl, rfl, rfl, rfl, rfl, rfl, rfl⟩

end StateMachine
