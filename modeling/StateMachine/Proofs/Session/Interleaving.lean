import StateMachine.Proofs.Session.Guarded
import StateMachine.Proofs.Session.Sequence

/-!
Interleavings of the reader and the workers of a live session. In every interleaving the machine has
done what the events dispatched so far do one after another, up to the step that the worker under way
has come to.
-/

set_option autoImplicit false

namespace StateMachine

namespace Stage

/-- What is to be seen of the machine at this stage of a worker that makes the call `run` after the
calls `before`. -/
def Shows {α : Type} (before : Run α) (run : Run Outcome) (session : Session)
    (emitted : List Emission) : Stage → Prop
  | .waiting => session = before.session ∧ emitted = before.emitted
  | .working pending after result =>
      session = before.session ∧ emitted ++ pending = before.emitted ++ run.emitted ∧
        after = run.session ∧ result = run.result
  | .leaving result =>
      session = run.session ∧ emitted = before.emitted ++ run.emitted ∧ result = run.result
  | .done result =>
      session = run.session ∧ emitted = before.emitted ++ run.emitted ∧ result = run.result

def next (run : Run Outcome) : Stage → Stage
  | .waiting => .working run.emitted run.session run.result
  | .working (_ :: pending) after result => .working pending after result
  | .working [] _ result => .leaving result
  | .leaving result => .done result
  | .done result => .done result

end Stage

namespace Live

/-- The machine is as if the events dispatched so far had been handled one after another. -/
structure Settled (runner : Runner) (session : Session) (live : Live) : Prop where
  landed : live.underWay = []
  session_eq : live.session = (runner.inSequence session live.dispatched).session
  emitted_eq : live.emitted = (runner.inSequence session live.dispatched).emitted

/-- All results have been taken, and none is a failure. -/
structure Resting (runner : Runner) (session : Session) (live : Live) : Prop
    extends Settled runner session live where
  awaited : live.awaited = none
  taken : (runner.inSequence session live.dispatched).result = .ok live.outcomes
  idle : live.gate = .idle
  reader : live.reader = .reading ∨ live.reader = .ended (.ok ()) ∨
    live.reader = .ended (.error .input)

/-- The result of the last event has not been taken. -/
structure Flying (runner : Runner) (session : Session) (live : Live) (earlier : List LiveTask)
    (event : String) (stage : Stage) : Prop where
  tasks : live.tasks = earlier ++ [⟨event, stage⟩]
  landed : ∀ task ∈ earlier, task.stage.isUnderWay = false
  awaited : live.awaited = some earlier.length
  taken : (runner.inSequence session (earlier.map LiveTask.event)).result = .ok live.outcomes
  shows : stage.Shows (runner.inSequence session (earlier.map LiveTask.event))
    (runner.dispatch (runner.inSequence session (earlier.map LiveTask.event)).session event)
    live.session live.emitted
  reader : live.reader = .reading ∨ live.reader = .closing ∨
    live.reader = .ended (.error .input) ∨
    stage.isUnderWay = false ∧ ∃ next, live.reader = .admitting next
  guarded : live.gate = .processing ↔
    stage.isUnderWay = true ∨ ∃ next, live.reader = .admitting next

structure Stopped (runner : Runner) (session : Session) (live : Live) (failure : Failure) : Prop
    extends Settled runner session live where
  failed : (runner.inSequence session live.dispatched).result = .error failure
  idle : live.gate = .idle
  reader : live.reader = .ended (.error (.machine failure))

inductive Orderly (runner : Runner) (session : Session) (live : Live) : Prop where
  | resting (resting : live.Resting runner session)
  | flying (earlier : List LiveTask) (event : String) (stage : Stage)
      (flying : live.Flying runner session earlier event stage)
  | stopped (failure : Failure) (stopped : live.Stopped runner session failure)

variable {runner : Runner} {session : Session} {live : Live}

theorem begin_orderly (runner : Runner) (session : Session) :
    (begin runner session).Orderly runner session := by
  have nothing := @Runner.in_sequence_nil runner session
  cases outcome : (runner.start session).result with
  | ok _ =>
      refine .resting ⟨⟨rfl, ?_, ?_⟩, rfl, ?_, rfl, .inl ?_⟩ <;>
        simp [begin, dispatched, nothing, outcome, Except.map]
  | error failure =>
      refine .stopped failure ⟨⟨rfl, ?_, ?_⟩, ?_, rfl, ?_⟩ <;>
        simp [begin, dispatched, nothing, outcome, Except.map]

/-! Workers. -/

namespace Flying

variable {earlier : List LiveTask} {event : String} {stage : Stage}

theorem work_elsewhere (flying : live.Flying runner session earlier event stage) {place : Nat}
    (elsewhere : place ≠ earlier.length) : live.work runner place = live := by
  apply work_of_done
  intro task found
  rw [flying.tasks, List.getElem?_append] at found
  split at found
  · exact flying.landed task (List.mem_of_getElem? found)
  · have beyond : 1 ≤ place - earlier.length := by omega
    simp [List.getElem?_eq_none, beyond] at found

theorem unadmitted (flying : live.Flying runner session earlier event stage)
    (busy : stage.isUnderWay = true) :
    live.reader = .reading ∨ live.reader = .closing ∨ live.reader = .ended (.error .input) := by
  obtain reading | closing | garbled | ⟨finished, _⟩ := flying.reader
  · exact .inl reading
  · exact .inr (.inl closing)
  · exact .inr (.inr garbled)
  · rw [busy] at finished
    nomatch finished

theorem moved (flying : live.Flying runner session earlier event stage)
    (busy : stage.isUnderWay = true) {later : Live} {next : Stage}
    (tasks : later.tasks = (live.setStage earlier.length next).tasks)
    (awaited : later.awaited = live.awaited) (outcomes : later.outcomes = live.outcomes)
    (reader : later.reader = live.reader)
    (shows : next.Shows (runner.inSequence session (earlier.map LiveTask.event))
      (runner.dispatch (runner.inSequence session (earlier.map LiveTask.event)).session event)
      later.session later.emitted)
    (gate : later.gate = if next.isUnderWay then live.gate else .idle) :
    later.Flying runner session earlier event next := by
  have unadmitted := flying.unadmitted busy
  refine ⟨?_, flying.landed, awaited.trans flying.awaited, ?_, shows, ?_, ?_⟩
  · rw [tasks, setStage, flying.tasks, List.modify_eq_take_cons_drop (by simp)]
    simp
  · rw [outcomes]
    exact flying.taken
  · rw [reader]
    obtain reading | closing | garbled := unadmitted
    · exact .inl reading
    · exact .inr (.inl closing)
    · exact .inr (.inr (.inl garbled))
  · have closed : live.gate = .processing := flying.guarded.mpr (.inl busy)
    have nobody : ¬ ∃ next, live.reader = .admitting next := by
      obtain reading | closing | garbled := unadmitted <;> simp [*]
    rw [gate, reader, closed]
    cases next.isUnderWay <;> simp [nobody]

theorem machine_free (flying : live.Flying runner session earlier event .waiting) :
    (live.tasks.any fun task => task.stage.holdsMachine) = false := by
  rw [flying.tasks, List.any_eq_false]
  intro task member
  obtain before | last := List.mem_append.mp member
  · obtain ⟨result, stage⟩ := Stage.done_of_not_under_way (flying.landed task before)
    simp [stage, Stage.holdsMachine]
  · cases List.mem_singleton.mp last
    simp [Stage.holdsMachine]

/-- What a worker does in its next step is what the machine is seen to do. -/
theorem work (flying : live.Flying runner session earlier event stage) :
    (live.work runner earlier.length).Flying runner session earlier event
      (stage.next (runner.dispatch
        (runner.inSequence session (earlier.map LiveTask.event)).session event)) := by
  have found : live.tasks[earlier.length]? = some ⟨event, stage⟩ := by simp [flying.tasks]
  have shows := flying.shows
  unfold Live.work
  rw [found]
  cases stage with
  | waiting =>
      obtain ⟨session_eq, emitted_eq⟩ := shows
      simp only [flying.machine_free, Bool.false_eq_true, if_false]
      rw [session_eq]
      exact flying.moved rfl rfl rfl rfl rfl
        ⟨session_eq, congrArg (· ++ _) emitted_eq, rfl, rfl⟩ rfl
  | working pending after result =>
      obtain ⟨session_eq, emitted_eq, after_eq, result_eq⟩ := shows
      cases pending with
      | nil =>
          rw [List.append_nil] at emitted_eq
          exact flying.moved rfl rfl rfl rfl rfl ⟨after_eq, emitted_eq, result_eq⟩ rfl
      | cons emission pending =>
          rw [← List.singleton_append, ← List.append_assoc] at emitted_eq
          exact flying.moved rfl rfl rfl rfl rfl
            ⟨session_eq, emitted_eq, after_eq, result_eq⟩ rfl
  | leaving result => exact flying.moved rfl rfl rfl rfl rfl shows rfl
  | done result => exact flying

/-! The reader. -/

theorem awaited_task (flying : live.Flying runner session earlier event stage) :
    live.awaitedTask? = some ⟨event, stage⟩ := by
  simp [awaitedTask?, flying.awaited, flying.tasks]

theorem dispatched_eq (flying : live.Flying runner session earlier event stage) :
    live.dispatched = earlier.map LiveTask.event ++ [event] := by
  simp [dispatched, flying.tasks]

theorem under_way_eq (flying : live.Flying runner session earlier event stage) :
    live.underWay = if stage.isUnderWay then [⟨event, stage⟩] else [] :=
  under_way_snoc flying.tasks flying.landed

theorem settled {result : Except Failure Outcome}
    (flying : live.Flying runner session earlier event (.done result)) :
    live.Settled runner session := by
  obtain ⟨session_eq, emitted_eq, _⟩ := flying.shows
  refine ⟨flying.under_way_eq, ?_, ?_⟩
  · rw [flying.dispatched_eq, Runner.in_sequence_snoc flying.taken]
    exact session_eq
  · rw [flying.dispatched_eq, Runner.in_sequence_snoc flying.taken]
    exact emitted_eq

theorem result_eq {result : Except Failure Outcome}
    (flying : live.Flying runner session earlier event (.done result)) :
    (runner.inSequence session live.dispatched).result =
      result.map fun outcome => live.outcomes ++ [outcome] := by
  obtain ⟨_, _, result_eq⟩ := flying.shows
  rw [flying.dispatched_eq, Runner.in_sequence_snoc flying.taken, result_eq]

end Flying

theorem launch_flying (settled : live.Settled runner session)
    (taken : (runner.inSequence session live.dispatched).result = .ok live.outcomes)
    (closed : live.gate = .processing) (event : String) :
    (live.launch event).Flying runner session live.tasks event .waiting := by
  refine ⟨rfl, ?_, rfl, taken, ⟨settled.session_eq, settled.emitted_eq⟩, .inl rfl, ?_⟩
  · intro task member
    have finished := List.filter_eq_nil_iff.mp settled.landed task member
    simpa using finished
  · simp [launch, closed, Stage.isUnderWay]

theorem Resting.take_line (resting : live.Resting runner session) (text : String) :
    (live.takeLine text).Orderly runner session := by
  cases asks : eventIn? text with
  | none =>
      rw [take_line_blank asks]
      exact .resting resting
  | some event =>
      rw [take_line_launched asks resting.idle resting.awaited]
      have entered : ({ live with gate := .processing } : Live).Settled runner session :=
        ⟨resting.landed, resting.session_eq, resting.emitted_eq⟩
      exact .flying _ _ _ (launch_flying entered resting.taken rfl event)

namespace Flying

variable {earlier : List LiveTask} {event : String} {stage : Stage}

theorem finished_of_idle (flying : live.Flying runner session earlier event stage)
    (idle : live.gate = .idle) :
    stage.isUnderWay = false ∧ ¬ ∃ next, live.reader = .admitting next := by
  have unguarded := mt flying.guarded.mpr (by simp [idle])
  obtain ⟨landed, nobody⟩ := not_or.mp unguarded
  exact ⟨by simpa using landed, nobody⟩

theorem idle (flying : live.Flying runner session earlier event stage)
    (finished : stage.isUnderWay = false) (nobody : ¬ ∃ next, live.reader = .admitting next) :
    live.gate = .idle := by
  have closed := mt flying.guarded.mp (by simp [finished, nobody])
  cases gate : live.gate with
  | idle => rfl
  | processing => exact absurd gate closed

theorem take_line (flying : live.Flying runner session earlier event stage) (text : String) :
    (live.takeLine text).Flying runner session earlier event stage := by
  have ⟨tasks, landed, awaited, taken, shows, reader, guarded⟩ := flying
  cases asks : eventIn? text with
  | none =>
      rw [take_line_blank asks]
      exact flying
  | some next =>
      cases gate : live.gate with
      | processing =>
          rw [take_line_refused asks gate]
          exact ⟨tasks, landed, awaited, taken, shows, reader, guarded⟩
      | idle =>
          rw [take_line_admitted asks gate awaited]
          obtain ⟨finished, _⟩ := flying.finished_of_idle gate
          exact ⟨tasks, landed, awaited, taken, shows, .inr (.inr (.inr ⟨finished, next, rfl⟩)),
            by simp⟩

/-- A failure ends the run, and the guard of an event that waits at the gate is dropped. -/
theorem collect_failure {failure : Failure}
    (flying : live.Flying runner session earlier event (.done (.error failure))) :
    (live.settleResult (.error failure)).Orderly runner session := by
  have ⟨landed, session_eq, emitted_eq⟩ := flying.settled
  have failed : (runner.inSequence session live.dispatched).result = .error failure :=
    flying.result_eq
  obtain reading | closing | garbled | ⟨_, next, admitting⟩ := flying.reader
  · have idle := flying.idle rfl (by simp [reading])
    simp only [settleResult, reading]
    exact .stopped failure ⟨⟨landed, session_eq, emitted_eq⟩, failed, idle, rfl⟩
  · have idle := flying.idle rfl (by simp [closing])
    simp only [settleResult, closing]
    exact .stopped failure ⟨⟨landed, session_eq, emitted_eq⟩, failed, idle, rfl⟩
  · simp only [settleResult, garbled]
    exact .flying _ _ _ flying
  · simp only [settleResult, admitting]
    exact .stopped failure ⟨⟨landed, session_eq, emitted_eq⟩, failed, rfl, rfl⟩

/-- After an outcome the reader goes on, lets in the event that waits at the gate, or is done. -/
theorem collect_outcome {outcome : Outcome}
    (flying : live.Flying runner session earlier event (.done (.ok outcome))) :
    (live.settleResult (.ok outcome)).Orderly runner session := by
  have ⟨landed, session_eq, emitted_eq⟩ := flying.settled
  have taken : (runner.inSequence session live.dispatched).result =
      .ok (live.outcomes ++ [outcome]) := flying.result_eq
  obtain reading | closing | garbled | ⟨_, next, admitting⟩ := flying.reader
  · have idle := flying.idle rfl (by simp [reading])
    simp only [settleResult, reading]
    exact .resting ⟨⟨landed, session_eq, emitted_eq⟩, rfl, taken, idle, .inl rfl⟩
  · have idle := flying.idle rfl (by simp [closing])
    simp only [settleResult, closing]
    exact .resting ⟨⟨landed, session_eq, emitted_eq⟩, rfl, taken, idle, .inr (.inl rfl)⟩
  · simp only [settleResult, garbled]
    exact .flying _ _ _ flying
  · have closed : live.gate = .processing := flying.guarded.mpr (.inr ⟨next, admitting⟩)
    simp only [settleResult, admitting]
    have settled : ({ live with outcomes := live.outcomes ++ [outcome] } : Live).Settled runner
        session := ⟨landed, session_eq, emitted_eq⟩
    exact .flying _ _ _ (launch_flying settled taken closed next)

theorem collect (flying : live.Flying runner session earlier event stage) :
    live.collect.Orderly runner session := by
  rw [Live.collect, flying.awaited_task]
  cases stage with
  | done result =>
      cases result with
      | error failure => exact flying.collect_failure
      | ok outcome => exact flying.collect_outcome
  | _ => exact .flying _ _ _ flying

theorem turned (flying : live.Flying runner session earlier event stage)
    (reading : live.reader = .reading) {reader : Reader}
    (turned : reader = .closing ∨ reader = .ended (.error .input)) :
    ({ live with reader := reader } : Live).Flying runner session earlier event stage := by
  have ⟨tasks, landed, awaited, taken, shows, _, guarded⟩ := flying
  refine ⟨tasks, landed, awaited, taken, shows, ?_, ?_⟩
  · obtain closing | garbled := turned
    · exact .inr (.inl closing)
    · exact .inr (.inr (.inl garbled))
  · rw [guarded, reading]
    obtain closing | garbled := turned <;> simp [*]

end Flying

theorem Resting.turned (resting : live.Resting runner session) {reader : Reader}
    (turned : reader = .ended (.ok ()) ∨ reader = .ended (.error .input)) :
    ({ live with reader := reader } : Live).Resting runner session :=
  ⟨⟨resting.landed, resting.session_eq, resting.emitted_eq⟩, resting.awaited, resting.taken,
    resting.idle, .inr turned⟩

/-! One move. -/

theorem Resting.advance (resting : live.Resting runner session) (move : LiveMove) :
    (live.advance runner move).Orderly runner session := by
  have orderly : live.Orderly runner session := .resting resting
  cases move with
  | work place =>
      rw [Live.advance, work_of_landed resting.landed]
      exact orderly
  | collect =>
      rw [Live.advance, Live.collect, awaitedTask?, resting.awaited]
      exact orderly
  | line text => exact while_reading_keeps orderly fun _ => resting.take_line text
  | garbled => exact while_reading_keeps orderly fun _ => .resting (resting.turned (.inr rfl))
  | close =>
      exact while_reading_keeps orderly fun _ =>
        .resting (resting.turned (.inl (by rw [resting.awaited])))

theorem Flying.advance {earlier : List LiveTask} {event : String} {stage : Stage}
    (flying : live.Flying runner session earlier event stage) (move : LiveMove) :
    (live.advance runner move).Orderly runner session := by
  have orderly : live.Orderly runner session := .flying _ _ _ flying
  cases move with
  | work place =>
      by_cases last : place = earlier.length
      · subst last
        exact .flying _ _ _ flying.work
      · rw [Live.advance, flying.work_elsewhere last]
        exact orderly
  | collect => exact flying.collect
  | line text => exact while_reading_keeps orderly fun _ => .flying _ _ _ (flying.take_line text)
  | garbled =>
      exact while_reading_keeps orderly fun reading =>
        .flying _ _ _ (flying.turned reading (.inr rfl))
  | close =>
      exact while_reading_keeps orderly fun reading =>
        .flying _ _ _ (flying.turned reading (.inl (by rw [flying.awaited])))

theorem Stopped.advance {failure : Failure} (stopped : live.Stopped runner session failure)
    (move : LiveMove) : live.advance runner move = live := by
  have busy : live.reader ≠ .reading := by simp [stopped.reader]
  cases move with
  | work place => exact work_of_landed stopped.landed place
  | collect => exact collect_of_ended stopped.reader
  | _ => exact while_reading_of_not_reading busy _

theorem orderly_advance (orderly : live.Orderly runner session) (move : LiveMove) :
    (live.advance runner move).Orderly runner session := by
  cases orderly with
  | resting resting => exact resting.advance move
  | flying earlier event stage flying => exact flying.advance move
  | stopped failure stopped =>
      rw [stopped.advance]
      exact .stopped failure stopped

theorem orderly_advance_all (orderly : live.Orderly runner session) (moves : List LiveMove) :
    (live.advanceAll runner moves).Orderly runner session := by
  induction moves generalizing live with
  | nil => exact orderly
  | cons move rest induction => exact induction (orderly_advance orderly move)

theorem reached_orderly (runner : Runner) (session : Session) (moves : List LiveMove) :
    ((begin runner session).advanceAll runner moves).Orderly runner session :=
  orderly_advance_all (begin_orderly runner session) moves

/-! What holds wherever a run is. -/

namespace Orderly

theorem settled (orderly : live.Orderly runner session) (landed : live.underWay = []) :
    live.Settled runner session := by
  cases orderly with
  | resting resting => exact resting.toSettled
  | flying earlier event stage flying =>
      cases stage with
      | done result => exact flying.settled
      | _ =>
          rw [flying.under_way_eq] at landed
          nomatch landed
  | stopped failure stopped => exact stopped.toSettled

theorem completed (orderly : live.Orderly runner session)
    (completed : live.ended = some (.ok ())) : live.Resting runner session := by
  cases orderly with
  | resting resting => exact resting
  | flying earlier event stage flying =>
      obtain reading | closing | garbled | ⟨_, next, admitting⟩ := flying.reader <;>
        simp [ended, *] at completed
  | stopped failure stopped => simp [ended, stopped.reader] at completed

end Orderly

/-! A scheduled run is one of the interleavings. -/

def Reaches (runner : Runner) (live later : Live) : Prop :=
  ∃ moves, later = live.advanceAll runner moves

namespace Reaches

theorem refl (runner : Runner) (live : Live) : live.Reaches runner live := ⟨[], rfl⟩

theorem move (runner : Runner) (live : Live) (move : LiveMove) :
    live.Reaches runner (live.advance runner move) := ⟨[move], rfl⟩

theorem trans {between later : Live} (first : live.Reaches runner between)
    (second : between.Reaches runner later) : live.Reaches runner later := by
  obtain ⟨moves, rfl⟩ := first
  obtain ⟨more, rfl⟩ := second
  refine ⟨moves ++ more, ?_⟩
  induction moves generalizing live with
  | nil => rfl
  | cons move rest induction => exact induction

end Reaches

theorem settle_go_reaches (hold : Bool) (place : Nat) (pending : List Emission) :
    live.Reaches runner (settle.go runner hold live place pending).1 := by
  induction pending generalizing live with
  | nil => exact ⟨_, rfl⟩
  | cons emission pending induction =>
      have worked := Reaches.move runner live (.work place)
      cases emission with
      | line content => exact worked.trans induction
      | pause millis =>
          rw [settle.go]
          split
          · exact worked
          · exact worked.trans induction

theorem rouse_reaches : live.Reaches runner (live.rouse runner) := by
  unfold rouse
  split
  · exact .move runner live _
  · exact .refl runner live

theorem settle_reaches (hold : Bool) : live.Reaches runner (live.settle runner hold).1 := by
  unfold settle
  split
  · exact .refl runner live
  · exact rouse_reaches.trans (settle_go_reaches hold _ _)

theorem take_bytes_reaches (hold : Bool) (schedule : Schedule) (line : List UInt8) :
    schedule.live.Reaches runner (takeBytes runner hold schedule line).live := by
  unfold takeBytes
  extract_lets move read
  have moved : schedule.live.Reaches runner read := .move runner _ move
  split
  · exact moved
  · exact moved.trans (settle_reaches hold)

theorem feed_bytes_reaches (hold : Bool) (schedule : Schedule) (bytes : List UInt8) :
    schedule.live.Reaches runner (feedBytes runner hold schedule bytes).live := by
  induction bytes generalizing schedule with
  | nil => exact .refl runner _
  | cons byte rest induction =>
      rw [feedBytes]
      split
      · exact .refl runner _
      · split
        · exact (take_bytes_reaches hold { schedule with buffer := [] } _).trans (induction _)
        · exact induction _

theorem feed_reaches (hold : Bool) (schedule : Schedule) (given : Feed) :
    schedule.live.Reaches runner (feed runner hold schedule given).live := by
  cases given with
  | bytes bytes => exact feed_bytes_reaches hold schedule bytes
  | release =>
      rw [feed]
      split
      · exact settle_reaches hold
      · exact .refl runner _

theorem finish_reaches (schedule : Schedule) :
    schedule.live.Reaches runner (finish runner schedule) := by
  unfold finish
  extract_lets settled read
  have settles : schedule.live.Reaches runner settled := settle_reaches false
  have reads : settled.Reaches runner read := by
    unfold read
    split
    · exact .refl runner _
    · exact take_bytes_reaches false ⟨settled, false, []⟩ _
  exact (settles.trans reads).trans (.move runner read .close)

theorem run_reaches (runner : Runner) (hold : Bool) (session : Session) (feeds : List Feed) :
    (begin runner session).Reaches runner (run runner hold session feeds) := by
  have fed (schedule : Schedule) :
      schedule.live.Reaches runner (feeds.foldl (feed runner hold) schedule).live := by
    induction feeds generalizing schedule with
    | nil => exact .refl runner _
    | cons given rest induction => exact (feed_reaches hold schedule given).trans (induction _)
  exact (fed _).trans (finish_reaches _)

end Live

end StateMachine
