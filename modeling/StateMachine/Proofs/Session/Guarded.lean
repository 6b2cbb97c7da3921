import Mathlib.Data.List.Basic
import StateMachine.Session.Live

/-!
Who has the guard of the gate. Whatever the reader and the workers do, at most one event is under
way, which is the last that was dispatched, and the gate is closed exactly while an event is under
way or is being admitted. None of this depends on what the machine does.
-/

set_option autoImplicit false

namespace StateMachine

namespace Stage

/-- The worker has the guard of the gate. -/
def isUnderWay : Stage → Bool
  | .done _ => false
  | _ => true

theorem done_of_not_under_way {stage : Stage} (landed : stage.isUnderWay = false) :
    ∃ result, stage = .done result := by
  cases stage with
  | done result => exact ⟨result, rfl⟩
  | _ => nomatch landed

end Stage

namespace Live

def underWay (live : Live) : List LiveTask := live.tasks.filter fun task => task.stage.isUnderWay

def dispatched (live : Live) : List String := live.tasks.map LiveTask.event

/-- The last worker has the guard until it is done, and the reader has it while it admits an event.
It admits one only when the last worker is done and the result is still to be taken. -/
structure Guarded (live : Live) : Prop where
  earlier_landed : ∀ task ∈ live.tasks.dropLast, task.stage.isUnderWay = false
  awaits_last : ∀ place, live.awaited = some place → place + 1 = live.tasks.length
  closed_iff : live.gate = .processing ↔
    live.underWay ≠ [] ∨ ∃ event, live.reader = .admitting event
  admits_behind : ∀ event, live.reader = .admitting event →
    live.underWay = [] ∧ live.awaited ≠ none

variable {runner : Runner} {session : Session} {live : Live}

theorem unadmitted_of_ended (ended : live.ended ≠ none) (event : String) :
    live.reader ≠ .admitting event := by
  intro admitting
  simp [Live.ended, admitting] at ended

theorem begin_unadmitted (runner : Runner) (session : Session) (event : String) :
    (begin runner session).reader ≠ .admitting event := by
  simp only [begin]
  split <;> simp

theorem begin_guarded (runner : Runner) (session : Session) : (begin runner session).Guarded := by
  have nobody := begin_unadmitted runner session
  refine ⟨fun _ member => (nomatch member), fun _ awaited => (nomatch awaited), ?_, ?_⟩
  · constructor
    · exact fun closed => nomatch closed
    · rintro (busy | ⟨event, admitting⟩)
      · exact absurd rfl busy
      · exact absurd admitting (nobody event)
  · exact fun event admitting => absurd admitting (nobody event)

/-! Workers. -/

/-- A task that is done stays as it is. -/
theorem work_of_done {place : Nat}
    (finished : ∀ task, live.tasks[place]? = some task → task.stage.isUnderWay = false) :
    live.work runner place = live := by
  unfold work
  split
  · rfl
  · rename_i task found
    obtain ⟨result, stage⟩ := Stage.done_of_not_under_way (finished task found)
    rw [stage]

theorem work_of_landed (landed : live.underWay = []) (place : Nat) :
    live.work runner place = live := by
  apply work_of_done
  intro task found
  have finished := List.filter_eq_nil_iff.mp landed task (List.mem_of_getElem? found)
  simpa using finished

theorem work_reader (place : Nat) : (live.work runner place).reader = live.reader := by
  unfold work
  repeat' split
  all_goals rfl

theorem work_ignored (place : Nat) : (live.work runner place).ignored = live.ignored := by
  unfold work
  repeat' split
  all_goals rfl

theorem work_awaited (place : Nat) : (live.work runner place).awaited = live.awaited := by
  unfold work
  repeat' split
  all_goals rfl

theorem work_outcomes (place : Nat) : (live.work runner place).outcomes = live.outcomes := by
  unfold work
  repeat' split
  all_goals rfl

/-- A worker that moves goes on to another stage, and opens the gate when it is done. -/
theorem work_cases (runner : Runner) (live : Live) (place : Nat) :
    live.work runner place = live ∨
      ∃ task next, live.tasks[place]? = some task ∧ task.stage.isUnderWay = true ∧
        (live.work runner place).tasks = (live.setStage place next).tasks ∧
        (live.work runner place).gate = if next.isUnderWay then live.gate else .idle := by
  cases found : live.tasks[place]? with
  | none => exact .inl (work_of_done (by simp [found]))
  | some task =>
      obtain ⟨event, stage⟩ := task
      unfold work
      rw [found]
      cases stage with
      | waiting =>
          dsimp only
          split
          · exact .inl rfl
          · exact .inr ⟨_, _, rfl, rfl, rfl, rfl⟩
      | working pending after result =>
          cases pending with
          | nil => exact .inr ⟨_, .leaving result, rfl, rfl, rfl, rfl⟩
          | cons emission pending =>
              exact .inr ⟨_, .working pending after result, rfl, rfl, rfl, rfl⟩
      | leaving result => exact .inr ⟨_, .done result, rfl, rfl, rfl, rfl⟩
      | done result => exact .inl rfl

theorem work_dispatched (place : Nat) : (live.work runner place).dispatched = live.dispatched := by
  rcases work_cases runner live place with still | ⟨task, next, _, _, tasks, _⟩
  · rw [still]
  · rw [dispatched, dispatched, tasks, setStage]
    apply List.ext_getElem?
    intro other
    simp only [List.getElem?_map, List.getElem?_modify]
    split <;> cases live.tasks[other]? <;> rfl

theorem under_way_snoc {earlier : List LiveTask} {task : LiveTask}
    (tasks : live.tasks = earlier ++ [task])
    (landed : ∀ other ∈ earlier, other.stage.isUnderWay = false) :
    live.underWay = if task.stage.isUnderWay then [task] else [] := by
  have before : earlier.filter (fun other => other.stage.isUnderWay) = [] := by
    rw [List.filter_eq_nil_iff]
    intro other member
    simp [landed other member]
  rw [underWay, tasks, List.filter_append, before, List.nil_append]
  simp [List.filter_cons]

/-! What becomes of a line. -/

section Line

variable {text event : String}

theorem take_line_blank (blank : eventIn? text = none) : live.takeLine text = live := by
  simp only [takeLine, blank]

theorem take_line_refused (asks : eventIn? text = some event) (closed : live.gate = .processing) :
    live.takeLine text = { live with ignored := live.ignored + 1 } := by
  simp only [takeLine, asks, closed]

theorem take_line_launched (asks : eventIn? text = some event) (idle : live.gate = .idle)
    (nothing : live.awaited = none) :
    live.takeLine text = { live with gate := .processing }.launch event := by
  simp only [takeLine, asks, idle, nothing]

theorem take_line_admitted (asks : eventIn? text = some event) (idle : live.gate = .idle)
    {place : Nat} (awaited : live.awaited = some place) :
    live.takeLine text = { live with gate := .processing, reader := .admitting event } := by
  simp only [takeLine, asks, idle, awaited]

end Line

theorem while_reading_of_reading (reading : live.reader = .reading) (next : Live) :
    live.whileReading next = next := by
  simp only [whileReading, reading]

theorem while_reading_of_not_reading (busy : live.reader ≠ .reading) (next : Live) :
    live.whileReading next = live := by
  unfold whileReading
  split
  · rename_i reading
    exact absurd reading busy
  · rfl

/-- What the input brings matters only while the reader reads. -/
theorem while_reading_keeps {kept : Live → Prop} {next : Live} (holds : kept live)
    (heard : live.reader = .reading → kept next) : kept (live.whileReading next) := by
  by_cases reading : live.reader = .reading
  · rw [while_reading_of_reading reading]
    exact heard reading
  · rw [while_reading_of_not_reading reading]
    exact holds

theorem settle_result_of_ended {ending : Except LiveFailure Unit}
    (ended : live.reader = .ended ending) (result : Except Failure Outcome) :
    live.settleResult result = live := by
  cases result <;> simp only [settleResult, ended]

theorem collect_of_ended {ending : Except LiveFailure Unit} (ended : live.reader = .ended ending) :
    live.collect = live := by
  rw [Live.collect]
  split
  · exact settle_result_of_ended ended _
  · rfl

theorem reader_of_ended {result : Except LiveFailure Unit} (ended : live.ended = some result) :
    live.reader = .ended result := by
  unfold Live.ended at ended
  split at ended
  · next other stands =>
      cases ended
      exact stands
  · nomatch ended

theorem advance_of_ended {result : Except LiveFailure Unit} (ended : live.reader = .ended result)
    (move : LiveMove) :
    (live.advance runner move).reader = .ended result ∧
      (live.advance runner move).awaited = live.awaited ∧
      (live.advance runner move).outcomes = live.outcomes := by
  -- Workers may go on, but the reader hears and takes nothing any more.
  have busy : live.reader ≠ .reading := by simp [ended]
  cases move with
  | work place => exact ⟨(work_reader place).trans ended, work_awaited place, work_outcomes place⟩
  | collect =>
      rw [Live.advance, collect_of_ended ended]
      exact ⟨ended, rfl, rfl⟩
  | _ =>
      rw [Live.advance, while_reading_of_not_reading busy]
      exact ⟨ended, rfl, rfl⟩

theorem advance_all_of_ended {result : Except LiveFailure Unit}
    (ended : live.reader = .ended result) (moves : List LiveMove) :
    (live.advanceAll runner moves).reader = .ended result ∧
      (live.advanceAll runner moves).awaited = live.awaited ∧
      (live.advanceAll runner moves).outcomes = live.outcomes := by
  induction moves generalizing live with
  | nil => exact ⟨ended, rfl, rfl⟩
  | cons move rest induction =>
      obtain ⟨first, awaited, outcomes⟩ := advance_of_ended ended move
      obtain ⟨last, laterAwaited, laterOutcomes⟩ := induction first
      exact ⟨last, laterAwaited.trans awaited, laterOutcomes.trans outcomes⟩

namespace Guarded

theorem last_of_under_way (guarded : live.Guarded) {place : Nat} {task : LiveTask}
    (found : live.tasks[place]? = some task) (busy : task.stage.isUnderWay = true) :
    ∃ earlier, live.tasks = earlier ++ [task] ∧ place = earlier.length ∧
      ∀ other ∈ earlier, other.stage.isUnderWay = false := by
  have landed := guarded.earlier_landed
  obtain nothing | ⟨earlier, last, tasks⟩ := live.tasks.eq_nil_or_concat'
  · simp [nothing] at found
  · rw [tasks, List.dropLast_concat] at landed
    rw [tasks, List.getElem?_append] at found
    split at found
    · have finished := landed task (List.mem_of_getElem? found)
      rw [busy] at finished
      nomatch finished
    · obtain ⟨here, rfl⟩ : place - earlier.length = 0 ∧ last = task := by
        simpa [List.getElem?_singleton] using found
      exact ⟨earlier, tasks, by omega, landed⟩

theorem one_under_way (guarded : live.Guarded) : live.underWay.length ≤ 1 := by
  have landed := guarded.earlier_landed
  obtain nothing | ⟨earlier, last, tasks⟩ := live.tasks.eq_nil_or_concat'
  · simp [underWay, nothing]
  · rw [tasks, List.dropLast_concat] at landed
    rw [under_way_snoc tasks landed]
    split <;> simp

theorem unadmitted (guarded : live.Guarded) (busy : live.underWay ≠ []) (event : String) :
    live.reader ≠ .admitting event :=
  fun admitting => busy (guarded.admits_behind event admitting).1

theorem landed_of_idle (guarded : live.Guarded) (idle : live.gate = .idle) : live.underWay = [] := by
  have unguarded := mt guarded.closed_iff.mpr (by simp [idle])
  exact of_not_not (not_or.mp unguarded).1

theorem work (guarded : live.Guarded) (runner : Runner) (place : Nat) :
    (live.work runner place).Guarded := by
  rcases work_cases runner live place with still | ⟨task, next, found, busy, moved, gate⟩
  · rw [still]
    exact guarded
  · obtain ⟨earlier, tasks, rfl, landed⟩ := guarded.last_of_under_way found busy
    have under : live.underWay = [task] := by rw [under_way_snoc tasks landed, if_pos busy]
    have nobody := guarded.unadmitted (by simp [under])
    have closed : live.gate = .processing := guarded.closed_iff.mpr (.inl (by simp [under]))
    replace moved : (live.work runner earlier.length).tasks =
        earlier ++ [{ task with stage := next }] := by
      rw [moved, setStage, tasks, List.modify_eq_take_cons_drop (by simp)]
      simp
    refine ⟨?_, ?_, ?_, ?_⟩
    · rw [moved, List.dropLast_concat]
      exact landed
    · intro place awaited
      rw [work_awaited] at awaited
      have last := guarded.awaits_last place awaited
      simpa [moved, tasks] using last
    · rw [gate, closed, under_way_snoc moved landed, work_reader]
      cases next.isUnderWay <;> simp [nobody]
    · intro event admitting
      rw [work_reader] at admitting
      exact absurd admitting (nobody event)

theorem launch (landed : live.underWay = []) (closed : live.gate = .processing) (event : String) :
    (live.launch event).Guarded := by
  have finished : ∀ task ∈ live.tasks, task.stage.isUnderWay = false := by
    intro task member
    simpa using List.filter_eq_nil_iff.mp landed task member
  have under := @under_way_snoc (live.launch event) live.tasks ⟨event, .waiting⟩ rfl finished
  refine ⟨?_, ?_, ?_, ?_⟩
  · rw [Live.launch, List.dropLast_concat]
    exact finished
  · rintro place ⟨rfl⟩
    simp [Live.launch]
  · rw [under]
    simp [Live.launch, closed, Stage.isUnderWay]
  · exact fun other admitting => nomatch admitting

theorem turned (guarded : live.Guarded) (before : ∀ event, live.reader ≠ .admitting event)
    {later : Live} (tasks : later.tasks = live.tasks) (gate : later.gate = live.gate)
    (awaited : later.awaited = live.awaited ∨ later.awaited = none)
    (after : ∀ event, later.reader ≠ .admitting event) : later.Guarded := by
  have under : later.underWay = live.underWay := by rw [underWay, underWay, tasks]
  refine ⟨?_, ?_, ?_, fun event admitting => absurd admitting (after event)⟩
  · rw [tasks]
    exact guarded.earlier_landed
  · intro place last
    rw [tasks]
    obtain same | nothing := awaited
    · exact guarded.awaits_last place (same ▸ last)
    · exact nomatch nothing.symm.trans last
  · rw [gate, under, guarded.closed_iff]
    simp [before, after]

theorem landed_of_awaited (guarded : live.Guarded) {task : LiveTask}
    (awaited : live.awaitedTask? = some task) (finished : task.stage.isUnderWay = false) :
    live.underWay = [] := by
  obtain ⟨place, last, found⟩ := Option.bind_eq_some_iff.mp awaited
  have landed := guarded.earlier_landed
  have bound := guarded.awaits_last place last
  obtain nothing | ⟨earlier, other, tasks⟩ := live.tasks.eq_nil_or_concat'
  · simp [nothing] at found
  · rw [tasks, List.dropLast_concat] at landed
    obtain rfl : place = earlier.length := by simpa [tasks] using bound
    obtain rfl : other = task := by simpa [tasks] using found
    rw [under_way_snoc tasks landed, finished]
    rfl

/-- A failure drops the guard of an event that is being admitted; after an outcome the guard goes to
the worker of that event. -/
theorem settle_result (guarded : live.Guarded) (landed : live.underWay = [])
    (result : Except Failure Outcome) : (live.settleResult result).Guarded := by
  cases reader : live.reader with
  | ended ending =>
      rw [settle_result_of_ended reader]
      exact guarded
  | admitting event =>
      have closed := guarded.closed_iff.mpr (.inr ⟨event, reader⟩)
      cases result with
      | ok outcome =>
          simp only [settleResult, reader]
          refine launch ?_ ?_ event
          · exact landed
          · exact closed
      | error failure =>
          simp only [settleResult, reader]
          refine ⟨guarded.earlier_landed, fun _ last => (nomatch last), ?_,
            fun _ admitting => (nomatch admitting)⟩
          constructor
          · exact fun closed => nomatch closed
          · rintro (busy | ⟨event, admitting⟩)
            · exact absurd landed busy
            · exact nomatch admitting
  | reading =>
      cases result <;> simp only [settleResult, reader] <;>
        exact guarded.turned (by simp [reader]) rfl rfl (.inr rfl) (by simp)
  | closing =>
      cases result <;> simp only [settleResult, reader] <;>
        exact guarded.turned (by simp [reader]) rfl rfl (.inr rfl) (by simp)

theorem collect (guarded : live.Guarded) : live.collect.Guarded := by
  rw [Live.collect]
  split
  · next event result awaited => exact guarded.settle_result (guarded.landed_of_awaited awaited rfl) _
  · exact guarded

theorem take_line (guarded : live.Guarded) (reading : live.reader = .reading) (text : String) :
    (live.takeLine text).Guarded := by
  have nobody : ∀ event, live.reader ≠ .admitting event := by simp [reading]
  cases asks : eventIn? text with
  | none =>
      rw [take_line_blank asks]
      exact guarded
  | some event =>
      cases gate : live.gate with
      | processing =>
          rw [take_line_refused asks gate]
          exact guarded.turned nobody rfl rfl (.inl rfl) nobody
      | idle =>
          have landed := guarded.landed_of_idle gate
          cases awaited : live.awaited with
          | none =>
              rw [take_line_launched asks gate awaited]
              refine launch ?_ rfl event
              exact landed
          | some place =>
              rw [take_line_admitted asks gate awaited]
              refine ⟨guarded.earlier_landed, guarded.awaits_last, ?_, ?_⟩
              · simp
              · exact fun _ _ => ⟨landed, by simp [awaited]⟩

theorem advance (guarded : live.Guarded) (runner : Runner) (move : LiveMove) :
    (live.advance runner move).Guarded := by
  cases move with
  | work place => exact guarded.work runner place
  | collect => exact guarded.collect
  | line text => exact while_reading_keeps guarded fun reading => guarded.take_line reading text
  | garbled =>
      exact while_reading_keeps guarded fun reading =>
        guarded.turned (by simp [reading]) rfl rfl (.inl rfl) (by simp)
  | close =>
      exact while_reading_keeps guarded fun reading =>
        guarded.turned (by simp [reading]) rfl rfl (.inl rfl) (by cases live.awaited <;> simp)

theorem advance_all (guarded : live.Guarded) (runner : Runner) (moves : List LiveMove) :
    (live.advanceAll runner moves).Guarded := by
  induction moves generalizing live with
  | nil => exact guarded
  | cons move rest induction => exact induction (guarded.advance runner move)

end Guarded

end Live

end StateMachine
