import StateMachine.Proofs.Session.Journal

/-!
Pauses and the rest of a session. A run with pauses is a run without them in which every delay line
is followed by its pause: sessions, results and traces are the same, whichever way the calls end.
-/

set_option autoImplicit false

namespace StateMachine

def TraceLine.delay? : TraceLine → Option UInt64
  | .delay millis => some millis
  | _ => none

def delaysOf (lines : List TraceLine) : List UInt64 := lines.filterMap TraceLine.delay?

def TraceLine.paced (honored : Bool) (line : TraceLine) : List Emission :=
  .line line :: if honored then line.delay?.toList.map .pause else []

/-- A trace with the pauses that it announces, or without any. -/
def pacedTrace (honored : Bool) (lines : List TraceLine) : List Emission :=
  lines.flatMap (TraceLine.paced honored)

theorem paced_trace_append (honored : Bool) (first second : List TraceLine) :
    pacedTrace honored (first ++ second) = pacedTrace honored first ++ pacedTrace honored second :=
  List.flatMap_append

theorem TraceLine.trace_paced (honored : Bool) (line : TraceLine) :
    traceOf (line.paced honored) = [line] := by
  cases honored with
  | false => rfl
  | true => exact trace_remark line line.delay?.toList

theorem trace_paced_trace (honored : Bool) (lines : List TraceLine) :
    traceOf (pacedTrace honored lines) = lines := by
  induction lines with
  | nil => rfl
  | cons line rest induction =>
      have begins : pacedTrace honored (line :: rest) =
          line.paced honored ++ pacedTrace honored rest := List.flatMap_cons
      rw [begins, trace_append, TraceLine.trace_paced, induction, List.singleton_append]

theorem pauses_append (first second : List Emission) :
    pausesOf (first ++ second) = pausesOf first ++ pausesOf second :=
  List.filterMap_append

theorem TraceLine.pauses_paced (honored : Bool) (line : TraceLine) :
    pausesOf (line.paced honored) = if honored then line.delay?.toList else [] := by
  cases honored with
  | false => rfl
  | true => cases line <;> rfl

theorem pauses_paced_trace (honored : Bool) (lines : List TraceLine) :
    pausesOf (pacedTrace honored lines) = if honored then delaysOf lines else [] := by
  induction lines with
  | nil => cases honored <;> rfl
  | cons line rest induction =>
      have begins : pacedTrace honored (line :: rest) =
          line.paced honored ++ pacedTrace honored rest := List.flatMap_cons
      rw [begins, pauses_append, TraceLine.pauses_paced, induction]
      cases honored with
      | false => rfl
      | true =>
          simp only [if_true, delaysOf, List.filterMap_cons]
          cases line.delay? <;> rfl

namespace Run

variable {α β : Type}

def paced (honored : Bool) (run : Run α) : Run α :=
  { run with emitted := pacedTrace honored (traceOf run.emitted) }

theorem paced_and_then (honored : Bool) (run : Run α) (next : Session → α → Run β) :
    (run.andThen next).paced honored =
      (run.paced honored).andThen fun session value => (next session value).paced honored := by
  obtain ⟨session, emitted, result⟩ := run
  cases result with
  | error failure => rfl
  | ok value => simp only [andThen, paced, trace_append, paced_trace_append]

theorem paced_map (honored : Bool) (run : Run α) (reply : α → β) :
    (run.map reply).paced honored = (run.paced honored).map reply := rfl

theorem paced_done (honored : Bool) (session : Session) (value : α) :
    (done session value).paced honored = done session value := rfl

theorem paced_silent (honored : Bool) {run : Run α} (silent : run.emitted = []) :
    run.paced honored = run := by
  obtain ⟨session, emitted, result⟩ := run
  cases silent
  rfl

/-- A line that announces nothing is all that is emitted with it. -/
theorem paced_say (honored : Bool) (session : Session) (line : TraceLine)
    (instant : line.delay? = none) (value : α) :
    (say session line value).paced honored = say session line value := by
  cases honored with
  | false => rfl
  | true => simp [say, paced, traceOf, pacedTrace, TraceLine.paced, instant]

end Run

namespace Runner

def withPauses (runner : Runner) (honored : Bool) : Runner :=
  { runner with options := { runner.options with honorDelays := honored } }

variable (runner : Runner) (honored : Bool)

theorem with_pauses_machine : (runner.withPauses honored).machine = runner.machine := rfl

theorem with_pauses_entry :
    (runner.withPauses honored).options.entry = runner.options.entry := rfl

/-- Among the actions only a timeout knows whether pauses are made. -/
theorem run_action_paced (session : Session) (action : Action) :
    (runner.withPauses honored).runAction session action =
      (runner.runAction session action).paced honored := by
  cases action with
  | assign target value =>
      have silent : (runner.assign session target value).emitted = [] := by
        unfold assign
        repeat' split
        all_goals rfl
      exact (Run.paced_silent honored silent).symm
  | print parts =>
      simp only [runAction]
      split
      · rfl
      · rw [Run.paced_say honored session _ rfl]
  | timeout millis =>
      have traced (pauses : Bool) :
          traceOf (.line (.delay millis) :: if pauses then [Emission.pause millis] else []) =
            [.delay millis] := by
        cases pauses <;> rfl
      simp only [runAction, Run.paced, traced]
      cases honored <;> rfl
  | run command => rw [runAction, runAction, Run.paced_say honored session _ rfl]

theorem run_actions_paced (session : Session) (actions : List Action) :
    (runner.withPauses honored).runActions session actions =
      (runner.runActions session actions).paced honored := by
  induction actions generalizing session with
  | nil => rfl
  | cons action rest induction =>
      simp only [runActions, run_action_paced, induction, Run.paced_and_then]

theorem start_paced (session : Session) :
    (runner.withPauses honored).start session = (runner.start session).paced honored := by
  unfold start
  split
  · rfl
  · simp only [with_pauses_machine, run_actions_paced, Run.paced_and_then,
      Run.paced_say honored _ (.entered session.current) rfl]

theorem fire_paced (session : Session) (transition : Transition) (target : State) :
    (runner.withPauses honored).fire session transition target =
      (runner.fire session transition target).paced honored := by
  simp only [fire, with_pauses_entry, run_actions_paced, Run.paced_and_then, Run.paced_done,
    Run.paced_say honored _ (.transitioned session.current target.name) rfl]
  rfl

theorem handle_paced (session : Session) (event : String) :
    (runner.withPauses honored).handle session event =
      (runner.handle session event).paced honored := by
  simp only [handle, with_pauses_machine, fire_paced]
  split
  · split
    · rw [Run.paced_say honored session _ rfl]
    · split
      · rfl
      · rfl
      · rw [Run.paced_say honored session _ rfl]
      · split
        · rfl
        · rfl
  · rw [Run.paced_say honored session _ rfl]

theorem dispatch_paced (session : Session) (event : String) :
    (runner.withPauses honored).dispatch session event =
      (runner.dispatch session event).paced honored := by
  simp only [dispatch, start_paced, handle_paced, Run.paced_and_then]

theorem dispatch_all_paced (session : Session) (events : List String) :
    (runner.withPauses honored).dispatchAll session events =
      (runner.dispatchAll session events).paced honored := by
  induction events generalizing session with
  | nil => rfl
  | cons event rest induction =>
      simp only [dispatchAll, dispatch_paced, induction, Run.paced_and_then, Run.paced_done]

theorem run_batch_paced (session : Session) (events : List String) :
    (runner.withPauses honored).runBatch session events =
      (runner.runBatch session events).paced honored := by
  simp only [runBatch, with_pauses_machine, start_paced, dispatch_all_paced]
  split
  · rw [Run.paced_and_then]
  · rfl

theorem reset_paced (session : Session) :
    (runner.withPauses honored).reset session = (runner.reset session).paced honored := by
  simp only [reset, with_pauses_machine]
  repeat' split
  all_goals rfl

theorem call_paced (session : Session) (call : Call) :
    (runner.withPauses honored).call session call = (runner.call session call).paced honored := by
  cases call with
  | start => rw [Runner.call, Runner.call, start_paced, Run.paced_map]
  | dispatch event => rw [Runner.call, Runner.call, dispatch_paced, Run.paced_map]
  | runBatch events => rw [Runner.call, Runner.call, run_batch_paced, Run.paced_map]
  | reset => rw [Runner.call, Runner.call, reset_paced, Run.paced_map]

theorem runs_paced (session : Session) (calls : List Call) :
    (runner.withPauses honored).runs session calls =
      (runner.runs session calls).map (Run.paced honored) := by
  induction calls generalizing session with
  | nil => rfl
  | cons call rest induction =>
      have stands : ((runner.call session call).paced honored).session =
          (runner.call session call).session := rfl
      simp only [runs, call_paced, stands, induction, List.map_cons]

/-- Whether pauses are made changes neither the session nor any result or trace line, also behind
calls that fail. Where they are made they are the announced ones in their order, and otherwise there
are none. -/
theorem pauses_apart (machine : Machine) (entry : EntryPolicy) (session : Session)
    (calls : List Call) :
    let patient : Runner := ⟨machine, entry, true⟩
    let hasty : Runner := ⟨machine, entry, false⟩
    (hasty.runs session calls).map Run.result = (patient.runs session calls).map Run.result ∧
      (hasty.runs session calls).map Run.session = (patient.runs session calls).map Run.session ∧
      (hasty.runs session calls).map (fun run => traceOf run.emitted) =
        (patient.runs session calls).map (fun run => traceOf run.emitted) ∧
      (patient.runs session calls).map (fun run => pausesOf run.emitted) =
        (patient.runs session calls).map (fun run => delaysOf (traceOf run.emitted)) ∧
      (hasty.runs session calls).flatMap (fun run => pausesOf run.emitted) = [] := by
  intro patient hasty
  -- Both runners are the patient one with pauses set, and so are its own runs.
  have patiently : patient.runs session calls =
      (patient.runs session calls).map (Run.paced true) := patient.runs_paced true session calls
  have hastily : hasty.runs session calls = (patient.runs session calls).map (Run.paced false) :=
    patient.runs_paced false session calls
  refine ⟨?_, ?_, ?_, ?_, ?_⟩
  · rw [hastily, List.map_map]
    rfl
  · rw [hastily, List.map_map]
    rfl
  · rw [hastily, List.map_map]
    apply List.map_congr_left
    intro run _
    exact trace_paced_trace false _
  · rw [patiently, List.map_map, List.map_map]
    apply List.map_congr_left
    intro run _
    calc pausesOf (run.paced true).emitted
        = delaysOf (traceOf run.emitted) := pauses_paced_trace true _
      _ = delaysOf (traceOf (run.paced true).emitted) := by
          rw [Run.paced, trace_paced_trace]
  · rw [hastily, List.flatMap_map, List.flatMap_eq_nil_iff]
    intro run _
    exact pauses_paced_trace false _

end Runner

end StateMachine
