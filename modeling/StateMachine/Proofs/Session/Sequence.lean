import StateMachine.Session.Basic

/-!
Calls made one after another. Events that are dispatched in two groups are dispatched as one, and a
single event at the end adds its emissions and its outcome to what came before.
-/

set_option autoImplicit false

namespace StateMachine

namespace Run

variable {α β γ : Type} {run : Run α}

theorem and_then_of_ok {value : α} (succeeded : run.result = .ok value)
    (next : Session → α → Run β) :
    run.andThen next =
      ⟨(next run.session value).session, run.emitted ++ (next run.session value).emitted,
        (next run.session value).result⟩ := by
  simp only [andThen, succeeded]

theorem and_then_of_error {failure : Failure} (failed : run.result = .error failure)
    (next : Session → α → Run β) :
    run.andThen next = ⟨run.session, run.emitted, .error failure⟩ := by
  simp only [andThen, failed]

@[simp] theorem done_and_then (session : Session) (value : α) (next : Session → α → Run β) :
    (done session value).andThen next = next session value := by
  simp [andThen, done]

theorem and_then_assoc (next : Session → α → Run β) (last : Session → β → Run γ) :
    (run.andThen next).andThen last =
      run.andThen fun session value => (next session value).andThen last := by
  obtain ⟨session, emitted, result⟩ := run
  cases result with
  | error failure => rfl
  | ok value =>
      cases outcome : (next session value).result with
      | error failure => simp [andThen, outcome]
      | ok other => simp [andThen, outcome, List.append_assoc]

theorem and_then_eq_ok {next : Session → α → Run β} {value : β}
    (succeeded : (run.andThen next).result = .ok value) :
    ∃ first, run.result = .ok first ∧ (next run.session first).result = .ok value := by
  cases outcome : run.result with
  | error failure =>
      rw [and_then_of_error outcome] at succeeded
      nomatch succeeded
  | ok first =>
      rw [and_then_of_ok outcome] at succeeded
      exact ⟨first, rfl, succeeded⟩

end Run

namespace Runner

variable {runner : Runner} {session : Session}

theorem dispatch_all_append (session : Session) (first second : List String) :
    runner.dispatchAll session (first ++ second) =
      (runner.dispatchAll session first).andThen fun after outcomes =>
        (runner.dispatchAll after second).andThen fun final more =>
          .done final (outcomes ++ more) := by
  induction first generalizing session with
  | nil =>
      simp only [List.nil_append, dispatchAll, Run.done_and_then]
      cases outcome : (runner.dispatchAll session second).result with
      | error failure => rw [Run.and_then_of_error outcome, ← outcome]
      | ok outcomes => rw [Run.and_then_of_ok outcome]; simp [Run.done, ← outcome]
  | cons event rest induction =>
      simp only [List.cons_append, dispatchAll, induction, Run.and_then_assoc, Run.done_and_then]

/-- A start and then events one after another, up to the first failure. -/
def inSequence (runner : Runner) (session : Session) (events : List String) : Run (List Outcome) :=
  (runner.start session).andThen fun begun _ => runner.dispatchAll begun events

theorem in_sequence_nil (session : Session) :
    runner.inSequence session [] =
      ⟨(runner.start session).session, (runner.start session).emitted,
        (runner.start session).result.map fun _ => []⟩ := by
  unfold inSequence
  cases outcome : (runner.start session).result with
  | error failure => rw [Run.and_then_of_error outcome]; rfl
  | ok _ => rw [Run.and_then_of_ok outcome]; simp [dispatchAll, Run.done, Except.map]

theorem in_sequence_append (first second : List String) :
    runner.inSequence session (first ++ second) =
      (runner.inSequence session first).andThen fun after outcomes =>
        (runner.dispatchAll after second).andThen fun final more =>
          .done final (outcomes ++ more) := by
  simp only [inSequence, dispatch_all_append, Run.and_then_assoc]

theorem in_sequence_snoc {events : List String} {outcomes : List Outcome}
    (succeeded : (runner.inSequence session events).result = .ok outcomes) (event : String) :
    runner.inSequence session (events ++ [event]) =
      let before := runner.inSequence session events
      let run := runner.dispatch before.session event
      ⟨run.session, before.emitted ++ run.emitted,
        run.result.map fun outcome => outcomes ++ [outcome]⟩ := by
  rw [in_sequence_append, Run.and_then_of_ok succeeded]
  simp only [dispatchAll, Run.and_then_assoc, Run.done_and_then]
  cases outcome : (runner.dispatch (runner.inSequence session events).session event).result with
  | error failure => simp only [Run.and_then_of_error outcome, Except.map]
  | ok value => simp [Run.and_then_of_ok outcome, Run.done, Except.map]

theorem dispatch_all_length {events : List String} {outcomes : List Outcome}
    (succeeded : (runner.dispatchAll session events).result = .ok outcomes) :
    outcomes.length = events.length := by
  induction events generalizing session outcomes with
  | nil =>
      cases succeeded
      rfl
  | cons event rest induction =>
      obtain ⟨outcome, _, followed⟩ := Run.and_then_eq_ok succeeded
      obtain ⟨others, dispatched, joined⟩ := Run.and_then_eq_ok followed
      cases joined
      simp [induction dispatched]

theorem in_sequence_length {events : List String} {outcomes : List Outcome}
    (succeeded : (runner.inSequence session events).result = .ok outcomes) :
    outcomes.length = events.length := by
  obtain ⟨_, _, dispatched⟩ := Run.and_then_eq_ok succeeded
  exact dispatch_all_length dispatched

end Runner

end StateMachine
