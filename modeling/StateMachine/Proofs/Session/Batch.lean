import StateMachine.Proofs.Session.Interruption

/-!
Batches of events. A batch is refused for its undeclared names before anything is done. Otherwise it
is a start and then one dispatch after the other up to the first failure, and it makes no difference
at which point it is cut in two.
-/

set_option autoImplicit false

namespace StateMachine

namespace Run

variable {α β : Type}

theorem and_then_started {run : Run α} {next : Session → α → Run β}
    (keeps : ∀ session value, (next session value).session.started = session.started) :
    (run.andThen next).session.started = run.session.started := by
  cases outcome : run.result with
  | error failure => rw [and_then_of_error outcome]
  | ok value =>
      rw [and_then_of_ok outcome]
      exact keeps run.session value

end Run

namespace Runner

variable {runner : Runner} {session : Session}

/-! A session that has started stays so until it is reset. -/

theorem run_action_started (session : Session) (action : Action) :
    (runner.runAction session action).session.started = session.started := by
  rcases run_action_cases runner session action with fails | stored | remarked
  · obtain ⟨failure, fails⟩ := fails
    rw [fails]
    rfl
  · obtain ⟨environment, stored⟩ := stored
    rw [stored]
    rfl
  · obtain ⟨line, pauses, _, remarked⟩ := remarked
    rw [remarked]

theorem run_actions_started (session : Session) (actions : List Action) :
    (runner.runActions session actions).session.started = session.started := by
  induction actions generalizing session with
  | nil => rfl
  | cons action rest induction =>
      calc (runner.runActions session (action :: rest)).session.started
          = (runner.runAction session action).session.started :=
            Run.and_then_started fun after _ => induction after
        _ = session.started := run_action_started session action

theorem start_started (session : Session) : (runner.start session).session.started = true := by
  unfold start
  split
  · assumption
  · exact Run.and_then_started fun begun _ => run_actions_started begun _

theorem fire_started (session : Session) (transition : Transition) (target : State) :
    (runner.fire session transition target).session.started = session.started := by
  calc (runner.fire session transition target).session.started
      = (runner.runActions session transition.actions).session.started := by
        apply Run.and_then_started
        intro acted _
        refine (Run.and_then_started ?_).trans rfl
        intro moved _
        exact (Run.and_then_started fun _ _ => rfl).trans (run_actions_started moved _)
    _ = session.started := run_actions_started session transition.actions

theorem handle_started (session : Session) (event : String) :
    (runner.handle session event).session.started = session.started := by
  rcases handle_cases runner session event with answered | failed | fired
  · obtain ⟨line, outcome, _, _, said⟩ := answered
    rw [said]
    rfl
  · obtain ⟨failure, _, _, _, failed⟩ := failed
    rw [failed]
    rfl
  · obtain ⟨transition, target, _, _, fires⟩ := fired
    rw [fires]
    exact fire_started session transition target

theorem dispatch_started (session : Session) (event : String) :
    (runner.dispatch session event).session.started = true :=
  (Run.and_then_started fun begun _ => handle_started begun event).trans (start_started session)

theorem dispatch_all_started (session : Session) (started : session.started = true)
    (events : List String) : (runner.dispatchAll session events).session.started = true := by
  induction events generalizing session with
  | nil => exact started
  | cons event rest induction =>
      cases outcome : (runner.dispatch session event).result with
      | error failure =>
          rw [dispatchAll, Run.and_then_of_error outcome]
          exact dispatch_started session event
      | ok value =>
          rw [dispatchAll, Run.and_then_of_ok outcome]
          exact (Run.and_then_started fun _ _ => rfl).trans
            (induction _ (dispatch_started session event))

theorem in_sequence_started (session : Session) (events : List String) :
    (runner.inSequence session events).session.started = true := by
  cases outcome : (runner.start session).result with
  | error failure =>
      rw [inSequence, Run.and_then_of_error outcome]
      exact start_started session
  | ok value =>
      rw [inSequence, Run.and_then_of_ok outcome]
      exact dispatch_all_started _ (start_started session) events

theorem start_of_started (started : session.started = true) :
    runner.start session = .done session () := by
  rw [start, if_pos started]

theorem in_sequence_of_started (started : session.started = true) (events : List String) :
    runner.inSequence session events = runner.dispatchAll session events := by
  rw [inSequence, start_of_started started, Run.done_and_then]

/-! One call after the other. -/

/-- What calls do in order when the first that fails is the last. -/
def attempts (runner : Runner) (session : Session) : List Call → List (Run Reply)
  | [] => []
  | call :: rest =>
      let run := runner.call session call
      match run.result with
      | .error _ => [run]
      | .ok _ => run :: runner.attempts run.session rest

theorem attempts_of_error {call : Call} {failure : Failure}
    (failed : (runner.call session call).result = .error failure) (rest : List Call) :
    runner.attempts session (call :: rest) = [runner.call session call] := by
  simp only [attempts, failed]

theorem attempts_of_ok {call : Call} {reply : Reply}
    (succeeded : (runner.call session call).result = .ok reply) (rest : List Call) :
    runner.attempts session (call :: rest) =
      runner.call session call :: runner.attempts (runner.call session call).session rest := by
  simp only [attempts, succeeded]

end Runner

/-- The run does what calls made in order from `session` do: it leaves the session that the last of
them leaves, emits what they emit, and replies as they do or fails as the first that fails. -/
structure Run.Sums (run : Run (List Reply)) (session : Session) (calls : List (Run Reply)) :
    Prop where
  session_eq : run.session = (calls.getLast?.map Run.session).getD session
  emitted_eq : run.emitted = calls.flatMap Run.emitted
  result_eq : run.result = calls.mapM Run.result

namespace Run.Sums

variable {session : Session} {first : Run Reply}

theorem nil (session : Session) : (done session []).Sums session [] := ⟨rfl, rfl, rfl⟩

theorem single {failure : Failure} (failed : first.result = .error failure) :
    Sums ⟨first.session, first.emitted, .error failure⟩ session [first] := by
  refine ⟨rfl, by simp, ?_⟩
  rw [List.mapM_cons, failed]
  rfl

theorem cons {reply : Reply} (succeeded : first.result = .ok reply) {run : Run (List Reply)}
    {others : List (Run Reply)} (sums : run.Sums first.session others) :
    Sums ⟨run.session, first.emitted ++ run.emitted, run.result.map fun rest => reply :: rest⟩
      session (first :: others) := by
  refine ⟨?_, ?_, ?_⟩
  · rw [sums.session_eq]
    cases others with
    | nil => rfl
    | cons other rest =>
        rw [List.getLast?_cons_cons, List.getLast?_eq_some_getLast (List.cons_ne_nil other rest)]
        rfl
  · rw [sums.emitted_eq, List.flatMap_cons]
  · rw [List.mapM_cons, succeeded, sums.result_eq]
    cases others.mapM Run.result <;> rfl

end Run.Sums

namespace Runner

variable {runner : Runner} {session : Session}

theorem dispatch_all_of_ok {event : String} {outcome : Outcome}
    (succeeded : (runner.dispatch session event).result = .ok outcome) (rest : List String) :
    runner.dispatchAll session (event :: rest) =
      let first := runner.dispatch session event
      let others := runner.dispatchAll first.session rest
      ⟨others.session, first.emitted ++ others.emitted,
        others.result.map fun outcomes => outcome :: outcomes⟩ := by
  rw [dispatchAll, Run.and_then_of_ok succeeded, Run.and_then_done]
  rfl

theorem dispatch_all_sums (session : Session) (events : List String) :
    ((runner.dispatchAll session events).map (List.map Reply.outcome)).Sums session
      (runner.attempts session (events.map .dispatch)) := by
  induction events generalizing session with
  | nil => exact .nil session
  | cons event rest induction =>
      cases outcome : (runner.dispatch session event).result with
      | error failure =>
          have failed : (runner.call session (.dispatch event)).result = .error failure :=
            Run.map_of_error outcome _
          rw [dispatchAll, Run.and_then_of_error outcome, List.map_cons, attempts_of_error failed]
          exact .single failed
      | ok value =>
          have succeeded :
              (runner.call session (.dispatch event)).result = .ok (.outcome value) :=
            Run.map_of_ok outcome _
          -- What the first event is answered stands before the answers to the others, as outcomes
          -- and as replies alike.
          have joins (result : Except Failure (List Outcome)) :
              (result.map fun outcomes => value :: outcomes).map (List.map Reply.outcome) =
                (result.map (List.map Reply.outcome)).map fun replies =>
                  .outcome value :: replies := by
            cases result <;> rfl
          rw [dispatch_all_of_ok outcome, List.map_cons, attempts_of_ok succeeded, Run.map, joins]
          exact .cons succeeded (induction _)

def startReplies (outcomes : List Outcome) : List Reply := .done :: outcomes.map .outcome

theorem in_sequence_sums (session : Session) (events : List String) :
    ((runner.inSequence session events).map startReplies).Sums session
      (runner.attempts session (.start :: events.map .dispatch)) := by
  cases outcome : (runner.start session).result with
  | error failure =>
      have failed : (runner.call session .start).result = .error failure :=
        Run.map_of_error outcome _
      rw [inSequence, Run.and_then_of_error outcome, attempts_of_error failed]
      exact .single failed
  | ok _ =>
      have succeeded : (runner.call session .start).result = .ok .done :=
        Run.map_of_ok outcome _
      have joins (result : Except Failure (List Outcome)) :
          result.map startReplies =
            (result.map (List.map Reply.outcome)).map fun replies => .done :: replies := by
        cases result <;> rfl
      rw [inSequence, Run.and_then_of_ok outcome, attempts_of_ok succeeded, Run.map, joins]
      exact .cons succeeded (dispatch_all_sums _ events)

/-! Batches. -/

theorem undeclared_filter (events : List String) :
    (events.filter fun event => !runner.machine.hasEvent event) =
      events.filter fun event => event ∉ runner.machine.events := by
  apply List.filter_congr
  intro event _
  simp [Machine.hasEvent]

theorem run_batch_of_undeclared {events : List String}
    (undeclared : ∃ event ∈ events, event ∉ runner.machine.events) :
    runner.runBatch session events =
      .fail session
        (.unknownEvents (events.filter fun event => event ∉ runner.machine.events)) := by
  unfold runBatch
  rw [undeclared_filter]
  split
  · next nothing =>
      obtain ⟨event, member, missing⟩ := undeclared
      have present := List.filter_eq_nil_iff.mp nothing event member
      simp [missing] at present
  · rfl

theorem run_batch_of_declared {events : List String}
    (declared : ∀ event ∈ events, event ∈ runner.machine.events) :
    runner.runBatch session events = runner.inSequence session events := by
  have nothing : (events.filter fun event => event ∉ runner.machine.events) = [] := by
    rw [List.filter_eq_nil_iff]
    intro event member
    simp [declared event member]
  simp only [runBatch, undeclared_filter, nothing, inSequence]

theorem in_sequence_resumed (first second : List String) :
    runner.inSequence session (first ++ second) =
      (runner.inSequence session first).andThen fun after outcomes =>
        (runner.inSequence after second).map fun more => outcomes ++ more := by
  -- The first part leaves a session that has started, so the start of the second does nothing.
  have started : (runner.inSequence session first).session.started = true :=
    in_sequence_started session first
  rw [in_sequence_append]
  cases outcome : (runner.inSequence session first).result with
  | error failure => rw [Run.and_then_of_error outcome, Run.and_then_of_error outcome]
  | ok outcomes =>
      rw [Run.and_then_of_ok outcome, Run.and_then_of_ok outcome, Run.and_then_done,
        in_sequence_of_started started]

theorem handle_declared {event : String} (declared : event ∈ runner.machine.events) :
    (runner.handle session event).result ≠ .ok .unknownEvent := by
  have known : runner.machine.hasEvent event = true := List.contains_iff_mem.mpr declared
  rw [handle, if_pos known]
  split
  · exact fun unknown => nomatch unknown
  · split
    · exact fun unknown => nomatch unknown
    · exact fun unknown => nomatch unknown
    · exact fun unknown => nomatch unknown
    · split
      · exact fun unknown => nomatch unknown
      · exact fun unknown => nomatch fire_outcome unknown

theorem dispatch_all_declared {events : List String} {outcomes : List Outcome}
    (declared : ∀ event ∈ events, event ∈ runner.machine.events)
    (succeeded : (runner.dispatchAll session events).result = .ok outcomes) :
    .unknownEvent ∉ outcomes := by
  induction events generalizing session outcomes with
  | nil =>
      cases succeeded
      exact List.not_mem_nil
  | cons event rest induction =>
      obtain ⟨outcome, dispatched, followed⟩ := Run.and_then_eq_ok succeeded
      obtain ⟨others, dispatchedRest, joined⟩ := Run.and_then_eq_ok followed
      obtain ⟨_, _, handled⟩ := Run.and_then_eq_ok dispatched
      cases joined
      have first : outcome ≠ .unknownEvent := by
        rintro rfl
        exact handle_declared (declared event List.mem_cons_self) handled
      have later : .unknownEvent ∉ others :=
        induction (fun other member => declared other (List.mem_cons_of_mem _ member))
          dispatchedRest
      simp [first.symm, later]

/-- A batch with undeclared events is refused with just these, and has no effect. Any other batch is a
start and then one dispatch after the other up to the first failure; cut in two anywhere, its parts
do one after the other what it does, and no event of it is answered as unknown. -/
theorem batch_refused_or_in_order (runner : Runner) (session : Session) (events : List String) :
    ((∃ event ∈ events, event ∉ runner.machine.events) →
        runner.runBatch session events =
          .fail session
            (.unknownEvents (events.filter fun event => event ∉ runner.machine.events))) ∧
      ((∀ event ∈ events, event ∈ runner.machine.events) →
        ((runner.runBatch session events).map startReplies).Sums session
            (runner.attempts session (.start :: events.map .dispatch)) ∧
          (∀ outcomes, (runner.runBatch session events).result = .ok outcomes →
            outcomes.length = events.length ∧ .unknownEvent ∉ outcomes) ∧
          ∀ first second, events = first ++ second →
            runner.runBatch session events =
              (runner.runBatch session first).andThen fun after outcomes =>
                (runner.runBatch after second).map fun more => outcomes ++ more) := by
  refine ⟨run_batch_of_undeclared, ?_⟩
  intro declared
  refine ⟨?_, ?_, ?_⟩
  · rw [run_batch_of_declared declared]
    exact in_sequence_sums session events
  · intro outcomes succeeded
    rw [run_batch_of_declared declared] at succeeded
    obtain ⟨_, _, dispatched⟩ := Run.and_then_eq_ok succeeded
    exact ⟨dispatch_all_length dispatched, dispatch_all_declared declared dispatched⟩
  · rintro first second rfl
    have before : ∀ event ∈ first, event ∈ runner.machine.events :=
      fun event member => declared event (List.mem_append_left second member)
    have behind : ∀ event ∈ second, event ∈ runner.machine.events :=
      fun event member => declared event (List.mem_append_right first member)
    simp only [run_batch_of_declared declared, run_batch_of_declared before,
      run_batch_of_declared behind, in_sequence_resumed]

end Runner

/-- The first batch is refused. The second breaks the turnstile, and its last event is not tried. The
third succeeds. -/
theorem turnstile_batches :
    (∃ event ∈ ["coin", "jump", "push", "jump"], event ∉ turnstileMachine.events) ∧
      turnstileRunner.runBatch turnstileSession ["coin", "jump", "push", "jump"] =
        .fail turnstileSession (.unknownEvents ["jump", "jump"]) ∧
      (∀ event ∈ ["coin", "kick", "coin"], event ∈ turnstileMachine.events) ∧
      (turnstileRunner.runBatch turnstileSession ["coin", "kick", "coin"]).result =
        .error (.evaluation .divisionByZero) ∧
      (turnstileRunner.attempts turnstileSession
        [.start, .dispatch "coin", .dispatch "kick", .dispatch "coin"]).length = 3 ∧
      ((turnstileRunner.runBatch turnstileSession ["coin", "kick", "coin"]).map
        Runner.startReplies).Sums turnstileSession
          (turnstileRunner.attempts turnstileSession
            [.start, .dispatch "coin", .dispatch "kick", .dispatch "coin"]) ∧
      (∀ event ∈ ["coin", "push", "push"], event ∈ turnstileMachine.events) ∧
      (turnstileRunner.runBatch turnstileSession ["coin", "push", "push"]).result =
        .ok [.fired "Locked" "Open", .fired "Open" "Locked", .guardRejected] ∧
      .unknownEvent ∉ [Outcome.fired "Locked" "Open", .fired "Open" "Locked", .guardRejected] ∧
      turnstileRunner.runBatch turnstileSession ["coin", "push", "push"] =
        (turnstileRunner.runBatch turnstileSession ["coin"]).andThen fun after outcomes =>
          (turnstileRunner.runBatch after ["push", "push"]).map fun more => outcomes ++ more := by
  have undeclared : ∃ event ∈ ["coin", "jump", "push", "jump"],
      event ∉ turnstileMachine.events := by decide
  have breaks : ∀ event ∈ ["coin", "kick", "coin"], event ∈ turnstileMachine.events := by decide
  have passes : ∀ event ∈ ["coin", "push", "push"], event ∈ turnstileMachine.events := by decide
  have refused := (Runner.batch_refused_or_in_order turnstileRunner turnstileSession
    ["coin", "jump", "push", "jump"]).1 undeclared
  have broken := (Runner.batch_refused_or_in_order turnstileRunner turnstileSession
    ["coin", "kick", "coin"]).2 breaks
  obtain ⟨_, answered, cut⟩ := (Runner.batch_refused_or_in_order turnstileRunner turnstileSession
    ["coin", "push", "push"]).2 passes
  exact ⟨undeclared, refused, breaks, rfl, rfl, broken.1, passes, rfl, (answered _ rfl).2,
    cut ["coin"] ["push", "push"] rfl⟩

end StateMachine
