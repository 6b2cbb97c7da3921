import StateMachine.Proofs.Session.Journal

/-!
How far a failing event gets. An action either completes or does nothing at all, so a list of
actions that fails has done what its actions before the failing one do. An event therefore fails
before anything is done, at an action of its transition, or, after the move, at an entry action of
the target, and in each case its effects are known exactly.
-/

set_option autoImplicit false

namespace StateMachine

namespace Run

variable {α β : Type} {session : Session}

theorem say_and_then (line : TraceLine) (value : α) (next : Session → α → Run β) :
    (say session line value).andThen next =
      ⟨(next session value).session, .line line :: (next session value).emitted,
        (next session value).result⟩ := rfl

theorem and_then_done (run : Run α) (reply : α → β) :
    (run.andThen fun after value => done after (reply value)) = run.map reply := by
  obtain ⟨after, emitted, result⟩ := run
  cases result with
  | error failure => rfl
  | ok value => simp [andThen, done, Run.map, Except.map]

/-- The run leaves the session in its state and reports no move. -/
structure Stays (session : Session) (run : Run α) : Prop where
  current : run.session.current = session.current
  no_move : ∀ source target, Emission.line (.transitioned source target) ∉ run.emitted

theorem silent_stays {after : Session} (same : after.current = session.current)
    (result : Except Failure α) : (⟨after, [], result⟩ : Run α).Stays session :=
  ⟨same, fun _ _ => List.not_mem_nil⟩

theorem Stays.andThen {run : Run α} {next : Session → α → Run β} (first : run.Stays session)
    (second : ∀ value, (next run.session value).Stays run.session) :
    (run.andThen next).Stays session := by
  cases outcome : run.result with
  | error failure =>
      rw [and_then_of_error outcome]
      exact ⟨first.current, first.no_move⟩
  | ok value =>
      rw [and_then_of_ok outcome]
      refine ⟨(second value).current.trans first.current, ?_⟩
      intro source target member
      rcases List.mem_append.mp member with before | after
      · exact first.no_move source target before
      · exact (second value).no_move source target after

end Run

namespace Runner

variable {runner : Runner} {session : Session} {failure : Failure}

theorem run_action_eq_fail {action : Action}
    (failed : (runner.runAction session action).result = .error failure) :
    runner.runAction session action = .fail session failure := by
  rcases run_action_cases runner session action with fails | stored | remarked
  · obtain ⟨other, fails⟩ := fails
    rw [fails] at failed ⊢
    cases failed
    rfl
  · obtain ⟨environment, stored⟩ := stored
    rw [stored] at failed
    nomatch failed
  · obtain ⟨line, pauses, _, remarked⟩ := remarked
    rw [remarked] at failed
    nomatch failed

theorem run_action_stays (session : Session) (action : Action) :
    (runner.runAction session action).Stays session := by
  rcases run_action_cases runner session action with fails | stored | remarked
  · obtain ⟨failure, fails⟩ := fails
    rw [fails]
    exact Run.silent_stays rfl _
  · obtain ⟨environment, stored⟩ := stored
    rw [stored]
    apply Run.silent_stays
    rfl
  · obtain ⟨line, pauses, remark, remarked⟩ := remarked
    rw [remarked]
    refine ⟨rfl, ?_⟩
    intro source target member
    rcases List.mem_cons.mp member with same | paused
    · cases same
      nomatch remark
    · obtain ⟨millis, _, same⟩ := List.mem_map.mp paused
      nomatch same

theorem run_actions_stays (session : Session) (actions : List Action) :
    (runner.runActions session actions).Stays session := by
  induction actions generalizing session with
  | nil => exact Run.silent_stays rfl _
  | cons action rest induction =>
      apply (run_action_stays session action).andThen
      intro _
      exact induction _

theorem run_actions_append (session : Session) (first second : List Action) :
    runner.runActions session (first ++ second) =
      (runner.runActions session first).andThen fun after _ => runner.runActions after second := by
  induction first generalizing session with
  | nil => simp only [List.nil_append, runActions, Run.done_and_then]
  | cons action rest induction =>
      simp only [List.cons_append, runActions, induction, Run.and_then_assoc]

structure StopsAt (runner : Runner) (session : Session) (actions : List Action) (position : Nat)
    (failure : Failure) : Prop where
  succeeded : (runner.runActions session (actions.take position)).result = .ok ()
  failed : ∃ action, actions[position]? = some action ∧
    (runner.runAction (runner.runActions session (actions.take position)).session action).result =
      .error failure

namespace StopsAt

variable {actions : List Action} {position : Nat}

/-- Actions that stop have done what those before the failing one do. -/
theorem run_eq (stops : runner.StopsAt session actions position failure) :
    runner.runActions session actions =
      ⟨(runner.runActions session (actions.take position)).session,
        (runner.runActions session (actions.take position)).emitted, .error failure⟩ := by
  obtain ⟨succeeded, action, found, failed⟩ := stops
  have rest : actions.drop position = action :: actions.drop (position + 1) := by
    obtain ⟨bounded, rfl⟩ := List.getElem?_eq_some_iff.mp found
    exact List.drop_eq_getElem_cons bounded
  have stopped := run_action_eq_fail failed
  calc runner.runActions session actions
      = runner.runActions session
          (actions.take position ++ action :: actions.drop (position + 1)) := by
        rw [← rest, List.take_append_drop]
    _ = _ := by
        rw [run_actions_append, Run.and_then_of_ok succeeded, runActions, stopped]
        simp [Run.andThen, Run.fail]

theorem take (stops : runner.StopsAt session actions position failure) {count : Nat}
    (longer : position < count) :
    runner.StopsAt session (actions.take count) position failure := by
  have shorter : (actions.take count).take position = actions.take position := by
    rw [List.take_take, Nat.min_eq_left (Nat.le_of_lt longer)]
  obtain ⟨succeeded, action, found, failed⟩ := stops
  refine ⟨by rw [shorter]; exact succeeded, action, ?_, by rw [shorter]; exact failed⟩
  rw [List.getElem?_take_of_lt longer]
  exact found

theorem fails (stops : runner.StopsAt session actions position failure) :
    (runner.runActions session actions).result = .error failure := by
  rw [stops.run_eq]

/-- Where more actions succeed the failing one is not among them. -/
theorem le_of_succeeds (stops : runner.StopsAt session actions position failure) {count : Nat}
    (succeeded : (runner.runActions session (actions.take count)).result = .ok ()) :
    count ≤ position := by
  by_contra longer
  rw [(stops.take (Nat.lt_of_not_le longer)).fails] at succeeded
  nomatch succeeded

theorem position_unique {other : Nat} {otherFailure : Failure}
    (stops : runner.StopsAt session actions position failure)
    (otherStops : runner.StopsAt session actions other otherFailure) : position = other :=
  Nat.le_antisymm (otherStops.le_of_succeeds stops.succeeded)
    (stops.le_of_succeeds otherStops.succeeded)

theorem cons {action : Action}
    (succeeded : (runner.runAction session action).result = .ok ())
    (stops : runner.StopsAt (runner.runAction session action).session actions position failure) :
    runner.StopsAt session (action :: actions) (position + 1) failure := by
  have begins : runner.runActions session ((action :: actions).take (position + 1)) =
      ⟨_, _, _⟩ := Run.and_then_of_ok succeeded _
  obtain ⟨followed, next, found, failed⟩ := stops
  refine ⟨?_, next, found, ?_⟩
  · rw [begins]
    exact followed
  · rw [begins]
    exact failed

end StopsAt

theorem exists_stops_at {actions : List Action}
    (failed : (runner.runActions session actions).result = .error failure) :
    ∃ position, runner.StopsAt session actions position failure := by
  induction actions generalizing session with
  | nil => nomatch failed
  | cons action rest induction =>
      cases first : (runner.runAction session action).result with
      | error other =>
          have ends : runner.runActions session (action :: rest) = ⟨_, _, _⟩ :=
            Run.and_then_of_error first _
          rw [ends] at failed
          cases failed
          exact ⟨0, rfl, action, rfl, first⟩
      | ok value =>
          have begins : runner.runActions session (action :: rest) = ⟨_, _, _⟩ :=
            Run.and_then_of_ok first _
          rw [begins] at failed
          obtain ⟨position, stops⟩ := induction failed
          exact ⟨position + 1, stops.cons first⟩

/-- Where an event that fails has stopped: before anything was done, at an action of the transition,
or at an entry action of the target. -/
inductive StopPoint where
  | deciding
  | acting (position : Nat)
  | entering (position : Nat)
deriving DecidableEq, Repr

/-- What a dispatch that failed at a point has done, and what was found there. -/
def Stopped (runner : Runner) (session : Session) (event : String) (failure : Failure)
    (run : Run Outcome) : StopPoint → Prop
  | .deciding =>
      (∃ transition, runner.Faces session event transition ∧
        runner.Blocks session event transition failure) ∧
      run.session = session ∧ run.emitted = []
  | .acting position => ∃ transition target,
      runner.Faces session event transition ∧ runner.Opens session transition target ∧
      runner.StopsAt session transition.actions position failure ∧
      let acted := runner.runActions session (transition.actions.take position)
      run.session = acted.session ∧ run.emitted = acted.emitted ∧
      run.session.current = session.current ∧
      ∀ source target, .line (.transitioned source target) ∉ run.emitted
  | .entering position => ∃ transition target,
      runner.Faces session event transition ∧ runner.Opens session transition target ∧
      runner.options.entry = .everyEntry ∧
      let acted := runner.runActions session transition.actions
      let moved := { acted.session with current := target.name }
      let entered := runner.runActions moved (target.entry.take position)
      acted.result = .ok () ∧ runner.StopsAt moved target.entry position failure ∧
      run.session = entered.session ∧
      run.emitted = acted.emitted ++
        .line (.transitioned session.current target.name) :: entered.emitted ∧
      run.session.current = target.name

namespace Stopped

variable {event : String} {transition : Transition} {run : Run Outcome}

theorem not_deciding {target : State} (faces : runner.Faces session event transition)
    (opens : runner.Opens session transition target) :
    ¬ runner.Stopped session event failure run .deciding := by
  rintro ⟨⟨other, otherFaces, blocks⟩, _⟩
  obtain rfl := faces.unique otherFaces
  exact blocks.not_opens opens

theorem not_entering {position : Nat} {actingFailure : Failure}
    (faces : runner.Faces session event transition)
    (stops : runner.StopsAt session transition.actions position actingFailure) (entered : Nat) :
    ¬ runner.Stopped session event failure run (.entering entered) := by
  rintro ⟨other, _, otherFaces, _, _, succeeded, _⟩
  obtain rfl := faces.unique otherFaces
  rw [stops.fails] at succeeded
  nomatch succeeded

/-- The point at which an event stopped can be told from what was found there. -/
theorem point_unique {otherFailure : Failure} {point otherPoint : StopPoint}
    (stopped : runner.Stopped session event failure run point)
    (otherStopped : runner.Stopped session event otherFailure run otherPoint) :
    point = otherPoint := by
  cases point with
  | deciding =>
      cases otherPoint with
      | deciding => rfl
      | acting other =>
          obtain ⟨_, _, faces, opens, _⟩ := otherStopped
          exact absurd stopped (not_deciding faces opens)
      | entering other =>
          obtain ⟨_, _, faces, opens, _⟩ := otherStopped
          exact absurd stopped (not_deciding faces opens)
  | acting position =>
      obtain ⟨transition, target, faces, opens, stops, _⟩ := stopped
      cases otherPoint with
      | deciding => exact absurd otherStopped (not_deciding faces opens)
      | acting other =>
          obtain ⟨_, _, otherFaces, _, otherStops, _⟩ := otherStopped
          obtain rfl := faces.unique otherFaces
          rw [stops.position_unique otherStops]
      | entering other => exact absurd otherStopped (not_entering faces stops other)
  | entering position =>
      cases otherPoint with
      | deciding =>
          obtain ⟨_, _, faces, opens, _⟩ := stopped
          exact absurd otherStopped (not_deciding faces opens)
      | acting other =>
          obtain ⟨_, _, faces, _, stops, _⟩ := otherStopped
          exact absurd stopped (not_entering faces stops position)
      | entering other =>
          obtain ⟨transition, target, faces, opens, _, _, stops, _⟩ := stopped
          obtain ⟨_, _, otherFaces, otherOpens, _, _, otherStops, _⟩ := otherStopped
          obtain rfl := faces.unique otherFaces
          obtain rfl := opens.unique otherOpens
          rw [stops.position_unique otherStops]

end Stopped

/-- After the actions of a transition come the move and, where every entry counts, the entry actions
of the target. -/
theorem fire_of_acted {transition : Transition} {target : State}
    (succeeded : (runner.runActions session transition.actions).result = .ok ()) :
    runner.fire session transition target =
      let acted := runner.runActions session transition.actions
      let entered := runner.runActions { acted.session with current := target.name }
        (if runner.options.entry = .everyEntry then target.entry else [])
      ⟨entered.session,
        acted.emitted ++ .line (.transitioned session.current target.name) :: entered.emitted,
        entered.result.map fun _ => .fired session.current target.name⟩ := by
  rw [fire, Run.and_then_of_ok succeeded]
  simp only [Run.say_and_then, Run.and_then_done]
  rfl

theorem fire_stopped {event : String} {transition : Transition} {target : State}
    (faces : runner.Faces session event transition) (opens : runner.Opens session transition target)
    (failed : (runner.fire session transition target).result = .error failure) :
    ∃ point,
      runner.Stopped session event failure (runner.fire session transition target) point := by
  cases acts : (runner.runActions session transition.actions).result with
  | error other =>
      have fires : runner.fire session transition target = ⟨_, _, _⟩ :=
        Run.and_then_of_error acts _
      rw [fires] at failed ⊢
      cases failed
      obtain ⟨position, stops⟩ := exists_stops_at acts
      rw [stops.run_eq]
      have stays : (runner.runActions session (transition.actions.take position)).Stays session :=
        run_actions_stays _ _
      exact ⟨.acting position, transition, target, faces, opens, stops, rfl, rfl, stays.current,
        stays.no_move⟩
  | ok _ =>
      rw [fire_of_acted acts] at failed ⊢
      by_cases everyEntry : runner.options.entry = .everyEntry
      · simp only [if_pos everyEntry] at failed ⊢
        cases enters : (runner.runActions
            { (runner.runActions session transition.actions).session with current := target.name }
            target.entry).result with
        | error other =>
            rw [enters] at failed
            cases failed
            obtain ⟨position, stops⟩ := exists_stops_at enters
            rw [stops.run_eq]
            exact ⟨.entering position, transition, target, faces, opens, everyEntry, acts, stops,
              rfl, rfl, (run_actions_stays _ _).current⟩
        | ok _ =>
            rw [enters] at failed
            nomatch failed
      · rw [if_neg everyEntry] at failed
        nomatch failed

theorem handle_stopped {event : String}
    (failed : (runner.handle session event).result = .error failure) :
    ∃ point, runner.Stopped session event failure (runner.handle session event) point := by
  rcases handle_cases runner session event with answered | blocked | fired
  · obtain ⟨line, outcome, _, _, said⟩ := answered
    rw [said] at failed
    nomatch failed
  · obtain ⟨other, transition, faces, blocks, fails⟩ := blocked
    rw [fails] at failed ⊢
    cases failed
    exact ⟨.deciding, ⟨transition, faces, blocks⟩, rfl, rfl⟩
  · obtain ⟨transition, target, faces, opens, fires⟩ := fired
    rw [fires] at failed ⊢
    exact fire_stopped faces opens failed

/-- A dispatch that fails in a started session stops at exactly one point, and has done exactly what
comes before it. -/
theorem failing_dispatch_stops_once {event : String} (started : session.started = true)
    (failed : (runner.dispatch session event).result = .error failure) :
    ∃! point, runner.Stopped session event failure (runner.dispatch session event) point := by
  rw [dispatch_of_started started] at failed ⊢
  obtain ⟨point, stopped⟩ := handle_stopped failed
  refine ⟨point, stopped, ?_⟩
  intro other otherStopped
  exact otherStopped.point_unique stopped

end Runner

/-- A till that counts its takings. To share them among no one fails halfway through a line, and to
close fails at the second thing that is done then. -/
def tillMachine : Machine where
  name := "Till"
  attributes := [⟨"takings", .int, none⟩]
  events := ["share", "close"]
  commands := ["bell", "lock"]
  states :=
    [{ name := "Open"
       transitions :=
         [⟨"share", none, "Open",
            [.assign "takings"
              (.binary .add (.reference "takings") (.literal (.int ⟨35, by decide, by decide⟩))),
             .timeout 5,
             .print [.text "each: ", .value (.reference "takings"),
               .value (.binary .div (.reference "takings") (.literal (.int Word.zero)))],
             .run "bell"]⟩,
          ⟨"close", none, "Closed", [.run "bell"]⟩]
       entry := [] },
     { name := "Closed"
       transitions := []
       entry := [.run "lock", .assign "takings" (.literal (.bool true)), .timeout 9] }]
  initial := "Open"

def tillRunner : Runner := ⟨tillMachine, .everyEntry, true⟩

def tillSession (takings : Word) : Session :=
  ⟨Environment.empty.set "takings" (.int takings), "Open", true⟩

def TillStops (event : String) (failure : Failure) (point : Runner.StopPoint) : Prop :=
  tillRunner.Stopped (tillSession Word.zero) event failure
    (tillRunner.dispatch (tillSession Word.zero) event) point

theorem till_stops_once :
    (tillRunner.dispatch (tillSession Word.zero) "share").session =
        tillSession ⟨35, by decide, by decide⟩ ∧
      (tillRunner.dispatch (tillSession Word.zero) "share").emitted =
        [.line (.delay 5), .pause 5] ∧
      TillStops "share" (.evaluation .divisionByZero) (.acting 2) ∧
      (∃! point, TillStops "share" (.evaluation .divisionByZero) point) ∧
      (tillRunner.dispatch (tillSession Word.zero) "close").session =
        { tillSession Word.zero with current := "Closed" } ∧
      (tillRunner.dispatch (tillSession Word.zero) "close").emitted =
        [.line (.command "bell"), .line (.transitioned "Open" "Closed"), .line (.command "lock")] ∧
      TillStops "close" (.evaluation (.mismatch (.assignment "takings") .int .bool)) (.entering 1) ∧
      ∃! point,
        TillStops "close" (.evaluation (.mismatch (.assignment "takings") .int .bool)) point := by
  refine ⟨by decide, by decide, ?_, ?_, by decide, by decide, ?_, ?_⟩
  · exact ⟨_, _, ⟨rfl, rfl⟩, ⟨rfl, rfl⟩, ⟨rfl, _, rfl, rfl⟩, rfl, rfl, rfl,
      (Runner.run_actions_stays _ _).no_move⟩
  · apply Runner.failing_dispatch_stops_once
    · rfl
    · rfl
  · exact ⟨_, _, ⟨rfl, rfl⟩, ⟨rfl, rfl⟩, rfl, rfl, ⟨rfl, _, rfl, rfl⟩, rfl, rfl, rfl⟩
  · apply Runner.failing_dispatch_stops_once
    · rfl
    · rfl

end StateMachine
