import StateMachine.Proofs.Session.Consistency
import StateMachine.Proofs.Session.Sequence

/-!
The trace as the journal of a session. From one reset to the next it begins with the initial state,
and the moves that it reports lead from there to the current state, whatever failed on the way.
-/

set_option autoImplicit false

namespace StateMachine

def IsFirst {α : Type} (holds : α → Prop) (elements : List α) (chosen : α) : Prop :=
  holds chosen ∧ ∃ before after, elements = before ++ chosen :: after ∧
    ∀ other ∈ before, ¬ holds other

theorem is_first_of_find {α : Type} {name : String} {key : α → String} {elements : List α}
    {chosen : α} (found : elements.find? (fun other => key other == name) = some chosen) :
    IsFirst (fun other => key other = name) elements chosen := by
  obtain ⟨holds, before, after, split, apart⟩ := List.find?_eq_some_iff_append.mp found
  refine ⟨beq_iff_eq.mp holds, before, after, split, ?_⟩
  intro other member same
  simpa [same] using apart other member

/-- A declared event moves the machine from `source` to `target`: by the first transition for the
event in the first state named `source`. -/
def Machine.Leads (machine : Machine) (source target : String) : Prop :=
  ∃ event ∈ machine.events, ∃ state transition,
    IsFirst (fun other => other.name = source) machine.states state ∧
      IsFirst (fun other => other.event = event) state.transitions transition ∧
      transition.target = target

/-- Moves that follow one another from the first state to the last. -/
inductive Machine.Path (machine : Machine) : String → List (String × String) → String → Prop where
  | stay (state : String) : Path machine state [] state
  | move {source target final : String} {rest : List (String × String)} :
      machine.Leads source target → Path machine target rest final →
      Path machine source ((source, target) :: rest) final

theorem Machine.Path.snoc {machine : Machine} {first source target : String}
    {moves : List (String × String)} (path : machine.Path first moves source)
    (leads : machine.Leads source target) :
    machine.Path first (moves ++ [(source, target)]) target := by
  induction path with
  | stay state => exact .move leads (.stay target)
  | move earlier _ induction => exact .move earlier (induction leads)

def TraceLine.move? : TraceLine → Option (String × String)
  | .transitioned source target => some (source, target)
  | _ => none

def movesOf (lines : List TraceLine) : List (String × String) := lines.filterMap TraceLine.move?

/-- The line reports neither a start nor a move. -/
def TraceLine.isRemark : TraceLine → Bool
  | .entered _ | .transitioned _ _ => false
  | _ => true

theorem TraceLine.move_of_remark {line : TraceLine} (remark : line.isRemark = true) :
    line.move? = none := by
  cases line with
  | entered state => nomatch remark
  | transitioned source target => nomatch remark
  | _ => rfl

theorem trace_append (first second : List Emission) :
    traceOf (first ++ second) = traceOf first ++ traceOf second :=
  List.filterMap_append

theorem trace_remark (line : TraceLine) (pauses : List UInt64) :
    traceOf (.line line :: pauses.map .pause) = [line] := by
  simp [traceOf, List.filterMap_map]

/-- The part of a trace between two resets, and the session at its end. -/
structure Stretch where
  lines : List TraceLine
  last : Session

/-- The trace of calls, cut at each reset. The first part continues `lines`. -/
def Runner.stretches (runner : Runner) (session : Session) (lines : List TraceLine) :
    List Call → List Stretch
  | [] => [⟨lines, session⟩]
  | .reset :: rest =>
      let run := runner.call session .reset
      ⟨lines, session⟩ :: runner.stretches run.session (traceOf run.emitted) rest
  | call :: rest =>
      let run := runner.call session call
      runner.stretches run.session (lines ++ traceOf run.emitted) rest

/-- The trace begins with the initial state, which it names as such nowhere else, and its moves lead
from there to the state that the session is in. -/
structure Stretch.Faithful (machine : Machine) (stretch : Stretch) : Prop where
  opening : stretch.lines = [] ∨ ∃ rest, stretch.lines = .entered machine.initial :: rest ∧
    ∀ state, .entered state ∉ rest
  path : machine.Path machine.initial (movesOf stretch.lines) stretch.last.current

namespace Machine

/-- What the trace since the last reset tells about a session that has started. -/
structure Logged (machine : Machine) (lines : List TraceLine) (session : Session) : Prop where
  started : session.started = true
  opening : ∃ rest, lines = .entered machine.initial :: rest ∧ ∀ state, .entered state ∉ rest
  path : machine.Path machine.initial (movesOf lines) session.current

structure Unlogged (machine : Machine) (lines : List TraceLine) (session : Session) : Prop where
  not_started : session.started = false
  nothing : lines = []
  current_eq : session.current = machine.initial

def LoggedAt (machine : Machine) (current : String) (lines : List TraceLine) (session : Session) :
    Prop :=
  machine.Logged lines session ∧ session.current = current

def Recorded (machine : Machine) (lines : List TraceLine) (session : Session) : Prop :=
  machine.Unlogged lines session ∨ machine.Logged lines session

variable {machine : Machine} {lines : List TraceLine} {session : Session}

theorem Logged.here (logged : machine.Logged lines session) :
    machine.LoggedAt session.current lines session := ⟨logged, rfl⟩

theorem Logged.remark (logged : machine.Logged lines session) {line : TraceLine}
    (remark : line.isRemark = true) : machine.Logged (lines ++ [line]) session := by
  obtain ⟨rest, begins, silent⟩ := logged.opening
  refine ⟨logged.started, ⟨rest ++ [line], ?_, ?_⟩, ?_⟩
  · rw [begins, List.cons_append]
  · intro state member
    rcases List.mem_append.mp member with before | here
    · exact silent state before
    · cases List.mem_singleton.mp here
      nomatch remark
  · have moves : movesOf (lines ++ [line]) = movesOf lines := by
      simp [movesOf, TraceLine.move_of_remark remark]
    rw [moves]
    exact logged.path

theorem Logged.moved (logged : machine.Logged lines session) {target : String}
    (leads : machine.Leads session.current target) :
    machine.Logged (lines ++ [.transitioned session.current target])
      { session with current := target } := by
  obtain ⟨rest, begins, silent⟩ := logged.opening
  refine ⟨logged.started, ⟨rest ++ [.transitioned session.current target], ?_, ?_⟩, ?_⟩
  · rw [begins, List.cons_append]
  · intro state member
    rcases List.mem_append.mp member with before | here
    · exact silent state before
    · nomatch List.mem_singleton.mp here
  · have moves : movesOf (lines ++ [.transitioned session.current target]) =
        movesOf lines ++ [(session.current, target)] := by
      simp [movesOf, TraceLine.move?]
    rw [moves]
    exact logged.path.snoc leads

theorem Unlogged.entered (unlogged : machine.Unlogged lines session) :
    machine.Logged (lines ++ [.entered session.current]) { session with started := true } := by
  obtain ⟨_, rfl, current⟩ := unlogged
  refine ⟨rfl, ⟨[], ?_, fun state member => nomatch member⟩, ?_⟩
  · rw [current]
    rfl
  · rw [current]
    exact .stay machine.initial

theorem Recorded.faithful (recorded : machine.Recorded lines session) :
    Stretch.Faithful machine ⟨lines, session⟩ := by
  rcases recorded with unlogged | logged
  · obtain ⟨_, rfl, current⟩ := unlogged
    refine ⟨Or.inl rfl, ?_⟩
    rw [current]
    exact .stay machine.initial
  · exact ⟨Or.inr logged.opening, logged.path⟩

theorem leads_of_transition {current event : String} {transition : Transition} {target : State}
    (declared : machine.hasEvent event = true)
    (handled : machine.transitionIn? current event = some transition)
    (found : machine.stateNamed? transition.target = some target) :
    machine.Leads current target.name := by
  obtain ⟨state, named, chosen⟩ := Option.bind_eq_some_iff.mp handled
  exact ⟨event, List.contains_iff_mem.mp declared, state, transition, is_first_of_find named,
    is_first_of_find chosen, (state_named_mem found).2.symm⟩

end Machine

namespace Run

variable {α β : Type} {kept final : List TraceLine → Session → Prop} {lines : List TraceLine}

/-- After the run, `kept` holds of the trace so far and of the session, even where it fails. -/
def Records (kept : List TraceLine → Session → Prop) (lines : List TraceLine) (run : Run α) :
    Prop :=
  kept (lines ++ traceOf run.emitted) run.session

theorem records_silent {session : Session} (holds : kept lines session)
    (result : Except Failure α) : (⟨session, [], result⟩ : Run α).Records kept lines := by
  have same : lines ++ traceOf [] = lines := List.append_nil lines
  rw [Records, same]
  exact holds

theorem Records.andThen {run : Run α} {next : Session → α → Run β}
    (first : run.Records kept lines) (weaken : ∀ lines session, kept lines session →
      final lines session)
    (second : ∀ lines session value, kept lines session →
      (next session value).Records final lines) :
    (run.andThen next).Records final lines := by
  obtain ⟨session, emitted, result⟩ := run
  cases result with
  | error failure => exact weaken _ _ first
  | ok value =>
      have followed := second _ session value first
      simp only [Records, Run.andThen, trace_append, ← List.append_assoc] at followed ⊢
      exact followed

theorem Records.weaken {run : Run α} (records : run.Records kept lines)
    (weakened : ∀ lines session, kept lines session → final lines session) :
    run.Records final lines :=
  weakened _ _ records

theorem Records.map {run : Run α} (records : run.Records kept lines) (reply : α → β) :
    (run.map reply).Records kept lines := records

end Run

namespace Runner

variable {runner : Runner} {session : Session} {lines : List TraceLine}

/-- An action does nothing, stores a value or remarks on something, with pauses or without. A value
that is rejected is not stored, and of a line with a faulty part nothing is printed. -/
theorem run_action_cases (runner : Runner) (session : Session) (action : Action) :
    (∃ failure, runner.runAction session action = .fail session failure) ∨
      (∃ environment,
        runner.runAction session action = .done { session with environment := environment } ()) ∨
      ∃ (line : TraceLine) (pauses : List UInt64), line.isRemark = true ∧
        runner.runAction session action = ⟨session, .line line :: pauses.map .pause, .ok ()⟩ := by
  cases action with
  | assign target value =>
      simp only [runAction, assign]
      split
      · exact Or.inl ⟨_, rfl⟩
      · split
        · exact Or.inl ⟨_, rfl⟩
        · split
          · exact Or.inr (Or.inl ⟨_, rfl⟩)
          · exact Or.inl ⟨_, rfl⟩
  | print parts =>
      simp only [runAction]
      split
      · exact Or.inl ⟨_, rfl⟩
      · exact Or.inr (Or.inr ⟨_, [], rfl, rfl⟩)
  | timeout millis =>
      simp only [runAction]
      split
      · exact Or.inr (Or.inr ⟨_, [millis], rfl, rfl⟩)
      · exact Or.inr (Or.inr ⟨_, [], rfl, rfl⟩)
  | run command => exact Or.inr (Or.inr ⟨_, [], rfl, rfl⟩)

theorem run_action_logged (logged : runner.machine.Logged lines session) (action : Action) :
    (runner.runAction session action).Records (runner.machine.LoggedAt session.current) lines := by
  rcases run_action_cases runner session action with failed | stored | remarked
  · obtain ⟨failure, failed⟩ := failed
    rw [failed]
    exact Run.records_silent logged.here _
  · obtain ⟨environment, stored⟩ := stored
    rw [stored]
    have unmoved : runner.machine.Logged lines { session with environment := environment } :=
      ⟨logged.started, logged.opening, logged.path⟩
    exact Run.records_silent unmoved.here _
  · obtain ⟨line, pauses, remark, remarked⟩ := remarked
    rw [remarked, Run.Records, trace_remark]
    exact (logged.remark remark).here

theorem run_actions_logged (logged : runner.machine.Logged lines session) (actions : List Action) :
    (runner.runActions session actions).Records (runner.machine.LoggedAt session.current)
      lines := by
  induction actions generalizing session lines with
  | nil => exact Run.records_silent logged.here _
  | cons action rest induction =>
      apply (run_action_logged logged action).andThen (fun _ _ => id)
      rintro after final _ ⟨finalLogged, same⟩
      rw [← same]
      exact induction finalLogged

theorem start_logged (recorded : runner.machine.Recorded lines session) :
    (runner.start session).Records runner.machine.Logged lines := by
  unfold start
  rcases recorded with unlogged | logged
  · rw [unlogged.not_started, if_neg Bool.false_ne_true]
    have entered : (Run.say { session with started := true } (.entered session.current) ()).Records
        runner.machine.Logged lines := unlogged.entered
    apply entered.andThen (fun _ _ => id)
    intro after begun _ begunLogged
    exact (run_actions_logged begunLogged _).weaken fun _ _ => And.left
  · rw [logged.started, if_pos rfl]
    exact Run.records_silent logged _

theorem fire_logged (logged : runner.machine.Logged lines session) {transition : Transition}
    {target : State} (leads : runner.machine.Leads session.current target.name) :
    (runner.fire session transition target).Records runner.machine.Logged lines := by
  apply (run_actions_logged logged transition.actions).andThen (fun _ _ => And.left)
  -- The actions have not moved the session, so the line names the state that the path has come to.
  rintro after acted _ ⟨actedLogged, same⟩
  have moved : (Run.say { acted with current := target.name }
      (.transitioned session.current target.name) ()).Records runner.machine.Logged after := by
    have stepped := actedLogged.moved (same ▸ leads)
    rw [same] at stepped
    exact stepped
  apply moved.andThen (fun _ _ => id)
  intro after moved _ movedLogged
  apply (run_actions_logged movedLogged _).andThen (fun _ _ => And.left)
  rintro after entered _ ⟨enteredLogged, _⟩
  exact Run.records_silent enteredLogged _

structure Faces (runner : Runner) (session : Session) (event : String) (transition : Transition) :
    Prop where
  declared : runner.machine.hasEvent event = true
  handled : runner.machine.transitionIn? session.current event = some transition

theorem Faces.unique {event : String} {transition other : Transition}
    (faces : runner.Faces session event transition) (otherFaces : runner.Faces session event other) :
    transition = other :=
  Option.some.inj (faces.handled.symm.trans otherFaces.handled)

/-- Why a transition can neither be rejected nor fired: its guard fails or is no truth value, or its
target is not declared. -/
inductive Blocks (runner : Runner) (session : Session) (event : String) (transition : Transition) :
    Failure → Prop where
  | guard {fault : Fault} : judge session.environment transition.guard = .error fault →
      Blocks runner session event transition (.evaluation fault)
  | type {found : Ty} : judge session.environment transition.guard = .ok (.notBoolean found) →
      Blocks runner session event transition (.guardNotBoolean session.current event found)
  | target : judge session.environment transition.guard = .ok (.decided true) →
      runner.machine.stateNamed? transition.target = none →
      Blocks runner session event transition (.unknownState transition.target)

structure Opens (runner : Runner) (session : Session) (transition : Transition) (target : State) :
    Prop where
  allowed : judge session.environment transition.guard = .ok (.decided true)
  found : runner.machine.stateNamed? transition.target = some target

theorem Opens.unique {transition : Transition} {target other : State}
    (opens : runner.Opens session transition target)
    (otherOpens : runner.Opens session transition other) : target = other :=
  Option.some.inj (opens.found.symm.trans otherOpens.found)

theorem Blocks.not_opens {event : String} {transition : Transition} {target : State}
    {failure : Failure} (blocks : runner.Blocks session event transition failure) :
    ¬ runner.Opens session transition target := by
  rintro ⟨allowed, found⟩
  cases blocks with
  | guard faulty => simp [faulty] at allowed
  | type undecided => simp [undecided] at allowed
  | target _ missing => simp [missing] at found

/-- An event is answered by one line that changes nothing, fails at once, or fires a transition. -/
theorem handle_cases (runner : Runner) (session : Session) (event : String) :
    (∃ line outcome, line.isRemark = true ∧ (∀ source target, outcome ≠ .fired source target) ∧
      runner.handle session event = .say session line outcome) ∨
    (∃ (failure : Failure) (transition : Transition), runner.Faces session event transition ∧
      runner.Blocks session event transition failure ∧
      runner.handle session event = .fail session failure) ∨
    ∃ transition target, runner.Faces session event transition ∧
      runner.Opens session transition target ∧
      runner.handle session event = runner.fire session transition target := by
  have answered (line : TraceLine) (outcome : Outcome) (remark : line.isRemark = true)
      (rejects : ∀ source target, outcome ≠ .fired source target) :
      ∃ other answer, other.isRemark = true ∧ (∀ source target, answer ≠ .fired source target) ∧
        Run.say session line outcome = .say session other answer :=
    ⟨line, outcome, remark, rejects, rfl⟩
  unfold handle
  split
  · rename_i declared
    split
    · exact Or.inl (answered _ _ rfl fun _ _ => Outcome.noConfusion)
    · rename_i transition handled
      have faces : runner.Faces session event transition := ⟨declared, handled⟩
      split
      · next faulty => exact Or.inr (Or.inl ⟨_, transition, faces, .guard faulty, rfl⟩)
      · next undecided => exact Or.inr (Or.inl ⟨_, transition, faces, .type undecided, rfl⟩)
      · exact Or.inl (answered _ _ rfl fun _ _ => Outcome.noConfusion)
      · next allowed =>
          split
          · next missing =>
              exact Or.inr (Or.inl ⟨_, transition, faces, .target allowed missing, rfl⟩)
          · next target found =>
              exact Or.inr (Or.inr ⟨transition, target, faces, ⟨allowed, found⟩, rfl⟩)
  · exact Or.inl (answered _ _ rfl fun _ _ => Outcome.noConfusion)

theorem handle_logged (logged : runner.machine.Logged lines session) (event : String) :
    (runner.handle session event).Records runner.machine.Logged lines := by
  rcases handle_cases runner session event with answered | failed | fired
  · obtain ⟨line, outcome, remark, _, said⟩ := answered
    rw [said]
    exact logged.remark remark
  · obtain ⟨failure, _, _, _, failed⟩ := failed
    rw [failed]
    exact Run.records_silent logged _
  · obtain ⟨transition, target, faces, opens, fires⟩ := fired
    rw [fires]
    exact fire_logged logged
      (Machine.leads_of_transition faces.declared faces.handled opens.found)

theorem dispatch_logged (recorded : runner.machine.Recorded lines session) (event : String) :
    (runner.dispatch session event).Records runner.machine.Logged lines := by
  apply (start_logged recorded).andThen (fun _ _ => id)
  intro after begun _ begunLogged
  exact handle_logged begunLogged event

theorem dispatch_all_logged (logged : runner.machine.Logged lines session) (events : List String) :
    (runner.dispatchAll session events).Records runner.machine.Logged lines := by
  induction events generalizing session lines with
  | nil => exact Run.records_silent logged _
  | cons event rest induction =>
      apply (dispatch_logged (Or.inr logged) event).andThen (fun _ _ => id)
      intro after dispatched outcome dispatchedLogged
      apply (induction dispatchedLogged).andThen (fun _ _ => id)
      intro after final outcomes finalLogged
      exact Run.records_silent finalLogged _

theorem run_batch_recorded (recorded : runner.machine.Recorded lines session)
    (events : List String) :
    (runner.runBatch session events).Records runner.machine.Recorded lines := by
  unfold runBatch
  split
  · apply (start_logged recorded).andThen (fun _ _ => Or.inr)
    intro after begun _ begunLogged
    exact (dispatch_all_logged begunLogged events).weaken fun _ _ => Or.inr
  · exact Run.records_silent recorded _

/-- A session that could be opened can be reset, and is then as it was when it was opened. -/
theorem reset_opens {opened : Session} (opens : runner.machine.openSession = .ok opened)
    (session : Session) : runner.reset session = .done opened () := by
  obtain ⟨initial, environment, found, initialized, rfl⟩ := Machine.open_session_eq_ok opens
  simp only [reset, found, initialized]

theorem opened_unlogged {opened : Session} (opens : runner.machine.openSession = .ok opened) :
    runner.machine.Unlogged [] opened := by
  obtain ⟨initial, environment, found, _, rfl⟩ := Machine.open_session_eq_ok opens
  exact ⟨rfl, rfl, (Machine.state_named_mem found).2⟩

theorem stretches_faithful {opened : Session} (opens : runner.machine.openSession = .ok opened)
    (recorded : runner.machine.Recorded lines session) (calls : List Call) :
    ∀ stretch ∈ runner.stretches session lines calls, stretch.Faithful runner.machine := by
  -- What is recorded is kept by every call, and a reset makes it true again of an empty trace.
  induction calls generalizing session lines with
  | nil =>
      intro stretch member
      obtain rfl := List.mem_singleton.mp member
      exact recorded.faithful
  | cons call rest induction =>
      cases call with
      | start => exact induction (((start_logged recorded).map _).weaken fun _ _ => Or.inr)
      | dispatch event =>
          exact induction (((dispatch_logged recorded event).map _).weaken fun _ _ => Or.inr)
      | runBatch events => exact induction ((run_batch_recorded recorded events).map _)
      | reset =>
          intro stretch member
          rcases List.mem_cons.mp member with rfl | later
          · exact recorded.faithful
          · have fresh : runner.call session .reset = .done opened .done := by
              rw [call, reset_opens opens]
              rfl
            rw [fresh] at later
            exact induction (Or.inl (opened_unlogged opens)) stretch later

theorem stretches_lines (session : Session) (lines : List TraceLine) (calls : List Call) :
    (runner.stretches session lines calls).flatMap Stretch.lines =
      lines ++ (runner.runs session calls).flatMap fun run => traceOf run.emitted := by
  induction calls generalizing session lines with
  | nil => simp [stretches, runs]
  | cons call rest induction =>
      cases call <;> simp [stretches, runs, induction]

theorem fire_outcome {transition : Transition} {target : State} {outcome : Outcome}
    (fired : (runner.fire session transition target).result = .ok outcome) :
    outcome = .fired session.current target.name := by
  obtain ⟨_, _, moved⟩ := Run.and_then_eq_ok fired
  obtain ⟨_, _, entered⟩ := Run.and_then_eq_ok moved
  obtain ⟨_, _, done⟩ := Run.and_then_eq_ok entered
  cases done
  rfl

theorem dispatch_of_started (started : session.started = true) (event : String) :
    runner.dispatch session event = runner.handle session event := by
  rw [dispatch, start, if_pos started, Run.done_and_then]

theorem handle_rejected {event : String} {outcome : Outcome}
    (handled : (runner.handle session event).result = .ok outcome)
    (rejected : ∀ source target, outcome ≠ .fired source target) :
    (runner.handle session event).session = session ∧
      ∃ line, (runner.handle session event).emitted = [.line line] := by
  rcases handle_cases runner session event with answered | failed | fired
  · obtain ⟨line, answer, _, _, said⟩ := answered
    rw [said]
    exact ⟨rfl, line, rfl⟩
  · obtain ⟨failure, _, _, _, failed⟩ := failed
    rw [failed] at handled
    nomatch handled
  · obtain ⟨transition, target, _, _, fires⟩ := fired
    rw [fires] at handled
    exact absurd (fire_outcome handled) (rejected _ _)

/-- Between two resets the trace is empty or begins with the initial state, which it enters but
once. The moves that it reports follow one another along first transitions, and lead from the
initial state to the current one, also after calls that failed. An event that is rejected leaves the
session as it is and adds one line. -/
theorem trace_follows_session {opened : Session}
    (opens : runner.machine.openSession = .ok opened) (calls : List Call) :
    (runner.stretches opened [] calls).flatMap Stretch.lines =
        (runner.runs opened calls).flatMap (fun run => traceOf run.emitted) ∧
      (∀ stretch ∈ runner.stretches opened [] calls, stretch.Faithful runner.machine) ∧
      ∀ session event outcome, session.started = true →
        (runner.dispatch session event).result = .ok outcome →
        outcome = .guardRejected ∨ outcome = .noTransition ∨ outcome = .unknownEvent →
        (runner.dispatch session event).session = session ∧
          ∃ line, (runner.dispatch session event).emitted = [.line line] := by
  refine ⟨stretches_lines opened [] calls, ?_, ?_⟩
  · exact stretches_faithful opens (Or.inl (opened_unlogged opens)) calls
  · intro session event outcome started handled rejected
    rw [dispatch_of_started started] at handled ⊢
    apply handle_rejected handled
    intro source target fired
    rw [fired] at rejected
    rcases rejected with guarded | missing | unknown
    · nomatch guarded
    · nomatch missing
    · nomatch unknown

end Runner

def turnstileMachine : Machine where
  name := "Turnstile"
  attributes := [⟨"cents", .int, none⟩]
  events := ["coin", "push", "kick"]
  commands := []
  states :=
    [{ name := "Locked"
       transitions :=
         [⟨"coin", none, "Open",
            [.assign "cents"
              (.binary .add (.reference "cents") (.literal (.int ⟨50, by decide, by decide⟩)))]⟩,
          ⟨"coin", none, "Locked", []⟩,
          ⟨"push", some (.literal (.bool false)), "Open", []⟩]
       entry := [] },
     { name := "Open"
       transitions := [⟨"push", none, "Locked", [.timeout 5]⟩, ⟨"kick", none, "Broken", []⟩]
       entry := [.print [.text "cents: ", .value (.reference "cents")]] },
     { name := "Broken"
       transitions := []
       entry := [.assign "cents" (.binary .div (.reference "cents") (.literal (.int Word.zero)))] }]
  initial := "Locked"

def turnstileRunner : Runner := ⟨turnstileMachine, .everyEntry, true⟩

def turnstileSession : Session := ⟨Environment.empty.set "cents" (.int Word.zero), "Locked", false⟩

def turnstileCalls : List Call :=
  [.dispatch "push", .dispatch "coin", .runBatch ["push", "coin", "kick", "coin"], .dispatch "coin",
    .reset, .reset, .start]

theorem turnstile_trace_follows :
    turnstileRunner.machine.openSession = .ok turnstileSession ∧
      (turnstileRunner.stretches turnstileSession [] turnstileCalls).map Stretch.lines =
        [[.entered "Locked", .notAllowed, .transitioned "Locked" "Open", .print "cents: 50",
            .delay 5, .transitioned "Open" "Locked", .transitioned "Locked" "Open",
            .print "cents: 100", .transitioned "Open" "Broken", .noTransition "coin" "Broken"],
          [], [.entered "Locked"]] ∧
      (∀ stretch ∈ turnstileRunner.stretches turnstileSession [] turnstileCalls,
        turnstileMachine.Path "Locked" (movesOf stretch.lines) stretch.last.current) ∧
      ∃ line, (turnstileRunner.dispatch { turnstileSession with started := true } "push").emitted =
        [.line line] := by
  obtain ⟨_, follows, rejects⟩ := Runner.trace_follows_session
    (show turnstileRunner.machine.openSession = .ok turnstileSession from rfl) turnstileCalls
  refine ⟨rfl, by decide, fun stretch member => (follows stretch member).path, ?_⟩
  exact (rejects { turnstileSession with started := true } "push" .guardRejected rfl rfl
    (Or.inl rfl)).2

end StateMachine
