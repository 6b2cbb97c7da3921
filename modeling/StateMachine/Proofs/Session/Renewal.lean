import StateMachine.Proofs.Session.Journal

/-!
A reset as a new beginning. Whatever was done before it, and wherever that failed, what follows a
reset is what would follow the opening of the session.
-/

set_option autoImplicit false

namespace StateMachine

namespace Runner

variable {runner : Runner} {opened : Session}

theorem runs_append (session : Session) (first second : List Call) :
    runner.runs session (first ++ second) =
      runner.runs session first ++ runner.runs (runner.after session first) second := by
  induction first generalizing session with
  | nil => rfl
  | cons call rest induction => simp only [List.cons_append, runs, after, induction]

theorem after_append (session : Session) (first second : List Call) :
    runner.after session (first ++ second) =
      runner.after (runner.after session first) second := by
  induction first generalizing session with
  | nil => rfl
  | cons call rest induction => exact induction _

/-- Neither step of a reset can fail in a session that could be opened, and nothing of the session is
kept. -/
theorem call_reset (opens : runner.machine.openSession = .ok opened) (session : Session) :
    runner.call session .reset = .done opened .done := by
  rw [call, reset_opens opens]
  rfl

/-- A reset succeeds whatever was called before. The calls after it give the results, lines and
pauses that they give in a session just opened, and leave the same session at each point. -/
theorem reset_opens_anew (opens : runner.machine.openSession = .ok opened)
    (earlier later : List Call) :
    runner.runs opened (earlier ++ .reset :: later) =
        runner.runs opened earlier ++ .done opened .done :: runner.runs opened later ∧
      runner.after opened (earlier ++ .reset :: later) = runner.after opened later := by
  have renewed := call_reset opens (runner.after opened earlier)
  constructor
  · rw [runs_append, runs, renewed]
    rfl
  · rw [after_append, after, renewed]
    rfl

end Runner

def lampMachine : Machine where
  name := "Lamp"
  attributes := [⟨"level", .int, none⟩]
  events := ["dim", "light"]
  commands := ["hum"]
  states :=
    [{ name := "Dark"
       transitions :=
         [⟨"dim", none, "Dark",
            [.assign "level" (.literal (.int ⟨30, by decide, by decide⟩)), .timeout 3,
             .assign "level" (.literal (.bool false))]⟩,
          ⟨"light", none, "Bright", [.run "hum"]⟩]
       entry :=
         [.assign "level" (.literal (.int ⟨45, by decide, by decide⟩)),
          .print [.value (.reference "dimmer")]] },
     { name := "Bright"
       transitions := []
       entry := [.assign "level" (.binary .div (.reference "level") (.literal (.int Word.zero)))] }]
  initial := "Dark"

def lampRunner : Runner := ⟨lampMachine, .everyEntry, true⟩

def lampSession : Session := ⟨Environment.empty.set "level" (.int Word.zero), "Dark", false⟩

def lampCalls : List Call := [.start, .dispatch "dim", .dispatch "light"]

theorem lamp_opens_anew :
    lampRunner.machine.openSession = .ok lampSession ∧
      (lampRunner.runs lampSession lampCalls).map Run.result =
        [.error (.evaluation (.unbound "dimmer")),
          .error (.evaluation (.mismatch (.assignment "level") .int .bool)),
          .error (.evaluation .divisionByZero)] ∧
      lampRunner.after lampSession lampCalls =
        ⟨Environment.empty.set "level" (.int ⟨30, by decide, by decide⟩), "Bright", true⟩ ∧
      lampRunner.runs lampSession (lampCalls ++ .reset :: lampCalls) =
        lampRunner.runs lampSession lampCalls ++
          .done lampSession .done :: lampRunner.runs lampSession lampCalls :=
  ⟨rfl, rfl, rfl, (Runner.reset_opens_anew rfl lampCalls lampCalls).1⟩

end StateMachine
