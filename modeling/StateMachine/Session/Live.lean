import StateMachine.Session.Basic
import StateMachine.Text.Split

/-!
Live sessions: events arrive line by line while earlier ones are still being processed. A reader
lets an event through a gate and hands it to a worker; a line that meets a closed gate is counted
and dropped. Reader and workers move independently: `Live.advance` is one move of any of them, so a
sequence of moves is an interleaving.
-/

set_option autoImplicit false

namespace StateMachine

inductive Status where
  | idle
  | processing
deriving DecidableEq, Repr

/-- How far the worker of an event has come. It holds the guard of the gate until it is done. -/
inductive Stage where
  | waiting
  /-- It has the machine and still has to emit `pending`; then the call ends with `after` and
  `result`. -/
  | working (pending : List Emission) (after : Session) (result : Except Failure Outcome)
  /-- It has given the machine back. -/
  | leaving (result : Except Failure Outcome)
  | done (result : Except Failure Outcome)

structure LiveTask where
  event : String
  stage : Stage

inductive LiveFailure where
  | machine (failure : Failure)
  /-- The input is not text. -/
  | input

inductive Reader where
  | reading
  /-- It holds the guard for an event, and takes the result of the event before it first. -/
  | admitting (event : String)
  /-- The input has ended, and the result of the last event is still to be taken. -/
  | closing
  | ended (result : Except LiveFailure Unit)

structure Live where
  /-- The session as of the last time that the machine was given back. -/
  session : Session
  gate : Status
  tasks : List LiveTask
  /-- Place of the task whose result the reader has not taken. -/
  awaited : Option Nat
  reader : Reader
  outcomes : List Outcome
  ignored : Nat
  emitted : List Emission

inductive LiveMove where
  | work (place : Nat)
  | collect
  | line (text : String)
  /-- The reader meets bytes that are not text. -/
  | garbled
  | close

namespace Stage

def holdsMachine : Stage → Bool
  | .working _ _ _ => true
  | _ => false

def pending : Stage → List Emission
  | .working pending _ _ => pending
  | _ => []

end Stage

namespace Live

def ended (live : Live) : Option (Except LiveFailure Unit) :=
  match live.reader with
  | .ended result => some result
  | _ => none

def awaitedTask? (live : Live) : Option LiveTask :=
  live.awaited.bind fun place => live.tasks[place]?

def setStage (live : Live) (place : Nat) (stage : Stage) : Live :=
  { live with tasks := live.tasks.modify place fun task => { task with stage := stage } }

/-- Hands an event to a worker of its own, together with the guard. -/
def launch (live : Live) (event : String) : Live :=
  { live with
    tasks := live.tasks ++ [⟨event, .waiting⟩]
    awaited := some live.tasks.length
    reader := .reading }

/-- The next step of a worker. Workers also go on when the run has ended early. -/
def work (runner : Runner) (live : Live) (place : Nat) : Live :=
  match live.tasks[place]? with
  | none => live
  | some task =>
      match task.stage with
      | .waiting =>
          if live.tasks.any fun other => other.stage.holdsMachine then live
          else
            let run := runner.dispatch live.session task.event
            live.setStage place (.working run.emitted run.session run.result)
      | .working (emission :: pending) after result =>
          { live.setStage place (.working pending after result) with
            emitted := live.emitted ++ [emission] }
      | .working [] after result => { live.setStage place (.leaving result) with session := after }
      | .leaving result => { live.setStage place (.done result) with gate := .idle }
      | .done _ => live

/-- The reader goes on with a result in hand. A failure ends the run, and drops the guard if an
event is being admitted. -/
def settleResult (live : Live) (result : Except Failure Outcome) : Live :=
  match result, live.reader with
  | _, .ended _ => live
  | .error failure, .admitting _ =>
      { live with awaited := none, gate := .idle, reader := .ended (.error (.machine failure)) }
  | .error failure, _ =>
      { live with awaited := none, reader := .ended (.error (.machine failure)) }
  | .ok outcome, .reading =>
      { live with awaited := none, outcomes := live.outcomes ++ [outcome] }
  | .ok outcome, .admitting event =>
      { live with outcomes := live.outcomes ++ [outcome] }.launch event
  | .ok outcome, .closing =>
      { live with
        awaited := none
        outcomes := live.outcomes ++ [outcome]
        reader := .ended (.ok ()) }

def collect (live : Live) : Live :=
  match live.awaitedTask? with
  | some ⟨_, .done result⟩ => live.settleResult result
  | _ => live

/-- The event that a line asks for; none when it is blank. -/
def eventIn? (text : String) : Option String :=
  match Text.trim text.toList with
  | [] => none
  | event => some (String.ofList event)

/-- The reader handles a line. A blank one is passed over, and any other has to pass the gate. -/
def takeLine (live : Live) (text : String) : Live :=
  match eventIn? text, live.gate, live.awaited with
  | none, _, _ => live
  | some _, .processing, _ => { live with ignored := live.ignored + 1 }
  | some event, .idle, none => { live with gate := .processing }.launch event
  | some event, .idle, some _ =>
      { live with gate := .processing, reader := .admitting event }

def whileReading (live next : Live) : Live :=
  match live.reader with
  | .reading => next
  | _ => live

def advance (runner : Runner) (live : Live) : LiveMove → Live
  | .work place => live.work runner place
  | .collect => live.collect
  | .line text => live.whileReading (live.takeLine text)
  | .garbled => live.whileReading { live with reader := .ended (.error .input) }
  | .close =>
      live.whileReading
        { live with
          reader :=
            match live.awaited with
            | none => .ended (.ok ())
            | some _ => .closing }

def advanceAll (runner : Runner) (live : Live) : List LiveMove → Live
  | [] => live
  | move :: rest => (live.advance runner move).advanceAll runner rest

/-- The beginning of a run: the session is started, pauses included, before any input is read. -/
def begin (runner : Runner) (session : Session) : Live :=
  let run := runner.start session
  { session := run.session, gate := .idle, tasks := [], awaited := none, outcomes := [],
    ignored := 0, emitted := run.emitted,
    reader :=
      match run.result with
      | .ok () => .reading
      | .error failure => .ended (.error (.machine failure)) }

/-! A schedule without races: each line is read only when the worker is done with the line before or
waits in a pause. -/

/-- The worker of the awaited task takes the machine, if it still waits for it. -/
def rouse (runner : Runner) (live : Live) : Live :=
  match live.awaited, live.awaitedTask?.map LiveTask.stage with
  | some place, some .waiting => live.advance runner (.work place)
  | _, _ => live

def due (live : Live) : List Emission :=
  (live.awaitedTask?.map fun task => task.stage.pending).getD []

/-- The worker of the awaited task goes on to the end of its event and the result is collected. When
`hold`, it stops after the first pause instead; the flag tells whether it stopped. -/
def settle (runner : Runner) (hold : Bool) (live : Live) : Live × Bool :=
  let rec go (live : Live) (place : Nat) : List Emission → Live × Bool
    | [] => (live.advanceAll runner [.work place, .work place, .collect], false)
    | .line _ :: pending => go (live.advance runner (.work place)) place pending
    | .pause _ :: pending =>
        let waited := live.advance runner (.work place)
        if hold then (waited, true) else go waited place pending
  match live.awaited with
  | none => (live, false)
  | some place =>
      let roused := live.rouse runner
      go roused place roused.due

inductive Feed where
  | bytes (bytes : List UInt8)
  /-- Ends the pause that the worker waits in, if it does. -/
  | release

/-- A scheduled run: the live session, whether the worker waits in a pause, and the bytes of a line
that has not ended. -/
structure Schedule where
  live : Live
  held : Bool
  buffer : List UInt8

/-- The line made of these bytes, without a carriage return at its end. -/
def decodeLine? (bytes : List UInt8) : Option String :=
  let stripped :=
    match bytes.getLast? with
    | some 13 => bytes.dropLast
    | _ => bytes
  String.fromUTF8? ⟨stripped.toArray⟩

def takeBytes (runner : Runner) (hold : Bool) (schedule : Schedule) (line : List UInt8) :
    Schedule :=
  let move :=
    match decodeLine? line with
    | some text => LiveMove.line text
    | none => .garbled
  let read := schedule.live.advance runner move
  if read.ended.isSome || schedule.held then { schedule with live := read }
  else
    let (live, held) := read.settle runner hold
    { schedule with live := live, held := held }

def feedBytes (runner : Runner) (hold : Bool) (schedule : Schedule) : List UInt8 → Schedule
  | [] => schedule
  | byte :: rest =>
      if schedule.live.ended.isSome then schedule
      else if byte = 10 then
        let read := takeBytes runner hold { schedule with buffer := [] } schedule.buffer.reverse
        feedBytes runner hold read rest
      else feedBytes runner hold { schedule with buffer := byte :: schedule.buffer } rest

def feed (runner : Runner) (hold : Bool) (schedule : Schedule) : Feed → Schedule
  | .bytes bytes => feedBytes runner hold schedule bytes
  | .release =>
      if schedule.held && !schedule.live.ended.isSome then
        let (live, held) := schedule.live.settle runner hold
        { schedule with live := live, held := held }
      else schedule

/-- The end of the input: remaining pauses pass, an unfinished line is taken as a line, and the run
is concluded. An event that is still in flight after an early end is processed to its end. -/
def finish (runner : Runner) (schedule : Schedule) : Live :=
  let settled := (schedule.live.settle runner false).1
  let read :=
    if settled.ended.isSome || schedule.buffer.isEmpty then settled
    else
      (takeBytes runner false ⟨settled, false, []⟩ schedule.buffer.reverse).live
  read.advance runner .close

def run (runner : Runner) (hold : Bool) (session : Session) (feeds : List Feed) : Live :=
  finish runner (feeds.foldl (feed runner hold) ⟨begin runner session, false, []⟩)

end Live

end StateMachine
