import StateMachine.Command.Live
import StateMachine.Command.Tool

/-!
The programs as they run: files, streams, pauses and exit codes. With `live` as its first argument it
is the live program, otherwise the command line tool.
-/

set_option autoImplicit false

namespace StateMachine.Main

def storageOf (paths : List String) : IO Storage := do
  let found ← paths.mapM fun (path : String) => do
    try
      return (path, Except.ok (← IO.FS.readBinFile path))
    catch error => return (path, Except.error (toString error))
  return fun path => (found.lookup path).getD (.error "not read")

def showText (content : String) : IO Unit := do
  let output ← IO.getStdout
  output.putStr content
  output.flush

def wait (millis : Nat) : IO Unit := do
  if millis > 1000000000 then
    IO.sleep 1000000000
    wait (millis - 1000000000)
  else IO.sleep millis.toUInt32
termination_by millis
decreasing_by omega

def perform : Emission → IO Unit
  | .line line => showText (line.text ++ "\n")
  | .pause millis => wait millis.toNat

def performAll (emitted : List Emission) : IO Unit := emitted.forM perform

def place (screen : Screen) : IO Screen := do
  try
    if let some file := screen.file then
      unless file.directory == "" do IO.FS.createDirAll file.directory
      IO.FS.writeFile file.path file.content
    return screen
  catch error => return screen.unwritten (toString error)

def present (screen : Screen) : IO UInt32 := do
  let placed ← place screen
  IO.eprint placed.errors
  showText placed.output
  return placed.exitCode.toUInt32

/-! The console -/

partial def converse (runner : Runner) (session : Session) : IO Unit := do
  let line ← (← IO.getStdin).getLine
  if line.isEmpty then showText Console.farewell
  else
    let read := (Terminal.inputLines line).headD ""
    let turn := Console.turn runner session (Console.Request.ofLine read)
    performAll turn.emitted
    showText (Console.Turn.text { turn with emitted := [] })
    match turn.reply with
    | .shown _ => converse runner turn.session
    | .quit | .failed _ => return

def openConsole (machine : Machine) : IO UInt32 := do
  showText (Tool.title machine)
  match machine.openSession with
  | .error failure => present (Screen.fails failure.message)
  | .ok session =>
      let runner : Runner := ⟨machine, Console.options⟩
      let begun := runner.start session
      performAll begun.emitted
      match begun.result with
      | .error failure => present (Screen.fails failure.message)
      | .ok () =>
          showText Console.greeting
          converse runner begun.session
          return 0

def fileOf : Command → String
  | .validate file | .interpret file _ _ | .generate file _ | .tree file => file

def runTool (arguments : List String) : IO UInt32 := do
  match Tool.read arguments with
  | .asked (.console file) =>
      match loadChecked (← storageOf [file]) file with
      | .error failure => present (Screen.fails failure.message)
      | .ok (machine, warnings) =>
          IO.eprint ((Screen.shows "").warned warnings).errors
          openConsole machine
  | .asked (.command command) =>
      let report := command.execute (← storageOf [fileOf command])
      report.pauses.forM fun millis => wait millis.toNat
      present (Tool.ofReport report)
  | .shown text => present (Screen.shows text)
  | .refused rejection => present (Screen.refuses rejection)

/-! The live program -/

inductive Signal where
  | line (text : String)
  | garbled
  | closed
  | worked

def launch (action : IO Signal) (broken : Signal) : IO (Task Signal) := do
  let task ← IO.asTask action Task.Priority.dedicated
  return task.map fun result =>
    match result with
    | .ok signal => signal
    | .error _ => broken

def readLine : IO Signal := do
  let line ← (← IO.getStdin).getLine
  return if line.isEmpty then .closed else .line line

/-- Performs the emissions of the event in flight, if there is one. -/
def workOff (live : Live) : IO (Option (Task Signal)) := do
  match live.awaited with
  | some _ => return some (← launch (do performAll live.due; return .worked) .worked)
  | none => return none

partial def playOn (runner : Runner) (live : Live) (reader worker : Option (Task Signal)) :
    IO Live := do
  if live.ended.isSome then return live
  match worker.toList ++ reader.toList with
  | [] => return live
  | first :: others =>
      match ← IO.waitAny (first :: others) (Nat.zero_lt_succ _) with
      | .worked => playOn runner (live.settle runner false).1 reader none
      | .closed => playOn runner (live.advance runner .close) none worker
      | .garbled => playOn runner (live.advance runner .garbled) none worker
      | .line text =>
          let read := live.advance runner (.line text)
          let next ← launch readLine .garbled
          if live.gate = .processing then playOn runner read (some next) worker
          else
            let begun := read.rouse runner
            playOn runner begun (some next) (← workOff begun)

def play (settings : Settings) (machine : Machine) : IO UInt32 := do
  match machine.openSession with
  | .error failure => present (Screen.fails failure.message)
  | .ok session =>
      let runner : Runner := ⟨machine, settings.session.options⟩
      let begun := Live.begin runner session
      performAll begun.emitted
      let live ← playOn runner begun (some (← launch readLine .garbled)) none
      match live.ended with
      | some (.error (.machine failure)) => present (Screen.fails failure.message)
      | some (.error .input) => present (Screen.fails "the input is not UTF-8 text")
      | some (.ok ()) | none => return 0

def readVariables : IO Settings.Variables := do
  let names := ["FSML_ENTRY_ACTIONS", "FSML_HONOR_DELAYS", "FSML_STRICT",
    "FSML_WARNINGS_AS_ERRORS", "FSML_OUT_DIR", Settings.fileVariable]
  let found ← names.mapM fun name => do return (name, ← IO.getEnv name)
  return fun name => (found.lookup name).join

def runLive (arguments : List String) : IO UInt32 := do
  let known ← readVariables
  match LiveProgram.read known arguments with
  | .asked request =>
      let storage ← storageOf (request.model :: request.settings.toList)
      match LiveProgram.prepare storage known request with
      | .error message => present (Screen.fails message)
      | .ok (settings, machine) =>
          if request.emit then present (LiveProgram.emitProgram settings machine)
          else play settings machine
  | .shown text => present (Screen.shows text)
  | .refused rejection => present (Screen.refuses rejection)

end StateMachine.Main

def main (arguments : List String) : IO UInt32 :=
  match arguments with
  | "live" :: rest => StateMachine.Main.runLive rest
  | _ => StateMachine.Main.runTool arguments
