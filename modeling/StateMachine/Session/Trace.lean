/-!
What a session shows: lines of its trace, and pauses.
-/

set_option autoImplicit false

namespace StateMachine

inductive TraceLine where
  | entered (state : String)
  | transitioned (source target : String)
  | notAllowed
  | noTransition (event state : String)
  | print (text : String)
  | command (name : String)
  | delay (millis : UInt64)
  | unknownEvent (event machine : String)
deriving DecidableEq, Repr

def TraceLine.text : TraceLine → String
  | .entered state => "[" ++ state ++ "]"
  | .transitioned source target => source ++ " ==> " ++ target
  | .notAllowed => "Transition not allowed."
  | .noTransition event state => "No transition for event " ++ event ++ " in state " ++ state ++ "."
  | .print content => content
  | .command name => "Run Command: " ++ name ++ "()"
  | .delay millis => "Delaying transition for " ++ toString millis.toNat ++ " milliseconds..."
  | .unknownEvent event machine =>
      "There is no event " ++ event ++ " in the " ++ machine ++ " statemachine."

inductive Emission where
  | line (line : TraceLine)
  | pause (millis : UInt64)
deriving DecidableEq, Repr

def traceOf (emitted : List Emission) : List TraceLine :=
  emitted.filterMap fun emission =>
    match emission with
    | .line line => some line
    | .pause _ => none

def pausesOf (emitted : List Emission) : List UInt64 :=
  emitted.filterMap fun emission =>
    match emission with
    | .line _ => none
    | .pause millis => some millis

end StateMachine
