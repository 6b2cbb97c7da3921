/-!
Documents: models as people write them. Names are texts, types are words, and expressions are still
source text, so nothing has been looked up or checked.
-/

set_option autoImplicit false

namespace StateMachine

structure AttributeDraft where
  name : String
  ty : String
  default : Option String
deriving DecidableEq, Repr

inductive ActionDraft where
  | assign (target value : String)
  | print (parts : List String)
  | timeout (millis : UInt64)
  | run (command : String)
deriving DecidableEq, Repr

structure TransitionDraft where
  event : String
  guard : Option String
  target : String
  actions : List ActionDraft
deriving DecidableEq, Repr

structure StateDraft where
  name : String
  entry : List ActionDraft
  transitions : List TransitionDraft
deriving DecidableEq, Repr

structure Document where
  name : String
  events : List String
  commands : List String
  attributes : List AttributeDraft
  initial : String
  states : List StateDraft
deriving DecidableEq, Repr

end StateMachine
