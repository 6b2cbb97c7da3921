import StateMachine.Document.Basic
import StateMachine.Yaml.Shape

/-!
What the places of a document hold. Actions are read as they are written, since their kind hangs on
all of their parts.
-/

set_option autoImplicit false

namespace StateMachine

open Yaml (Shape)

def AttributeDraft.shape : Shape :=
  .record [("name", .name), ("type", .name), ("default", .optional)]

def TransitionDraft.shape : Shape :=
  .record [("event", .name), ("guard", .optional), ("target", .name), ("actions", .list .any)]

def StateDraft.shape : Shape :=
  .record [("name", .name), ("actions", .list .any), ("transitions", .list TransitionDraft.shape)]

def Document.shape : Shape :=
  .record [("name", .name), ("events", .list .name), ("commands", .list .name),
    ("attributes", .list AttributeDraft.shape), ("initial", .name),
    ("states", .list StateDraft.shape)]

end StateMachine
