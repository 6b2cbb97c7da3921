/-!
Data trees, the common ground of the written forms of models, documents and settings. A reader
turns text into a datum; what a datum stands for depends on what is expected at its place.
-/

set_option autoImplicit false

namespace StateMachine

inductive Key where
  | name (content : String)
  /-- The place of the part among those that are looked for. -/
  | place (position : Nat)
  | other
deriving DecidableEq, Repr

inductive Datum where
  | null
  | flag (holds : Bool)
  /-- An integer that fits into 64 bits, with or without a sign. -/
  | integer (number : Int)
  /-- Any other number. Nothing in a model is written with one, so its value is not kept. -/
  | real
  | text (content : String)
  | list (items : List Datum)
  | record (fields : List (String × Datum))
  | mapping (pairs : List (Key × Datum))
  /-- A part that is well formed but has no value, such as a text with half a surrogate pair. It
  may stand where nothing is read, and nowhere else. -/
  | unreadable
deriving Repr

namespace Datum

mutual

def isReadable : Datum → Bool
  | .unreadable => false
  | .list items => allReadable items
  | .record fields => fieldsReadable fields
  | .mapping pairs => pairsReadable pairs
  | .null | .flag _ | .integer _ | .real | .text _ => true

def allReadable : List Datum → Bool
  | [] => true
  | item :: rest => item.isReadable && allReadable rest

def fieldsReadable : List (String × Datum) → Bool
  | [] => true
  | (_, part) :: rest => part.isReadable && fieldsReadable rest

def pairsReadable : List (Key × Datum) → Bool
  | [] => true
  | (_, part) :: rest => part.isReadable && pairsReadable rest

end

end Datum

end StateMachine
