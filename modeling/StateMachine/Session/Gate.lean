import StateMachine.Bindings

/-!
Gates refuse an event while another one is being processed. A gate is a name for a cell; copies of a
gate share its cell. Entering a gate puts its cell into processing and yields a guard, and dropping
the guard, wherever it is kept, makes the cell idle again.
-/

set_option autoImplicit false

namespace StateMachine

/-- Gates by name and guards by the slot that keeps them, each with its cell. -/
structure Gates where
  /-- Number of cells made so far; cells are numbered from zero. -/
  cells : Nat
  gates : List (String × Nat)
  guards : List (String × Nat)
  processing : List Nat
deriving DecidableEq, Repr

namespace Gates

def empty : Gates := ⟨0, [], [], []⟩

def isProcessing (state : Gates) (cell : Nat) : Bool := state.processing.contains cell

def create (state : Gates) (gate : String) : Gates :=
  { state with
    cells := state.cells + 1
    gates := setBinding gate state.cells state.gates }

/-- Makes `copy` share the cell of `gate`; nothing when there is no such gate. -/
def copy? (state : Gates) (gate copy : String) : Option Gates :=
  (state.gates.lookup gate).map fun cell =>
    { state with gates := setBinding copy cell state.gates }

/-- Drops a gate. Its cell stays with the copies and with the guard that share it. -/
def discard (state : Gates) (gate : String) : Gates :=
  { state with gates := state.gates.filter fun bound => !(bound.1 == gate) }

/-- Drops the guard kept in a slot. The flag tells whether there was one. -/
def drop (state : Gates) (slot : String) : Gates × Bool :=
  match state.guards.lookup slot with
  | none => (state, false)
  | some cell =>
      ({ state with
          guards := state.guards.filter fun guard => !(guard.1 == slot)
          processing := state.processing.filter fun other => !(other == cell) }, true)

/-- Tries to enter a gate and keep the guard in a slot. A guard that the slot held is dropped after
the new one has been made. Nothing when there is no such gate. -/
def enter? (state : Gates) (gate slot : String) : Option (Gates × Bool) :=
  (state.gates.lookup gate).map fun cell =>
    if state.isProcessing cell then (state, false)
    else
      let cleared := (state.drop slot).1
      ({ cleared with
          guards := setBinding slot cell cleared.guards
          processing := cell :: cleared.processing }, true)

end Gates

end StateMachine
