import Mathlib.Data.List.Nodup
import StateMachine.Proofs.Environment.Binding
import StateMachine.Session.Gate

/-!
Gates in every interleaving of what is done with them. Dropping a guard makes its cell idle without
looking at anything else, so all rests on one invariant: no two guards that are kept have the same
cell, and the cells in processing are theirs.
-/

set_option autoImplicit false

namespace StateMachine

/-- What can be done with gates and guards, by whoever has them. -/
inductive GateMove where
  | create (gate : String)
  | copy (gate copy : String)
  | discard (gate : String)
  | enter (gate slot : String)
  | drop (slot : String)
deriving DecidableEq, Repr

/-- The move leaves the guard of a slot where it is. -/
def GateMove.Spares (slot : String) : GateMove → Prop
  | .enter _ other => other ≠ slot
  | .drop other => other ≠ slot
  | _ => True

section Bindings

variable {α : Type} {name : String} {value : α} {bindings : List (String × α)}

theorem set_binding_of_unbound (unbound : name ∉ bindings.map Prod.fst) :
    setBinding name value bindings = bindings ++ [(name, value)] := by
  induction bindings with
  | nil => rfl
  | cons binding rest induction =>
      simp only [List.map_cons, List.mem_cons, not_or] at unbound
      have apart : binding.1 ≠ name := fun same => unbound.1 same.symm
      simp only [setBinding, apart, if_false, List.cons_append, induction unbound.2]

theorem bound_in_set_binding {other : α}
    (bound : other ∈ (setBinding name value bindings).map Prod.snd) :
    other = value ∨ other ∈ bindings.map Prod.snd := by
  induction bindings with
  | nil => exact Or.inl (by simpa [setBinding] using bound)
  | cons binding rest induction =>
      by_cases here : binding.1 = name
      · simp only [setBinding, here, if_true, List.map_cons, List.mem_cons] at bound ⊢
        rcases bound with first | later
        · exact Or.inl first
        · exact Or.inr (Or.inr later)
      · simp only [setBinding, here, if_false, List.map_cons, List.mem_cons] at bound ⊢
        rcases bound with first | later
        · exact Or.inr (Or.inl first)
        · rcases induction later with same | elsewhere
          · exact Or.inl same
          · exact Or.inr (Or.inr elsewhere)

theorem mem_of_lookup (found : bindings.lookup name = some value) : (name, value) ∈ bindings := by
  obtain ⟨before, after, split, _⟩ := List.lookup_eq_some_iff.mp found
  rw [split]
  simp

theorem lookup_of_mem (distinct : (bindings.map Prod.fst).Nodup)
    (member : (name, value) ∈ bindings) : bindings.lookup name = some value := by
  induction bindings with
  | nil => nomatch member
  | cons binding rest induction =>
      obtain ⟨bound, held⟩ := binding
      simp only [List.map_cons, List.nodup_cons] at distinct
      rw [lookup_cons_eq_ite]
      rcases List.mem_cons.mp member with first | later
      · cases first
        exact if_pos rfl
      · have apart : name ≠ bound := by
          rintro rfl
          exact distinct.1 (List.mem_map_of_mem later)
        rw [if_neg apart]
        exact induction distinct.2 later

end Bindings

namespace Gates

variable {state : Gates} {gate slot other : String} {cell : Nat}

/-- One move. Nothing happens where there is no gate or no guard of the name. -/
def advance (state : Gates) : GateMove → Gates
  | .create gate => state.create gate
  | .copy gate copy => (state.copy? gate copy).getD state
  | .discard gate => state.discard gate
  | .enter gate slot => ((state.enter? gate slot).map Prod.fst).getD state
  | .drop slot => (state.drop slot).1

def advanceAll (state : Gates) (moves : List GateMove) : Gates := moves.foldl advance state

def holders (state : Gates) (cell : Nat) : List String :=
  (state.guards.filter fun guard => guard.2 == cell).map Prod.fst

theorem mem_holders : slot ∈ state.holders cell ↔ (slot, cell) ∈ state.guards := by
  simp [holders]

structure Exclusive (state : Gates) : Prop where
  slots_nodup : (state.guards.map Prod.fst).Nodup
  held_nodup : (state.guards.map Prod.snd).Nodup
  processing_iff : ∀ cell, cell ∈ state.processing ↔ cell ∈ state.guards.map Prod.snd
  gate_made : ∀ cell ∈ state.gates.map Prod.snd, cell < state.cells
  held_made : ∀ cell ∈ state.guards.map Prod.snd, cell < state.cells

theorem is_processing_iff : state.isProcessing cell = true ↔ cell ∈ state.processing :=
  List.contains_iff_mem

theorem enter_eq (found : state.gates.lookup gate = some cell) (slot : String) :
    state.enter? gate slot =
      if cell ∈ state.processing then some (state, false)
      else
        let cleared := (state.drop slot).1
        some ({ cleared with
          guards := setBinding slot cell cleared.guards
          processing := cell :: cleared.processing }, true) := by
  simp only [enter?, found, Option.map_some, is_processing_iff]
  split <;> rfl

theorem drop_gates (state : Gates) (slot : String) : (state.drop slot).1.gates = state.gates := by
  unfold drop
  split <;> rfl

theorem drop_cells (state : Gates) (slot : String) : (state.drop slot).1.cells = state.cells := by
  unfold drop
  split <;> rfl

theorem drop_guards (state : Gates) (slot : String) :
    (state.drop slot).1.guards = state.guards.filter fun guard => !(guard.1 == slot) := by
  unfold drop
  split
  · rename_i missing
    symm
    rw [List.filter_eq_self]
    intro guard member
    have apart : slot ≠ guard.1 := bne_iff_ne.mp (List.lookup_eq_none_iff.mp missing guard member)
    simp only [Bool.not_eq_true', beq_eq_false_iff_ne]
    exact apart.symm
  · rfl

theorem mem_drop_guards {guard : String × Nat} :
    guard ∈ (state.drop slot).1.guards ↔ guard ∈ state.guards ∧ guard.1 ≠ slot := by
  simp [drop_guards]

theorem drop_of_mem (distinct : (state.guards.map Prod.fst).Nodup)
    (member : (slot, cell) ∈ state.guards) :
    (state.drop slot).1.processing = state.processing.filter fun other => !(other == cell) := by
  simp only [drop, lookup_of_mem distinct member]

theorem spared (member : (slot, cell) ∈ state.guards)
    {move : GateMove} (spares : move.Spares slot) : (slot, cell) ∈ (state.advance move).guards := by
  cases move with
  | create gate => exact member
  | copy gate copy =>
      simp only [advance, copy?]
      cases state.gates.lookup gate with
      | none => exact member
      | some cell => exact member
  | discard gate => exact member
  | enter gate other =>
      -- The old guard of the other slot goes and a new one comes; neither is in this slot.
      have kept : (slot, cell) ∈ (state.drop other).1.guards :=
        mem_drop_guards.mpr ⟨member, fun same => spares same.symm⟩
      have unbound : other ∉ (state.drop other).1.guards.map Prod.fst := by
        simp [drop_guards]
      cases found : state.gates.lookup gate with
      | none => simpa [advance, enter?, found] using member
      | some target =>
          simp only [advance, enter_eq found]
          split
          · exact member
          · simp only [Option.map_some, Option.getD_some, set_binding_of_unbound unbound]
            exact List.mem_append_left _ kept
  | drop other => exact mem_drop_guards.mpr ⟨member, fun same => spares same.symm⟩

theorem spared_all (member : (slot, cell) ∈ state.guards)
    {moves : List GateMove} (spares : ∀ move ∈ moves, move.Spares slot) :
    (slot, cell) ∈ (state.advanceAll moves).guards := by
  induction moves generalizing state with
  | nil => exact member
  | cons move rest induction =>
      have here := spared member (spares move (List.mem_cons_self ..))
      have there : ∀ move ∈ rest, move.Spares slot := fun move later =>
        spares move (List.mem_cons_of_mem _ later)
      exact induction here there

namespace Exclusive

theorem empty_exclusive : Exclusive empty where
  slots_nodup := List.nodup_nil
  held_nodup := List.nodup_nil
  processing_iff _ := Iff.rfl
  gate_made _ member := nomatch member
  held_made _ member := nomatch member

theorem same_slot (exclusive : state.Exclusive) (here : (slot, cell) ∈ state.guards)
    (there : (other, cell) ∈ state.guards) : slot = other :=
  congrArg Prod.fst (List.inj_on_of_nodup_map exclusive.held_nodup here there rfl)

theorem same_cell (exclusive : state.Exclusive) {elsewhere : Nat}
    (here : (slot, cell) ∈ state.guards) (there : (slot, elsewhere) ∈ state.guards) :
    cell = elsewhere :=
  congrArg Prod.snd (List.inj_on_of_nodup_map exclusive.slots_nodup here there rfl)

theorem processing_iff_held (exclusive : state.Exclusive) :
    cell ∈ state.processing ↔ ∃ slot, (slot, cell) ∈ state.guards := by
  simp [exclusive.processing_iff]

theorem holders_eq (exclusive : state.Exclusive) (member : (slot, cell) ∈ state.guards) :
    state.holders cell = [slot] := by
  have distinct : (state.holders cell).Nodup :=
    (List.filter_sublist.map Prod.fst).nodup exclusive.slots_nodup
  apply List.perm_singleton.mp
  apply (List.perm_ext_iff_of_nodup distinct (List.nodup_singleton slot)).mpr
  intro other
  rw [mem_holders, List.mem_singleton]
  constructor
  · intro there
    exact exclusive.same_slot there member
  · rintro rfl
    exact member

theorem holders_eq_nil_iff (exclusive : state.Exclusive) :
    state.holders cell = [] ↔ cell ∉ state.processing := by
  rw [exclusive.processing_iff_held, List.eq_nil_iff_forall_not_mem, not_exists]
  exact forall_congr' fun slot => not_congr mem_holders

/-- Only the cell of the guard that is dropped becomes idle. -/
theorem mem_drop_processing (exclusive : state.Exclusive) :
    cell ∈ (state.drop slot).1.processing ↔
      cell ∈ state.processing ∧ (slot, cell) ∉ state.guards := by
  cases found : state.guards.lookup slot with
  | none =>
      have nothing : (slot, cell) ∉ state.guards := fun member => by
        rw [lookup_of_mem exclusive.slots_nodup member] at found
        nomatch found
      simp only [drop, found, nothing, not_false_eq_true, and_true]
  | some held =>
      have member := mem_of_lookup found
      rw [drop_of_mem exclusive.slots_nodup member]
      simp only [List.mem_filter, Bool.not_eq_true', beq_eq_false_iff_ne]
      apply and_congr_right
      intro _
      constructor
      · rintro apart there
        exact apart (exclusive.same_cell there member)
      · rintro nothing rfl
        exact nothing member

theorem drop (exclusive : state.Exclusive) (slot : String) : (state.drop slot).1.Exclusive where
  slots_nodup := by
    rw [drop_guards]
    exact (List.filter_sublist.map Prod.fst).nodup exclusive.slots_nodup
  held_nodup := by
    rw [drop_guards]
    exact (List.filter_sublist.map Prod.snd).nodup exclusive.held_nodup
  processing_iff cell := by
    rw [exclusive.mem_drop_processing, exclusive.processing_iff_held]
    constructor
    · rintro ⟨⟨other, member⟩, nothing⟩
      have apart : other ≠ slot := by
        rintro rfl
        exact nothing member
      exact List.mem_map_of_mem (mem_drop_guards.mpr ⟨member, apart⟩)
    · intro held
      obtain ⟨⟨other, _⟩, kept, rfl⟩ := List.mem_map.mp held
      obtain ⟨member, apart⟩ := mem_drop_guards.mp kept
      refine ⟨⟨other, member⟩, ?_⟩
      intro there
      exact apart (exclusive.same_slot member there)
  gate_made := by
    rw [drop_gates, drop_cells]
    exact exclusive.gate_made
  held_made cell held := by
    rw [drop_cells]
    rw [drop_guards] at held
    exact exclusive.held_made cell ((List.filter_sublist.map Prod.snd).subset held)

theorem create (exclusive : state.Exclusive) (gate : String) : (state.create gate).Exclusive where
  slots_nodup := exclusive.slots_nodup
  held_nodup := exclusive.held_nodup
  processing_iff := exclusive.processing_iff
  gate_made cell bound := by
    rcases bound_in_set_binding bound with rfl | before
    · exact Nat.lt_succ_self _
    · exact Nat.lt_succ_of_lt (exclusive.gate_made cell before)
  held_made cell held := Nat.lt_succ_of_lt (exclusive.held_made cell held)

theorem copied (exclusive : state.Exclusive) (found : state.gates.lookup gate = some cell)
    (copy : String) :
    Exclusive { state with gates := setBinding copy cell state.gates } where
  slots_nodup := exclusive.slots_nodup
  held_nodup := exclusive.held_nodup
  processing_iff := exclusive.processing_iff
  gate_made other bound := by
    rcases bound_in_set_binding bound with rfl | before
    · exact exclusive.gate_made other (List.mem_map_of_mem (mem_of_lookup found))
    · exact exclusive.gate_made other before
  held_made := exclusive.held_made

theorem discard (exclusive : state.Exclusive) (gate : String) :
    (state.discard gate).Exclusive where
  slots_nodup := exclusive.slots_nodup
  held_nodup := exclusive.held_nodup
  processing_iff := exclusive.processing_iff
  gate_made cell bound :=
    exclusive.gate_made cell ((List.filter_sublist.map Prod.snd).subset bound)
  held_made := exclusive.held_made

/-- The guard that comes in takes an empty slot and a cell that no guard has. -/
theorem entered (exclusive : state.Exclusive) (empty : slot ∉ state.guards.map Prod.fst)
    (idle : cell ∉ state.processing) (made : cell < state.cells) :
    Exclusive { state with
      guards := setBinding slot cell state.guards, processing := cell :: state.processing } := by
  have apart : cell ∉ state.guards.map Prod.snd := fun held =>
    idle ((exclusive.processing_iff cell).mpr held)
  rw [set_binding_of_unbound empty]
  refine ⟨?_, ?_, ?_, exclusive.gate_made, ?_⟩
  · rw [List.map_append]
    exact List.concat_eq_append ▸ List.Nodup.concat empty exclusive.slots_nodup
  · rw [List.map_append]
    exact List.concat_eq_append ▸ List.Nodup.concat apart exclusive.held_nodup
  · intro other
    simp only [List.mem_cons, List.map_append, List.mem_append, exclusive.processing_iff]
    simp [or_comm]
  · intro other held
    rcases List.mem_append.mp (List.map_append ▸ held) with before | new
    · exact exclusive.held_made other before
    · obtain rfl := List.mem_singleton.mp new
      exact made

theorem enter (exclusive : state.Exclusive) {after : Gates} {entered : Bool}
    (tried : state.enter? gate slot = some (after, entered)) : after.Exclusive := by
  cases found : state.gates.lookup gate with
  | none => simp [enter?, found] at tried
  | some cell =>
      rw [enter_eq found] at tried
      split at tried
      · cases tried
        exact exclusive
      · rename_i idle
        cases tried
        have cleared := exclusive.drop slot
        apply cleared.entered
        · simp [drop_guards]
        · exact fun busy => idle (exclusive.mem_drop_processing.mp busy).1
        · rw [drop_cells]
          exact exclusive.gate_made cell (List.mem_map_of_mem (mem_of_lookup found))

theorem advance (exclusive : state.Exclusive) (move : GateMove) :
    (state.advance move).Exclusive := by
  cases move with
  | create gate => exact exclusive.create gate
  | copy gate copy =>
      cases found : state.gates.lookup gate with
      | none => simpa [Gates.advance, copy?, found] using exclusive
      | some cell => simpa [Gates.advance, copy?, found] using exclusive.copied found copy
  | discard gate => exact exclusive.discard gate
  | enter gate slot =>
      cases tried : state.enter? gate slot with
      | none => simpa [Gates.advance, tried] using exclusive
      | some result => simpa [Gates.advance, tried] using exclusive.enter tried
  | drop slot => exact exclusive.drop slot

theorem advance_all (exclusive : state.Exclusive) (moves : List GateMove) :
    (state.advanceAll moves).Exclusive := by
  induction moves generalizing state with
  | nil => exact exclusive
  | cons move rest induction => exact induction (exclusive.advance move)

theorem guarded (exclusive : state.Exclusive) (member : (slot, cell) ∈ state.guards) :
    state.isProcessing cell = true ∧ state.holders cell = [slot] :=
  ⟨is_processing_iff.mpr (exclusive.processing_iff_held.mpr ⟨slot, member⟩),
    exclusive.holders_eq member⟩

theorem unguarded (exclusive : state.Exclusive) (idle : cell ∉ state.processing) :
    state.isProcessing cell = false ∧ state.holders cell = [] :=
  ⟨Bool.eq_false_iff.mpr (mt is_processing_iff.mp idle), exclusive.holders_eq_nil_iff.mpr idle⟩

/-- A try succeeds exactly when no guard has the cell that the gate shares with its copies, and a
refused try changes nothing. -/
theorem enter_cases (exclusive : state.Exclusive) (found : state.gates.lookup gate = some cell) :
    (state.holders cell = [] ∧ ∃ after, state.enter? gate slot = some (after, true) ∧
        after.holders cell = [slot]) ∨
      (state.holders cell ≠ [] ∧ state.enter? gate slot = some (state, false)) := by
  by_cases idle : cell ∈ state.processing
  · refine Or.inr ⟨?_, ?_⟩
    · rw [Ne, exclusive.holders_eq_nil_iff, not_not]
      exact idle
    · rw [enter_eq found, if_pos idle]
  · refine Or.inl ⟨exclusive.holders_eq_nil_iff.mpr idle, ?_⟩
    have tried := (enter_eq found slot).trans (if_neg idle)
    refine ⟨_, tried, ?_⟩
    apply (exclusive.enter tried).holders_eq
    have unbound : slot ∉ (state.drop slot).1.guards.map Prod.fst := by
      simp [drop_guards]
    simp [set_binding_of_unbound unbound]

theorem drop_affects_own_cell (exclusive : state.Exclusive) {elsewhere : Nat}
    (member : (slot, cell) ∈ state.guards) (apart : elsewhere ≠ cell) :
    (state.drop slot).1.isProcessing elsewhere = state.isProcessing elsewhere ∧
      (state.drop slot).1.holders elsewhere = state.holders elsewhere := by
  have other : (slot, elsewhere) ∉ state.guards := fun there =>
    apart (exclusive.same_cell there member)
  constructor
  · rw [Bool.eq_iff_iff, is_processing_iff, is_processing_iff, exclusive.mem_drop_processing]
    exact and_iff_left other
  · unfold holders
    rw [drop_guards, List.filter_filter]
    congr 1
    apply List.filter_congr
    rintro ⟨keeper, held⟩ kept
    by_cases here : held = elsewhere
    · subst here
      have differs : keeper ≠ slot := by
        rintro rfl
        exact other kept
      simp [differs]
    · simp [here]

end Exclusive

/-- Whatever is done with gates and guards, and in whatever order: a cell is in processing exactly
while a guard of it is kept, and never two are. So a gate lets in exactly when no guard was taken at
it or at another gate of its cell; a guard that is dropped opens its own cell and no other; a guard
that is kept holds its cell whatever becomes of the gates; and a gate that is made anew, under an
old name too, has an idle cell to itself. -/
theorem at_most_one_guard (moves : List GateMove) :
    let state := empty.advanceAll moves
    (∀ cell, (state.isProcessing cell = true ∧ ∃ slot, state.holders cell = [slot]) ∨
      (state.isProcessing cell = false ∧ state.holders cell = [])) ∧
    (∀ gate slot cell, state.gates.lookup gate = some cell →
      (state.holders cell = [] ∧ ∃ after, state.enter? gate slot = some (after, true) ∧
          after.holders cell = [slot]) ∨
        (state.holders cell ≠ [] ∧ state.enter? gate slot = some (state, false))) ∧
    (∀ slot cell, slot ∈ state.holders cell →
      let after := (state.drop slot).1
      after.gates = state.gates ∧ after.isProcessing cell = false ∧
        ∀ other, other ≠ cell → after.isProcessing other = state.isProcessing other ∧
          after.holders other = state.holders other) ∧
    (∀ slot cell rest, slot ∈ state.holders cell → (∀ move ∈ rest, move.Spares slot) →
      (state.advanceAll rest).isProcessing cell = true ∧
        (state.advanceAll rest).holders cell = [slot]) ∧
    (∀ gate, ∃ cell, (state.create gate).gates.lookup gate = some cell ∧
      (state.create gate).isProcessing cell = false ∧
      ∀ other, other ≠ gate → (state.create gate).gates.lookup other ≠ some cell) ∧
    (∀ gate copy cell, state.gates.lookup gate = some cell → ∃ after,
      state.copy? gate copy = some after ∧ after.gates.lookup copy = some cell) := by
  intro state
  have exclusive : state.Exclusive := Exclusive.empty_exclusive.advance_all moves
  refine ⟨?_, ?_, ?_, ?_, ?_, ?_⟩
  · intro cell
    by_cases busy : cell ∈ state.processing
    · obtain ⟨slot, member⟩ := exclusive.processing_iff_held.mp busy
      obtain ⟨processing, alone⟩ := exclusive.guarded member
      exact Or.inl ⟨processing, slot, alone⟩
    · exact Or.inr (exclusive.unguarded busy)
  · intro gate slot cell found
    exact exclusive.enter_cases found
  · intro slot cell held
    have member := mem_holders.mp held
    have idle : cell ∉ (state.drop slot).1.processing := fun busy =>
      (exclusive.mem_drop_processing.mp busy).2 member
    refine ⟨drop_gates state slot, ((exclusive.drop slot).unguarded idle).1, ?_⟩
    intro other apart
    exact exclusive.drop_affects_own_cell member apart
  · intro slot cell rest held spares
    have kept := spared_all (mem_holders.mp held) spares
    exact (exclusive.advance_all rest).guarded kept
  · intro gate
    refine ⟨state.cells, ?_, ?_, ?_⟩
    · rw [create, lookup_set_binding, if_pos rfl]
    · have idle : state.cells ∉ state.processing := fun busy =>
        Nat.lt_irrefl _ (exclusive.held_made _ ((exclusive.processing_iff _).mp busy))
      exact (exclusive.unguarded idle).1
    · intro other apart found
      rw [create, lookup_set_binding, if_neg apart] at found
      exact Nat.lt_irrefl _ (exclusive.gate_made _ (List.mem_map_of_mem (mem_of_lookup found)))
  · intro gate copy cell found
    refine ⟨_, by rw [copy?, found, Option.map_some], ?_⟩
    exact (lookup_set_binding copy copy cell state.gates).trans (if_pos rfl)

end Gates

def crossingMoves : List GateMove :=
  [.create "east", .copy "east" "west", .create "north", .enter "west" "first",
    .enter "north" "second", .create "east", .discard "west"]

open Gates in
theorem crossing_at_most_one_guard :
    let state := empty.advanceAll crossingMoves
    let rest := [.enter "east" "third", .drop "second", .enter "north" "third"]
    state.gates = [("east", 2), ("north", 1)] ∧
      state.enter? "north" "third" = some (state, false) ∧
      "first" ∈ state.holders 0 ∧ (∀ move ∈ rest, move.Spares "first") ∧
      (state.advanceAll rest).isProcessing 0 = true ∧
      (state.advanceAll rest).holders 0 = ["first"] ∧
      "second" ∈ state.holders 1 ∧ (state.drop "second").1.isProcessing 1 = false ∧
      (state.drop "second").1.holders 0 = state.holders 0 := by
  intro state rest
  have first : "first" ∈ state.holders 0 := by decide
  have second : "second" ∈ state.holders 1 := by decide
  have spares : ∀ move ∈ rest, move.Spares "first" := by simp [rest, GateMove.Spares]
  obtain ⟨_, entering, dropping, keeping, _, _⟩ := at_most_one_guard crossingMoves
  have refused := (entering "north" "third" 1 rfl).resolve_left fun free =>
    absurd free.1 (by decide)
  obtain ⟨_, opened, others⟩ := dropping "second" 1 second
  obtain ⟨processing, alone⟩ := keeping "first" 0 rest first spares
  exact ⟨rfl, refused.2, first, spares, processing, alone, second, opened,
    (others 0 (by decide)).2⟩

end StateMachine
