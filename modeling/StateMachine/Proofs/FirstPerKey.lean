import StateMachine.Machine.Basic

/-!
The first element of each key: what is kept, what is found in it, and what is left of the keys.
-/

set_option autoImplicit false

namespace StateMachine

theorem first_per_key_sublist {α : Type} (key : α → String) (elements : List α) :
    (firstPerKey key elements).Sublist elements := by
  induction elements with
  | nil => exact List.Sublist.refl []
  | cons element rest induction => exact (List.filter_sublist.trans induction).cons_cons element

theorem first_per_key_eq_nil_iff {α : Type} {key : α → String} {elements : List α} :
    firstPerKey key elements = [] ↔ elements = [] := by
  cases elements with
  | nil => exact Iff.rfl
  | cons element rest => simp [firstPerKey]

theorem first_per_key_nodup {α : Type} (key : α → String) (elements : List α) :
    ((firstPerKey key elements).map key).Nodup := by
  induction elements with
  | nil => exact List.nodup_nil
  | cons element rest induction =>
      rw [firstPerKey, List.map_cons, List.nodup_cons]
      constructor
      · rintro member
        obtain ⟨other, kept, same⟩ := List.mem_map.mp member
        simpa [same] using (List.mem_filter.mp kept).2
      · exact induction.sublist (List.filter_sublist.map key)

theorem mem_first_per_key_iff {α : Type} {key : α → String} {elements : List α} {chosen : α} :
    chosen ∈ firstPerKey key elements ↔
      elements.find? (fun other => key other == key chosen) = some chosen := by
  induction elements with
  | nil => simp [firstPerKey]
  | cons element rest induction =>
      rw [firstPerKey, List.mem_cons, List.mem_filter, induction, List.find?_cons]
      by_cases same : key element = key chosen
      · simp [same, eq_comm]
      · have apart : (key element == key chosen) = false := beq_eq_false_iff_ne.mpr same
        have other : chosen ≠ element := fun equal => same (congrArg key equal.symm)
        have back : (key chosen == key element) = false := beq_eq_false_iff_ne.mpr (Ne.symm same)
        simp [apart, other, back]

theorem first_per_key_of_nodup {α : Type} {key : α → String} {elements : List α}
    (distinct : (elements.map key).Nodup) : firstPerKey key elements = elements := by
  induction elements with
  | nil => rfl
  | cons element rest induction =>
      rw [List.map_cons, List.nodup_cons] at distinct
      rw [firstPerKey, induction distinct.2]
      congr 1
      rw [List.filter_eq_self]
      intro other member
      have apart : key other ≠ key element := fun same =>
        distinct.1 (same ▸ List.mem_map_of_mem member)
      simpa using apart

/-- Looking for a key finds what it found before the others were left out. -/
theorem find_first_per_key {α : Type} (key : α → String) (elements : List α) (wanted : String) :
    (firstPerKey key elements).find? (fun other => key other == wanted) =
      elements.find? fun other => key other == wanted := by
  induction elements with
  | nil => rfl
  | cons element rest induction =>
      rw [firstPerKey, List.find?_cons, List.find?_cons, List.find?_filter]
      cases here : key element == wanted with
      | true => rfl
      | false =>
          have apart : key element ≠ wanted := beq_eq_false_iff_ne.mp here
          dsimp only
          rw [← induction]
          congr 1
          funext other
          by_cases found : key other = wanted
          · simp [found, apart.symm]
          · simp [found]

/-- What is left out on account of its key can be left out before or after. -/
theorem filter_first_per_key {α : Type} (key : α → String) (keeps : String → Bool)
    (elements : List α) :
    (firstPerKey key elements).filter (fun other => keeps (key other)) =
      firstPerKey key (elements.filter fun other => keeps (key other)) := by
  induction elements with
  | nil => rfl
  | cons element rest induction =>
      cases kept : keeps (key element) with
      | true =>
          simp only [firstPerKey, List.filter_cons, kept, if_true, ← induction, List.filter_filter,
            Bool.and_comm]
      | false =>
          simp only [firstPerKey, List.filter_cons, kept, Bool.false_eq_true, if_false, ← induction,
            List.filter_filter]
          apply List.filter_congr
          intro other _
          by_cases same : key other = key element
          · simp [same, kept]
          · simp [same]

/-- What is read off the elements that are kept has no repetition when it tells them apart as the
keys do. -/
theorem first_per_key_map {α β : Type} [BEq β] [LawfulBEq β] {key : α → String} {read : α → β}
    (elements : List α)
    (agree : ∀ first ∈ elements, ∀ second ∈ elements,
      read first = read second ↔ key first = key second) :
    (firstPerKey key elements).map read = (elements.map read).eraseDups := by
  match elements with
  | [] => rfl
  | element :: rest =>
      let others := rest.filter fun other => !(key other == key element)
      have shorter : others.length ≤ rest.length := List.length_filter_le _ _
      have apart : (rest.map read).filter (fun value => !(value == read element)) =
          others.map read := by
        rw [List.filter_map]
        apply congrArg (List.map read)
        apply List.filter_congr
        intro other member
        have same := agree other (List.mem_cons_of_mem _ member) element List.mem_cons_self
        exact congrArg not (Bool.eq_iff_iff.mpr (by simpa using same))
      have inside : ∀ other ∈ others, other ∈ element :: rest := fun other member =>
        List.mem_cons_of_mem _ (List.mem_filter.mp member).1
      have recursive := first_per_key_map others fun first left second right =>
        agree first (inside first left) second (inside second right)
      rw [firstPerKey, filter_first_per_key key (fun other => !(other == key element)),
        List.map_cons, List.map_cons, List.eraseDups_cons, apart, recursive]
termination_by elements.length
decreasing_by exact Nat.lt_succ_of_le shorter

theorem first_per_key_keys {α : Type} (key : α → String) (elements : List α) :
    (firstPerKey key elements).map key = (elements.map key).eraseDups :=
  first_per_key_map elements fun _ _ _ _ => Iff.rfl

/-- An element is kept exactly when no element before it has its key. -/
theorem first_per_key_positions {α : Type} (key : α → String) (before elements : List α) :
    ((elements.zipIdx before.length).filter fun placed =>
        !((before ++ elements).take placed.2).any fun other => key other == key placed.1).map
          Prod.fst =
      (firstPerKey key elements).filter fun element =>
        !before.any fun other => key other == key element := by
  induction elements generalizing before with
  | nil => rfl
  | cons element rest induction =>
      have later := induction (before ++ [element])
      rw [List.length_append, List.length_singleton, List.append_assoc, List.singleton_append]
        at later
      have joined : ((firstPerKey key rest).filter fun other =>
            !(before ++ [element]).any fun earlier => key earlier == key other) =
          ((firstPerKey key rest).filter fun other => !(key other == key element)).filter
            fun other => !before.any fun earlier => key earlier == key other := by
        rw [List.filter_filter]
        apply List.filter_congr
        intro other _
        rw [List.any_append, List.any_cons, List.any_nil, Bool.or_false, Bool.not_or, Bool.beq_comm]
      rw [List.zipIdx_cons, firstPerKey, List.filter_cons, List.filter_cons]
      dsimp only
      rw [List.take_left, ← joined, ← later]
      split
      · rfl
      · rfl

end StateMachine
