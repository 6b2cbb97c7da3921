import StateMachine.Proofs.Expr.Refusal

/-!
Inference asks a scope for the mentioned names only. So two scopes that tell the same type for them
give an expression the same type, and the type of a default can be found with its earlier
attributes alone or, once its mentions are known to be earlier ones, with all attributes.
-/

set_option autoImplicit false

namespace StateMachine

namespace Scope

theorem lookup_eq_ok_iff {scope : Scope} {name : String} {ty : Ty} :
    scope.lookup name = .ok ty ↔
      ∃ owner, scope.visible.find? (fun other => other.name == name) = some owner ∧
        owner.ty = ty := by
  constructor
  · exact lookup_eq_ok
  · rintro ⟨owner, visible, rfl⟩
    simp only [lookup, visible]

theorem lookup_of_same_visible {first second : Scope} (same : first.visible = second.visible)
    {name : String} {ty : Ty} (found : first.lookup name = .ok ty) :
    second.lookup name = .ok ty := by
  rw [lookup_eq_ok_iff] at found ⊢
  rw [← same]
  exact found

@[simp] theorem visible_of_all (declared : List Attribute) :
    (Scope.ofAll declared).visible = declared := rfl

theorem find_isSome_iff_mem_names {declared : List Attribute} {name : String} :
    (declared.find? fun other => other.name == name).isSome = true ↔
      name ∈ declared.map Attribute.name := by
  rw [List.find?_isSome, List.mem_map]
  constructor
  · rintro ⟨owner, member, named⟩
    exact ⟨owner, member, beq_iff_eq.mp named⟩
  · rintro ⟨owner, member, named⟩
    exact ⟨owner, member, beq_iff_eq.mpr named⟩

end Scope

namespace Expr

/-- A scope that knows every mentioned name as another one does gives the same type. The divisors
that are computed on the way do not depend on a scope. -/
theorem infer_of_lookup {first second : Scope} {expr : Expr} {ty : Ty}
    (known : ∀ name ∈ expr.references, ∀ found, first.lookup name = .ok found →
      second.lookup name = .ok found)
    (inferred : expr.infer first = .ok ty) : expr.infer second = .ok ty := by
  induction expr generalizing ty with
  | literal value => exact inferred
  | reference name => exact known name (by simp [references]) ty inferred
  | binary operator left right leftInduction rightInduction =>
      simp only [infer, bind_eq_ok_iff] at inferred ⊢
      obtain ⟨leftTy, leftInferred, rightTy, rightInferred, rest⟩ := inferred
      have leftKnown := leftInduction
        (fun name member => known name (List.mem_append_left _ member)) leftInferred
      have rightKnown := rightInduction
        (fun name member => known name (List.mem_append_right _ member)) rightInferred
      exact ⟨leftTy, leftKnown, rightTy, rightKnown, rest⟩
  | negate operand induction =>
      simp only [infer, bind_eq_ok_iff] at inferred ⊢
      obtain ⟨operandTy, operandInferred, rest⟩ := inferred
      exact ⟨operandTy, induction known operandInferred, rest⟩
  | not operand induction =>
      simp only [infer, bind_eq_ok_iff] at inferred ⊢
      obtain ⟨operandTy, operandInferred, rest⟩ := inferred
      exact ⟨operandTy, induction known operandInferred, rest⟩
  | group inner induction => exact induction known inferred

theorem reference_visible_of_inferred {scope : Scope} {expr : Expr} {ty : Ty}
    (inferred : expr.infer scope = .ok ty) :
    ∀ name ∈ expr.references, name ∈ scope.visible.map Attribute.name := by
  induction expr generalizing ty with
  | literal value => simp [references]
  | reference other =>
      obtain ⟨owner, visible, _⟩ := Scope.lookup_eq_ok inferred
      intro name member
      obtain rfl : name = other := by simpa [references] using member
      exact Scope.find_isSome_iff_mem_names.mp (by rw [visible]; rfl)
  | binary operator left right leftInduction rightInduction =>
      obtain ⟨leftTy, rightTy, leftInferred, rightInferred, _⟩ := infer_binary_eq_ok inferred
      intro name member
      obtain inLeft | inRight := List.mem_append.mp member
      · exact leftInduction leftInferred name inLeft
      · exact rightInduction rightInferred name inRight
  | negate operand induction => exact induction (infer_negate_eq_ok inferred).1
  | not operand induction => exact induction (infer_not_eq_ok inferred).1
  | group inner induction => exact induction inferred

/-- The first declarations of the mentioned names are among the earlier attributes, so the later
ones do not matter. -/
theorem infer_earlier_iff {earlier later : List Attribute} {expr : Expr} {ty : Ty} :
    expr.infer (Scope.ofAll earlier) = .ok ty ↔
      (∀ name ∈ expr.references, name ∈ earlier.map Attribute.name) ∧
        expr.infer (Scope.ofAll (earlier ++ later)) = .ok ty := by
  have agree {name : String} (member : name ∈ earlier.map Attribute.name) :
      (earlier ++ later).find? (fun other => other.name == name) =
        earlier.find? fun other => other.name == name := by
    rw [List.find?_append, Option.or_of_isSome (Scope.find_isSome_iff_mem_names.mpr member)]
  constructor
  · intro inferred
    have visible := reference_visible_of_inferred inferred
    refine ⟨visible, infer_of_lookup ?_ inferred⟩
    intro name member found looked
    rw [Scope.lookup_eq_ok_iff] at looked ⊢
    simpa only [Scope.visible_of_all, agree (visible name member)] using looked
  · rintro ⟨mentioned, inferred⟩
    refine infer_of_lookup ?_ inferred
    intro name member found looked
    rw [Scope.lookup_eq_ok_iff] at looked ⊢
    simpa only [Scope.visible_of_all, agree (mentioned name member)] using looked

end Expr

end StateMachine
