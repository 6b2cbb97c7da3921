import StateMachine.Proofs.Environment.Stop
import StateMachine.Proofs.Expr.Exactness
import StateMachine.Proofs.Expr.Reference
import StateMachine.Proofs.Expr.Scope
import StateMachine.Validation.Check

/-!
The order of declarations. A default that mentions a name which is not declared before it is found
fault with, and no session begins; repeated names and faults of other attributes make no difference.
-/

set_option autoImplicit false

namespace StateMachine

theorem Expr.mem_references_iff {expr : Expr} {name : String} :
    name ∈ expr.references ↔ .reference name ∈ expr.parts := by
  induction expr with
  | literal value => simp [references, parts]
  | reference other => simp [references, parts]
  | binary operator left right leftInduction rightInduction =>
      simp [references, parts, leftInduction, rightInduction]
  | negate operand induction => simp [references, parts, induction]
  | not operand induction => simp [references, parts, induction]
  | group inner induction => simp [references, parts, induction]

/-- A default sees attributes before its own at most. An earlier attribute of the same name hides
some of them. -/
theorem Scope.visible_for_default_begins (earlier later : List Attribute) (owner : Attribute) :
    (Scope.forDefault (earlier ++ owner :: later) owner.name).visible <+: earlier := by
  have stops : (owner :: later).takeWhile (fun other => !(other.name == owner.name)) = [] := by
    simp
  simp only [Scope.forDefault, Scope.visible, List.takeWhile_append, stops, List.append_nil]
  split
  · exact List.prefix_refl earlier
  · exact List.takeWhile_prefix _

theorem infer_default_refused {earlier later : List Attribute} {owner : Attribute} {default : Expr}
    {name : String} (mentioned : name ∈ default.references)
    (late : name ∉ earlier.map Attribute.name) :
    ∃ fault, default.infer (Scope.forDefault (earlier ++ owner :: later) owner.name) =
      .error fault := by
  cases inferred : default.infer (Scope.forDefault (earlier ++ owner :: later) owner.name) with
  | error fault => exact ⟨fault, rfl⟩
  | ok ty =>
      have visible := Expr.reference_visible_of_inferred inferred name mentioned
      have before := (Scope.visible_for_default_begins earlier later owner).map Attribute.name
      exact absurd (before.subset visible) late

namespace Machine

theorem check_default_of_refused {declared : List Attribute} {owner : Attribute} {default : Expr}
    {fault : Fault} (given : owner.default = some default)
    (refused : default.infer (Scope.forDefault declared owner.name) = .error fault)
    (environment : Environment) :
    checkDefault declared environment owner =
      ([⟨.owner owner.name, .invalid fault⟩], owner.ty.zero) := by
  simp only [checkDefault, given, refused]

/-- Checking goes on after each attribute, whatever was found. -/
theorem check_defaults_append (declared : List Attribute) (environment : Environment)
    (first : List Attribute) :
    ∃ reached : Environment, ∀ second, checkDefaults declared environment (first ++ second) =
      checkDefaults declared environment first ++ checkDefaults declared reached second := by
  induction first generalizing environment with
  | nil => exact ⟨environment, fun second => rfl⟩
  | cons owner rest induction =>
      obtain ⟨reached, continues⟩ :=
        induction (environment.set owner.name (checkDefault declared environment owner).2)
      refine ⟨reached, fun second => ?_⟩
      simp only [List.cons_append, checkDefaults, continues, List.append_assoc]

theorem check_attributes_mem {machine : Machine} {finding : Diagnostic}
    (found : finding ∈ machine.checkAttributes) : finding ∈ machine.diagnostics := by
  simp only [diagnostics, List.mem_append]
  exact Or.inl (Or.inr found)

end Machine

theorem init_of_late_mention {earlier later : List Attribute} {owner : Attribute} {default : Expr}
    {name : String} (given : owner.default = some default) (mentioned : name ∈ default.references)
    (late : name ∉ earlier.map Attribute.name) :
    ∃ fault, Environment.init (earlier ++ owner :: later) = .error fault := by
  cases initialized : Environment.init (earlier ++ owner :: later) with
  | error fault => exact ⟨fault, rfl⟩
  | ok final =>
      obtain ⟨environment, value, before, initial⟩ := Environment.init_earlier initialized
      simp only [Attribute.initialValue, given] at initial
      obtain ⟨found, evaluated, _⟩ := bind_eq_ok_iff.mp initial
      have bound := Expr.reference_bound_of_evaluated evaluated name mentioned
      have unbound : environment.get? name = none := by
        rw [Environment.get_eq_none_iff, Environment.init_names before, List.mem_eraseDups]
        exact late
      exact absurd unbound bound

/-- The default of an attribute mentions, anywhere inside of it, a name that no attribute before it
declares. Then its check ends in an error finding of its own: this stands in the report right behind
what is found about the attributes before it, and the check goes on with those after it. And the
attributes cannot be initialised. -/
theorem Machine.late_mention_refused {machine : Machine} {earlier later : List Attribute}
    {owner : Attribute} {default : Expr} {name : String}
    (placed : machine.attributes = earlier ++ owner :: later)
    (given : owner.default = some default) (mentioned : .reference name ∈ default.parts)
    (late : ∀ other ∈ earlier, other.name ≠ name) :
    (∃ finding reached,
      finding.site = .owner owner.name ∧ finding.isError = true ∧ finding ∈ machine.diagnostics ∧
        machine.checkAttributes = checkDefaults machine.attributes Environment.empty earlier ++
          finding :: checkDefaults machine.attributes reached later) ∧
      ∃ fault, Environment.init machine.attributes = .error fault := by
  have occurs : name ∈ default.references := Expr.mem_references_iff.mpr mentioned
  have undeclared : name ∉ earlier.map Attribute.name := by
    intro member
    obtain ⟨other, declared, named⟩ := List.mem_map.mp member
    exact late other declared named
  constructor
  · obtain ⟨fault, refused⟩ : ∃ fault, default.infer
        (Scope.forDefault machine.attributes owner.name) = .error fault := by
      rw [placed]
      exact infer_default_refused occurs undeclared
    obtain ⟨reached, continues⟩ :=
      check_defaults_append machine.attributes Environment.empty earlier
    have checked := check_default_of_refused given refused reached
    have report : machine.checkAttributes =
        checkDefaults machine.attributes Environment.empty earlier ++
          ⟨.owner owner.name, .invalid fault⟩ ::
            checkDefaults machine.attributes (reached.set owner.name owner.ty.zero) later := by
      calc machine.checkAttributes
          = checkDefaults machine.attributes Environment.empty (earlier ++ owner :: later) := by
            rw [checkAttributes, ← placed]
        _ = checkDefaults machine.attributes Environment.empty earlier ++
              checkDefaults machine.attributes reached (owner :: later) := continues _
        _ = _ := by
            rw [checkDefaults, checked]
            rfl
    refine ⟨_, _, rfl, rfl, check_attributes_mem ?_, report⟩
    rw [report]
    simp
  · rw [placed]
    exact init_of_late_mention given occurs undeclared

/-- Inside of a group and behind two prefix operators, `net` is mentioned by an attribute that has the
name of another one. -/
def scalesDefault : Expr :=
  .binary .and (.reference "level")
    (.not (.group (.binary .lt (.negate (.reference "net")) (.literal (.int Word.zero)))))

def scalesMachine : Machine where
  name := "Scales"
  attributes :=
    [⟨"load", .int, some (.binary .div (.literal (.int Word.zero)) (.literal (.int Word.zero)))⟩,
      ⟨"level", .bool, none⟩, ⟨"load", .bool, some scalesDefault⟩, ⟨"net", .int, none⟩,
      ⟨"gross", .int, some (.reference "level")⟩]
  events := []
  commands := []
  states := [⟨"Idle", [], []⟩]
  initial := "Idle"

theorem scales_late_mention_refused :
    scalesMachine.attributes =
        scalesMachine.attributes.take 2 ++
          ⟨"load", .bool, some scalesDefault⟩ :: scalesMachine.attributes.drop 3 ∧
      .reference "net" ∈ scalesDefault.parts ∧
      (∀ other ∈ scalesMachine.attributes.take 2, other.name ≠ "net") ∧
      (∃ finding reached,
        finding.site = .owner "load" ∧ finding.isError = true ∧
          finding ∈ scalesMachine.diagnostics ∧
          scalesMachine.checkAttributes =
            Machine.checkDefaults scalesMachine.attributes Environment.empty
                (scalesMachine.attributes.take 2) ++
              finding ::
                Machine.checkDefaults scalesMachine.attributes reached
                  (scalesMachine.attributes.drop 3)) ∧
      ∃ fault, Environment.init scalesMachine.attributes = .error fault := by
  have placed : scalesMachine.attributes =
      scalesMachine.attributes.take 2 ++
        ⟨"load", .bool, some scalesDefault⟩ :: scalesMachine.attributes.drop 3 := rfl
  have mentioned : .reference "net" ∈ scalesDefault.parts := by decide
  have late : ∀ other ∈ scalesMachine.attributes.take 2, other.name ≠ "net" := by decide
  exact ⟨placed, mentioned, late, Machine.late_mention_refused placed rfl mentioned late⟩

end StateMachine
