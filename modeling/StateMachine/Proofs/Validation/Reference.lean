import StateMachine.Proofs.Document.Resolution
import StateMachine.Proofs.Validation.Default
import StateMachine.Proofs.Validation.Naming

/-!
Two checks of the same references. Resolution compares the mentioned names with the declared ones;
validation meets them in an inference that ends at its first fault and in defaults that see only a
part of the attributes. So what is resolved is nowhere reported as undeclared, and what is not
resolved is reported, although perhaps as something else.
-/

set_option autoImplicit false

namespace StateMachine

theorem Scope.lookup_eq_unbound {scope : Scope} {name unbound : String}
    (missing : scope.lookup name = .error (.unbound unbound)) :
    unbound = name ∧ name ∉ scope.declared.map Attribute.name := by
  have undeclared {declared : List Attribute}
      (absent : declared.find? (fun other => other.name == name) = none) :
      name ∉ declared.map Attribute.name := by
    rw [← find_isSome_iff_mem_names, absent]
    exact Bool.false_ne_true
  unfold Scope.lookup at missing
  split at missing
  · cases missing
  · next hidden every =>
      cases missing
      rw [visible, every] at hidden
      exact ⟨rfl, undeclared hidden⟩
  · split at missing
    · cases missing
    · next absent =>
        cases missing
        refine ⟨rfl, undeclared ?_⟩
        rw [List.any_eq_true, not_exists] at absent
        rw [List.find?_eq_none]
        exact fun other member named => absent other ⟨member, named⟩

namespace Expr

/-- The divisor that is computed on the way mentions nothing, so it is never the one to blame. -/
theorem infer_eq_unbound {scope : Scope} {expr : Expr} {name : String}
    (refused : expr.infer scope = .error (.unbound name)) :
    name ∈ expr.references ∧ name ∉ scope.declared.map Attribute.name := by
  induction expr with
  | literal value => cases refused
  | reference other =>
      obtain ⟨rfl, undeclared⟩ := Scope.lookup_eq_unbound refused
      exact ⟨List.mem_singleton.mpr rfl, undeclared⟩
  | binary operator left right leftInduction rightInduction =>
      rcases infer_binary_eq_error refused with leftRefused | ⟨leftTy, _, refused⟩
      · obtain ⟨mentioned, undeclared⟩ := leftInduction leftRefused
        exact ⟨List.mem_append_left _ mentioned, undeclared⟩
      rcases refused with rightRefused | ⟨rightTy, _, refused⟩
      · obtain ⟨mentioned, undeclared⟩ := rightInduction rightRefused
        exact ⟨List.mem_append_right _ mentioned, undeclared⟩
      rcases refused with operatorRefused | ⟨_, _, _, constant, divisorRefused⟩
      · unfold Operator.infer at operatorRefused
        split at operatorRefused
        · split at operatorRefused <;> cases operatorRefused
        · cases operatorRefused
      · rcases check_divisor_eq_error constant divisorRefused Environment.empty with failed | zero
        · have mentioned := (evaluate_eq_unbound failed).1
          rw [(is_constant_iff_no_references right).mp constant] at mentioned
          cases mentioned
        · nomatch zero.2
  | negate operand induction =>
      rcases infer_negate_eq_error refused with operandRefused | ⟨_, mismatch⟩
      · exact induction operandRefused
      · cases mismatch
  | not operand induction =>
      rcases infer_not_eq_error refused with operandRefused | ⟨_, mismatch⟩
      · exact induction operandRefused
      · cases mismatch
  | group inner induction => exact induction refused

end Expr

/-- The finding is not about a name that is declared nowhere. -/
def Finding.IsResolved (finding : Finding) : Prop := finding.code ≠ "UNRESOLVED_REFERENCE"

theorem Finding.invalid_is_resolved {fault : Fault} (other : ∀ name, fault ≠ .unbound name) :
    (Finding.invalid fault).IsResolved := by
  cases fault with
  | unbound name => exact absurd rfl (other name)
  | _ => simp [IsResolved, code, Fault.code]

namespace Machine

variable {machine : Machine}

def Declares (machine : Machine) (mentions : List Mention) : Prop :=
  ∀ mention ∈ mentions, machine.declares mention = true

theorem Declares.left {first second : List Mention}
    (declared : machine.Declares (first ++ second)) :
    machine.Declares first :=
  (List.forall_mem_append.mp declared).1

theorem Declares.right {first second : List Mention}
    (declared : machine.Declares (first ++ second)) : machine.Declares second :=
  (List.forall_mem_append.mp declared).2

theorem Declares.part {α : Type} {elements : List α} {read : α → List Mention}
    (declared : machine.Declares (elements.flatMap read)) {element : α}
    (member : element ∈ elements) : machine.Declares (read element) :=
  fun mention mentioned => declared mention (List.mem_flatMap.mpr ⟨element, member, mentioned⟩)

theorem declares_flat_map {α : Type} {elements : List α} {read : α → List Mention}
    (each : ∀ element ∈ elements, machine.Declares (read element)) :
    machine.Declares (elements.flatMap read) := by
  intro mention mentioned
  obtain ⟨element, member, mentioned⟩ := List.mem_flatMap.mp mentioned
  exact each element member mention mentioned

theorem declares_owner_iff {name : String} {site : MentionSite} :
    machine.declares ⟨.owner, name, site⟩ = true ↔ name ∈ machine.attributes.map Attribute.name :=
  Scope.find_isSome_iff_mem_names

theorem declares_mentions_iff {site : MentionSite} {expr : Expr} :
    machine.Declares (expr.mentions site) ↔
      ∀ name ∈ expr.references, name ∈ machine.attributes.map Attribute.name := by
  simp only [Declares, Expr.mentions, List.forall_mem_map, declares_owner_iff]

theorem refused_is_resolved {scope : Scope} {site : MentionSite} {expr : Expr} {fault : Fault}
    (every : scope.declared = machine.attributes) (declared : machine.Declares (expr.mentions site))
    (refused : expr.infer scope = .error fault) : (Finding.invalid fault).IsResolved := by
  apply Finding.invalid_is_resolved
  rintro name rfl
  obtain ⟨mentioned, undeclared⟩ := Expr.infer_eq_unbound refused
  rw [every] at undeclared
  exact undeclared (declares_mentions_iff.mp declared name mentioned)

theorem check_guard_resolved {site : MentionSite} {guard : Option Expr}
    (declared : machine.Declares (optionalMentions site guard)) :
    ∀ finding ∈ machine.checkGuard guard, finding.IsResolved := by
  cases guard with
  | none => exact List.forall_mem_nil _
  | some guard =>
      simp only [checkGuard]
      split
      · exact List.forall_mem_nil _
      · rw [List.forall_mem_singleton]
        simp [Finding.IsResolved, Finding.code]
      · next fault refused =>
          rw [List.forall_mem_singleton]
          exact refused_is_resolved rfl declared refused

theorem check_printed_resolved {site : MentionSite} {part : Printed}
    (declared : machine.Declares (part.mentions site)) :
    ∀ finding ∈ machine.checkPrinted part, finding.IsResolved := by
  cases part with
  | text content => exact List.forall_mem_nil _
  | value expr =>
      simp only [checkPrinted]
      split
      · exact List.forall_mem_nil _
      · next fault refused =>
          rw [List.forall_mem_singleton]
          exact refused_is_resolved rfl declared refused

theorem check_assignment_resolved {site : MentionSite} {target : String} {value : Expr}
    (declared : machine.Declares (Action.mentions site (.assign target value))) :
    ∀ finding ∈ machine.checkAssignment target value, finding.IsResolved := by
  obtain ⟨targetDeclared, mentioned⟩ := List.forall_mem_cons.mp declared
  have known : ((machine.attributeNamed? target).map Attribute.ty).isSome = true := by
    rw [Option.isSome_map]
    exact targetDeclared
  rw [checkAssignment, known, if_pos rfl, List.nil_append]
  split
  · next _ _ fault refused =>
      rw [List.forall_mem_singleton]
      exact refused_is_resolved rfl mentioned refused
  · split
    · exact List.forall_mem_nil _
    · rw [List.forall_mem_singleton]
      simp [Finding.IsResolved, Finding.code]
  · exact List.forall_mem_nil _

theorem check_action_resolved {site : MentionSite} {action : Action}
    (declared : machine.Declares (action.mentions site)) :
    ∀ finding ∈ machine.checkAction action, finding.IsResolved := by
  cases action with
  | assign target value => exact check_assignment_resolved declared
  | print parts =>
      intro finding found
      obtain ⟨part, member, found⟩ := List.mem_flatMap.mp found
      exact check_printed_resolved (declared.part member) finding found
  | timeout millis => exact List.forall_mem_nil _
  | run command =>
      have known : machine.hasCommand command = true := declared _ (List.mem_singleton.mpr rfl)
      rw [checkAction, known]
      exact List.forall_mem_nil _

theorem check_actions_resolved {site : MentionSite} {actions : List Action} (place : Nat → Site)
    (declared : machine.Declares (actions.flatMap (Action.mentions site))) :
    ∀ diagnostic ∈ machine.checkActions place actions, diagnostic.finding.IsResolved := by
  intro diagnostic reported
  obtain ⟨⟨action, position⟩, member, reported⟩ := List.mem_flatMap.mp reported
  obtain ⟨finding, found, rfl⟩ := List.mem_map.mp reported
  exact check_action_resolved (declared.part (List.fst_mem_of_mem_zipIdx member)) finding found

theorem check_head_resolved {state : State} (earlier : List Transition) {transition : Transition}
    (declared : machine.Declares (transition.mentions state.name)) :
    ∀ finding ∈ machine.checkHead state earlier transition, finding.IsResolved := by
  have head := List.forall_mem_cons.mp declared.left.left
  have eventKnown : machine.hasEvent transition.event = true := head.1
  have targetKnown : (machine.stateNamed? transition.target).isSome = true :=
    head.2 _ (List.mem_singleton.mpr rfl)
  rw [checkHead, eventKnown, targetKnown, if_pos rfl, if_pos rfl, List.nil_append, List.nil_append,
    List.forall_mem_append]
  constructor
  · split
    · rw [List.forall_mem_singleton]
      simp [Finding.IsResolved, Finding.code]
    · exact List.forall_mem_nil _
  · exact check_guard_resolved declared.left.right

theorem check_state_resolved {state : State} (declared : machine.Declares state.mentions) :
    ∀ diagnostic ∈ machine.checkState state, diagnostic.finding.IsResolved := by
  rw [checkState, List.forall_mem_append]
  constructor
  · intro diagnostic reported
    obtain ⟨⟨transition, position⟩, member, reported⟩ := List.mem_flatMap.mp reported
    have mentioned : machine.Declares (transition.mentions state.name) :=
      declared.left.part (List.fst_mem_of_mem_zipIdx member)
    rcases List.mem_append.mp reported with inHead | inActions
    · obtain ⟨finding, found, rfl⟩ := List.mem_map.mp inHead
      exact check_head_resolved _ mentioned finding found
    · exact check_actions_resolved _ mentioned.right diagnostic inActions
  · exact check_actions_resolved _ declared.right

/-- A default sees attributes before its own, even where its attribute is declared again. -/
theorem visible_for_default_mem {earlier later : List Attribute} {owner : Attribute}
    {name : String}
    (seen : name ∈ (Scope.forDefault (earlier ++ owner :: later) owner.name).visible.map
      Attribute.name) : name ∈ earlier.map Attribute.name := by
  obtain ⟨other, member, rfl⟩ := List.mem_map.mp seen
  apply List.mem_map_of_mem
  simp only [Scope.visible, Scope.forDefault, List.takeWhile_append, List.takeWhile_cons,
    beq_self_eq_true, Bool.not_true, Bool.false_eq_true, if_false, List.append_nil] at member
  split at member
  · exact member
  · exact (List.takeWhile_sublist _).subset member

theorem check_default_resolved {earlier later : List Attribute} {owner : Attribute}
    {environment : Environment} (parts : machine.attributes = earlier ++ owner :: later)
    (bound : ∀ name ∈ earlier.map Attribute.name, name ∈ environment.names)
    (declared : machine.Declares owner.mentions) :
    ∀ diagnostic ∈ (checkDefault machine.attributes environment owner).1,
      diagnostic.finding.IsResolved := by
  unfold Attribute.mentions at declared
  unfold checkDefault
  split
  · exact List.forall_mem_nil _
  · next default supplied =>
      rw [supplied] at declared
      split
      · next fault refused =>
          rw [List.forall_mem_singleton]
          exact refused_is_resolved rfl declared refused
      · next found inferred =>
          split
          · split
            · exact List.forall_mem_nil _
            · next fault failed =>
                rw [List.forall_mem_singleton]
                apply Finding.invalid_is_resolved
                -- What inference has let pass is earlier, and what is earlier is bound.
                rintro name rfl
                obtain ⟨mentioned, missing⟩ := Expr.evaluate_eq_unbound failed
                have seen := Expr.reference_visible_of_inferred inferred name mentioned
                rw [parts] at seen
                exact Environment.get_eq_none_iff.mp missing
                  (bound name (visible_for_default_mem seen))
          · rw [List.forall_mem_singleton]
            simp [Finding.IsResolved, Finding.code]

theorem check_defaults_resolved (earlier : List Attribute) {rest : List Attribute}
    {environment : Environment} (parts : machine.attributes = earlier ++ rest)
    (bound : ∀ name ∈ earlier.map Attribute.name, name ∈ environment.names)
    (declared : machine.Declares (rest.flatMap Attribute.mentions)) :
    ∀ diagnostic ∈ checkDefaults machine.attributes environment rest,
      diagnostic.finding.IsResolved := by
  induction rest generalizing earlier environment with
  | nil => exact List.forall_mem_nil _
  | cons owner rest induction =>
      rw [checkDefaults, List.forall_mem_append]
      constructor
      · exact check_default_resolved parts bound (declared.part List.mem_cons_self)
      · apply induction (earlier ++ [owner])
        · rw [parts, List.append_assoc, List.singleton_append]
        · intro name member
          rw [Environment.names_set]
          rw [List.map_append, List.mem_append] at member
          rcases member with before | here
          · split
            · exact bound name before
            · exact List.mem_append_left _ (bound name before)
          · obtain rfl : name = owner.name := List.mem_singleton.mp here
            split
            · next already => exact already
            · exact List.mem_append_right _ (List.mem_singleton.mpr rfl)
        · exact Declares.right declared

theorem check_names_resolved (machine : Machine) :
    ∀ diagnostic ∈ machine.checkUniqueNames ++ machine.checkGeneratedNames ++
      machine.checkInitialState ++ machine.checkStateNames, diagnostic.finding.IsResolved := by
  intro diagnostic member
  have naming := machine.check_names_naming diagnostic member
  cases found : diagnostic.finding with
  | undeclaredEvent name | undeclaredTarget name | undeclaredAttribute name
  | undeclaredCommand name | invalid fault =>
      rw [found] at naming
      nomatch naming
  | _ => simp [Finding.IsResolved, Finding.code]

theorem diagnostics_resolved (declared : machine.Declares machine.mentions) :
    ∀ diagnostic ∈ machine.diagnostics, diagnostic.finding.IsResolved := by
  rw [diagnostics, List.forall_mem_append, List.forall_mem_append]
  refine ⟨⟨machine.check_names_resolved, ?_⟩, ?_⟩
  · exact check_defaults_resolved [] rfl (List.forall_mem_nil _) declared.left
  · intro diagnostic reported
    obtain ⟨state, member, reported⟩ := List.mem_flatMap.mp reported
    exact check_state_resolved (declared.right.part member) diagnostic reported

/-! The other way round: what passes has its names declared. -/

theorem declares_of_inferred {scope : Scope} {expr : Expr} {ty : Ty} (site : MentionSite)
    (visible : ∀ name ∈ scope.visible.map Attribute.name,
      name ∈ machine.attributes.map Attribute.name)
    (inferred : expr.infer scope = .ok ty) : machine.Declares (expr.mentions site) := by
  apply declares_mentions_iff.mpr
  intro name mentioned
  exact visible name (Expr.reference_visible_of_inferred inferred name mentioned)

theorem GuardFits.declares {guard : Option Expr} (site : MentionSite)
    (fits : machine.GuardFits guard) : machine.Declares (optionalMentions site guard) := by
  cases guard with
  | none => exact List.forall_mem_nil _
  | some guard => exact declares_of_inferred site (fun _ => id) fits

theorem ActionFits.declares {action : Action} (site : MentionSite)
    (fits : machine.ActionFits action) : machine.Declares (action.mentions site) := by
  cases action with
  | assign target value =>
      obtain ⟨owner, found, inferred⟩ := fits
      have known : machine.declares ⟨.owner, target, site⟩ = true := by
        rw [Machine.declares, found]
        rfl
      exact List.forall_mem_cons.mpr ⟨known, declares_of_inferred site (fun _ => id) inferred⟩
  | print parts =>
      apply declares_flat_map
      intro part member
      cases part with
      | text content => exact List.forall_mem_nil _
      | value expr =>
          obtain ⟨ty, inferred⟩ := fits (.value expr) member
          exact declares_of_inferred site (fun _ => id) inferred
  | timeout millis => exact List.forall_mem_nil _
  | run command => exact List.forall_mem_singleton.mpr fits

theorem declares_actions {actions : List Action} (site : MentionSite)
    (fits : ∀ action ∈ actions, machine.ActionFits action) :
    machine.Declares (actions.flatMap (Action.mentions site)) :=
  declares_flat_map fun action member => (fits action member).declares site

theorem TransitionFits.declares {transition : Transition} (state : String)
    (fits : machine.TransitionFits transition) : machine.Declares (transition.mentions state) := by
  have target := Option.isSome_iff_exists.mpr fits.target
  rw [Declares, Transition.mentions, List.forall_mem_append, List.forall_mem_append,
    List.forall_mem_cons, List.forall_mem_singleton]
  exact ⟨⟨⟨fits.event, target⟩, fits.guard.declares _⟩, declares_actions _ fits.actions⟩

/-- Each default that passes has been inferred in its scope, whatever became of the others. -/
theorem inferred_of_clean_defaults {declared rest : List Attribute} {environment : Environment}
    (clean : hasErrors (checkDefaults declared environment rest) = false) :
    ∀ owner ∈ rest, ∀ default, owner.default = some default →
      ∃ ty, default.infer (Scope.forDefault declared owner.name) = .ok ty := by
  induction rest generalizing environment with
  | nil => exact List.forall_mem_nil _
  | cons first rest induction =>
      rw [checkDefaults, has_errors_append] at clean
      rw [List.forall_mem_cons]
      refine ⟨?_, induction clean.2⟩
      intro default supplied
      cases inferred : default.infer (Scope.forDefault declared first.name) with
      | ok ty => exact ⟨ty, rfl⟩
      | error fault =>
          have found : (checkDefault declared environment first).1 =
              [⟨.owner first.name, .invalid fault⟩] := by
            simp only [checkDefault, supplied, inferred]
          rw [found] at clean
          cases clean.1

theorem declares_of_no_errors (accepted : hasErrors machine.diagnostics = false) :
    machine.Declares machine.mentions := by
  simp only [diagnostics, has_errors_append, has_errors_flat_map, check_state_clean_iff]
    at accepted
  obtain ⟨⟨_, defaults⟩, states⟩ := accepted
  rw [Declares, mentions, List.forall_mem_append]
  constructor
  · apply declares_flat_map
    intro owner member
    rw [Attribute.mentions]
    cases supplied : owner.default with
    | none => exact List.forall_mem_nil _
    | some default =>
        obtain ⟨ty, inferred⟩ := inferred_of_clean_defaults defaults owner member default supplied
        have visible : ∀ name ∈
            (Scope.forDefault machine.attributes owner.name).visible.map Attribute.name,
            name ∈ machine.attributes.map Attribute.name :=
          ((List.takeWhile_sublist _).map Attribute.name).subset
        exact declares_of_inferred _ visible inferred
  · apply declares_flat_map
    intro state member
    obtain ⟨transitions, entry⟩ := states state member
    rw [Declares, State.mentions, List.forall_mem_append]
    constructor
    · exact declares_flat_map fun transition handles =>
        (transitions transition handles).declares state.name
    · exact declares_actions _ entry

theorem unresolved_eq_nil_iff : machine.unresolved = [] ↔ machine.Declares machine.mentions := by
  rw [unresolved, first_per_key_eq_nil_iff, List.filter_eq_nil_iff]
  simp only [Declares, Bool.not_eq_eq_eq_not, Bool.not_true, Bool.not_eq_false]

end Machine

namespace Document

/-- A document that resolves gives a machine of which validation calls no name undeclared. If its
types and sources can be read but some of its names are not declared, then the machine that would
have come of it is refused by validation. -/
theorem references_checked_alike (document : Document) :
    (∀ machine, document.resolve = .ok machine → ∀ diagnostic ∈ machine.diagnostics,
      diagnostic.finding.code ≠ "UNRESOLVED_REFERENCE") ∧
    ∀ mentions, document.failure? = none → document.resolve = .error (.unresolved mentions) →
      ∃ machine, document.build = .ok machine ∧ hasErrors machine.diagnostics = true := by
  constructor
  · intro machine resolved
    obtain ⟨built, _, outcome⟩ := bind_eq_ok_iff.mp resolved
    split at outcome
    · next nothing =>
        cases outcome
        exact Machine.diagnostics_resolved (Machine.unresolved_eq_nil_iff.mp nothing)
    · cases outcome
  · intro mentions readable refused
    obtain ⟨machine, built⟩ := failure_of_eq_none_iff.mp (document.failure_of_build.trans readable)
    refine ⟨machine, built, ?_⟩
    rw [← Bool.not_eq_false]
    intro accepted
    have nothing := Machine.unresolved_eq_nil_iff.mpr (Machine.declares_of_no_errors accepted)
    rw [resolve, built, ok_bind, nothing] at refused
    cases refused

def gauge (other last : String) : Document where
  name := "Gauge"
  events := ["rise"]
  commands := []
  attributes := [⟨"level", "int", some ("1 / 0 + " ++ other)⟩, ⟨"limit", "int", none⟩,
    ⟨last, "bool", some "limit < 3"⟩]
  initial := "Low"
  states := [⟨"Low", [], [⟨"rise", some "level < limit", "Low", [.assign "level" "level + 1"]⟩]⟩]

/-- A name that is declared twice and one that is declared too late are other matters. -/
theorem gauge_references_checked_alike :
    (∃ machine, (gauge "limit" "level").resolve = .ok machine ∧
      ∀ diagnostic ∈ machine.diagnostics, diagnostic.finding.code ≠ "UNRESOLVED_REFERENCE") ∧
    ∃ mentions machine, (gauge "ghost" "full").failure? = none ∧
      (gauge "ghost" "full").resolve = .error (.unresolved mentions) ∧
      (gauge "ghost" "full").build = .ok machine ∧ hasErrors machine.diagnostics = true := by
  have spelled : (gauge "limit" "level").failure? = none := by decide +kernel
  obtain ⟨machine, _, resolved⟩ := resolve_of_readable spelled
  have declared : (gauge "limit" "level").undeclared = [] := by decide +kernel
  rw [declared] at resolved
  have readable : (gauge "ghost" "full").failure? = none := by decide +kernel
  obtain ⟨_, _, refused⟩ := resolve_of_readable readable
  have missing : (gauge "ghost" "full").undeclared = [⟨.owner, "ghost", .default "level"⟩] := by
    decide +kernel
  rw [missing] at refused
  obtain ⟨built, same, errors⟩ :=
    (references_checked_alike (gauge "ghost" "full")).2 _ readable refused
  exact ⟨⟨machine, resolved, (references_checked_alike (gauge "limit" "level")).1 machine resolved⟩,
    _, built, readable, refused, same, errors⟩

end Document

end StateMachine
