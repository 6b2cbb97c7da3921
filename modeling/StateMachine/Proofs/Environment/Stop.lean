import StateMachine.Proofs.Environment.Initial

/-!
Where an initialisation stops: at the first attribute without an initial value, which the attributes
before it determine.
-/

set_option autoImplicit false

namespace StateMachine.Environment

/-- The attributes before `stopped` get their values, and then its own initial value ends in
`fault`. -/
inductive StopsAt : Environment → List Attribute → Attribute → Fault → Prop where
  | here {environment : Environment} {owner : Attribute} {fault : Fault} (rest : List Attribute)
      (failed : owner.initialValue environment = .error fault) :
      StopsAt environment (owner :: rest) owner fault
  | later {environment : Environment} {owner stopped : Attribute} {value : Value} {fault : Fault}
      {rest : List Attribute} (initial : owner.initialValue environment = .ok value)
      (stops : StopsAt (environment.set owner.name value) rest stopped fault) :
      StopsAt environment (owner :: rest) stopped fault

theorem StopsAt.init_from_eq_error {environment : Environment} {attributes : List Attribute}
    {stopped : Attribute} {fault : Fault} (stops : environment.StopsAt attributes stopped fault) :
    environment.initFrom attributes = .error fault := by
  induction stops with
  | here rest failed => exact bind_eq_error_iff.mpr (Or.inl failed)
  | later initial _ induction => exact bind_eq_error_iff.mpr (Or.inr ⟨_, initial, induction⟩)

theorem init_from_eq_error_iff {environment : Environment} {attributes : List Attribute}
    {fault : Fault} :
    environment.initFrom attributes = .error fault ↔
      ∃ stopped, environment.StopsAt attributes stopped fault := by
  constructor
  · intro failed
    induction attributes generalizing environment with
    | nil => cases failed
    | cons owner rest induction =>
        obtain ownFailed | ⟨value, initial, restFailed⟩ := bind_eq_error_iff.mp failed
        · exact ⟨owner, .here rest ownFailed⟩
        · obtain ⟨stopped, stops⟩ := induction restFailed
          exact ⟨stopped, .later initial stops⟩
  · rintro ⟨stopped, stops⟩
    exact stops.init_from_eq_error

/-- What comes before the attribute is initialised, and what comes after it is not looked at. -/
theorem StopsAt.split {environment : Environment} {attributes : List Attribute}
    {stopped : Attribute} {fault : Fault} (stops : environment.StopsAt attributes stopped fault) :
    ∃ before after reached, attributes = before ++ stopped :: after ∧
      environment.initFrom before = .ok reached ∧
      stopped.initialValue reached = .error fault := by
  induction stops with
  | @here environment owner fault rest failed => exact ⟨[], rest, environment, rfl, rfl, failed⟩
  | @later environment owner stopped value fault rest initial _ induction =>
      obtain ⟨before, after, reached, rfl, initialized, failed⟩ := induction
      exact ⟨owner :: before, after, reached, rfl,
        bind_eq_ok_iff.mpr ⟨value, initial, initialized⟩, failed⟩

theorem StopsAt.mem {environment : Environment} {attributes : List Attribute}
    {stopped : Attribute} {fault : Fault} (stops : environment.StopsAt attributes stopped fault) :
    stopped ∈ attributes := by
  obtain ⟨before, after, _, rfl, _, _⟩ := stops.split
  simp

/-- Each attribute of a finished initialisation had its turn after the ones before it. -/
theorem init_earlier {earlier later : List Attribute} {owner : Attribute} {final : Environment}
    (initialized : init (earlier ++ owner :: later) = .ok final) :
    ∃ environment value, init earlier = .ok environment ∧
      owner.initialValue environment = .ok value := by
  unfold init at initialized ⊢
  rw [init_from_append] at initialized
  obtain ⟨environment, earlierInitialized, rest⟩ := bind_eq_ok_iff.mp initialized
  obtain ⟨value, initial, _⟩ := init_from_cons rest
  exact ⟨environment, value, earlierInitialized, initial⟩

end StateMachine.Environment
