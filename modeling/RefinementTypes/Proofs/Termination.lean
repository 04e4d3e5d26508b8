import RefinementTypes.Proofs.Programs
import RefinementTypes.Proofs.Soundness
import RefinementTypes.Proofs.Rounds

/-! Checking comes to an end. A declaration with parameters is annotated in full here, so that no
variable is tied to instances of what another one comes to be bound to. Then no more variables are issued
than can be told from how the declarations are written, bindings have no cycles in any state that is
passed, and the solver takes a round for each variable at most, and two more. -/

namespace RefinementTypes

namespace Checking

def paramWidth (decls : List Decl) : Nat := (decls.map fun decl => decl.params.length).foldr max 0

def roundBound (decls : List Decl) : Nat := (decls.map (Decl.demand (paramWidth decls))).sum + 2

private theorem params_le_paramWidth {decls : List Decl} {decl : Decl} (member : decl ∈ decls) :
    decl.params.length ≤ paramWidth decls := by
  induction decls with
  | nil => cases member
  | cons first rest ih =>
    have step : paramWidth (first :: rest) = max first.params.length (paramWidth rest) := rfl
    rcases List.mem_cons.mp member with rfl | later
    · omega
    · have := ih later
      omega

/-- All that is done with the bindings and the obligations of a state comes to an end. What follows
bindings satisfies its equations as if steps were not counted, and there is no endless chain of bindings.
Comparisons and resolution are not stopped at a depth. The solver is not stopped either once it has a
round for each variable and two more, and it makes no difference how many more. -/
structure State.Terminates (config : Config) (state : State) : Prop where
  chains : WellFounded fun inner id => state.subst.Refers id inner
  apply : ∀ (v : TyVar) bound, state.subst.lookup v.id = some bound →
    state.subst.apply (.var v) = state.subst.apply bound
  shallow : ∀ (v : TyVar) bound, state.subst.lookup v.id = some bound →
    state.subst.shallow (.var v) = state.subst.shallow bound
  occurs : ∀ id (v : TyVar) bound, state.subst.lookup v.id = some bound →
    state.subst.occurs id (.var v) = (v.id == id || state.subst.occurs id bound)
  assign : ∀ expected found, (Session.assign expected found config state).1 ≠ .error (.fault .depthLimit)
  typeId : ∀ type, (Session.typeId type config state).1 ≠ .error (.fault .depthLimit)
  plain : state.Plain
  round : ∀ settled after,
    Session.dischargeAll state.worklist config { state with worklist := [] } = (.ok settled, after) →
      after.subst.size = state.subst.size → ∀ obligation ∈ after.worklist, obligation.Blocked after.subst
  solve : ∀ final limit round, state.nextVar + 2 ≤ limit →
    (Session.solveFrom final limit round config state).1 ≠ .error (.fault .roundLimit) ∧
      ∀ more, limit ≤ more →
        Session.solveFrom final more round config state = Session.solveFrom final limit round config state

open Session

variable {width : Nat} {config : Config} {before after : State}

private theorem State.Under.terminates {state : State} (under : state.Under (.counting width))
    (acyclic : state.subst.Acyclic) : state.Terminates config where
  chains := by
    obtain ⟨rank, ranked⟩ := acyclic
    refine Subrelation.wf (fun refers => ?_) (measure rank).wf
    obtain ⟨type, found, member⟩ := refers
    exact ranked _ type found _ member
  apply _ _ found := Subst.apply_bound acyclic found
  shallow _ _ found := Subst.shallow_bound acyclic found
  occurs id _ _ found := Subst.occurs_bound acyclic id found
  assign _ _ failed := by cases assign_incomparable acyclic failed
  typeId type failed := by
    have lowers : LowersTo False _ (Session.typeId type) config state := typeId_lowers acyclic False.elim type
    exact (lowers.proper _ failed).1 rfl
  plain := under.plain
  round settled after run same obligation member := by
    have acyclic : { state with worklist := [] }.subst.Acyclic := acyclic
    rcases dischargeAll_stalls acyclic run with bound | ⟨subst, left, grown, blocked⟩
    · exact absurd same (Nat.ne_of_gt bound)
    · rw [grown] at member
      rw [subst]
      exact blocked obligation member
  solve final limit round enough := by
    have affords : state.Affords limit := .inl (by omega)
    refine ⟨fun failed => ?_, fun more le => solveFrom_stable under acyclic affords le final round⟩
    exact ((solveFrom_affords acyclic affords final round under).faults acyclic _ failed).2 rfl

/-- How checking may be stopped: by what is checked, or for want of rounds, and then so many variables
have been issued. -/
def Foreseen (config : Config) (cause : Fault) (issued : Nat) : Prop :=
  cause.Proper ∨ cause = .roundLimit ∧ config.roundLimit < issued + 2

namespace Session

private theorem solve_foreseen (final : Bool) :
    Follows (.counting width) 0 (solve final) config before (fun _ _ => True) (Foreseen config) := by
  refine .asking (.acyclic (solveFrom_follows (fun _ _ _ _ => trivial) (fun _ => trivial) _ _ _) fun acyclic => ?_)
  by_cases enough : before.nextVar + 2 ≤ config.roundLimit
  · have affords : before.Affords config.roundLimit := .inl (by omega)
    exact (solveFrom_affords acyclic affords final 1).blame fun _ _ _ proper => .inl proper
  · have follows : Follows (.counting width) 0 (solveFrom final config.roundLimit 1) config before (fun _ _ => True)
        fun cause _ => cause.Proper ∨ cause = .roundLimit :=
      solveFrom_follows (fun _ _ _ unknown => .inl unknown.proper) (fun _ => .inr rfl) final _ _
    refine follows.blame fun cause issued le stopped => stopped.imp_right fun same => ⟨same, ?_⟩
    omega

private theorem checkDecls_follows {cache : Regex.Cache} {decls : List (Option Decl)}
    (annotated : ∀ decl, some decl ∈ decls → decl.params ≠ [] →
      decl.type.WildcardFree ∧ decl.params.length ≤ width) :
    Follows (.counting width) ((decls.filterMap id).map (Decl.demand width)).sum (checkDecls decls) config
      (.fresh cache) (fun _ _ => True) (Foreseen config) := by
  have unknown : True → ∀ cause limit, cause.Unknown → Foreseen config cause limit :=
    fun _ _ _ unknown => .inl unknown.proper
  have fits : (Policy.counting width).Fits config decls :=
    ⟨.of_error trivial fun _ _ => .inl trivial, .inl trivial, fun decl member some => .inr (annotated decl member some)⟩
  refine .finish (elaborateAll_follows unknown (fun final _ => solve_foreseen final) Ty.over_setMutability.mpr fits) ?_
  rintro ⟨declared, bodies⟩ solved run _ _
  refine .aside (resolveAll_uses (.refl _) declared bodies) (by decide) fun acyclic cause failed => .inl ?_
  have lowers : Lowers True (resolveAll declared bodies) config solved _ _ :=
    resolveAll_lowers acyclic rfl (elaborateAll_exact run).2 declared bodies
  exact lowers.proper cause failed

/-- The obligations that a run leaves to the solver, in order. -/
def deferred : {α : Type} → Session α → Config → State → List Obligation
  | _, .pure _, _, _ | _, .fail _, _, _ => []
  | _, .bind step next, config, state =>
    step.deferred config state ++
      match step.run config state with
      | (.ok value, middle) => (next value).deferred config middle
      | (.error _, _) => []
  | _, .request (.defer obligation), _, _ => [obligation]
  | _, .request _, _, _ => []
  | _, .mapError _ step, config, state | _, .keepingScope step, config, state => step.deferred config state

private theorem mem_passed_of_deferred {α : Type} (step : Session α) (config : Config) (before : State) :
    ∀ obligation ∈ step.deferred config before, ∃ state ∈ step.passed config before, obligation ∈ state.worklist := by
  induction step generalizing before with
  | pure | fail => exact fun _ member => by cases member
  | bind step next first rest =>
    intro obligation member
    rw [deferred] at member
    rw [passed]
    rcases List.mem_append.mp member with early | late
    · obtain ⟨state, inside, there⟩ := first before obligation early
      exact ⟨state, List.mem_append_left _ inside, there⟩
    · rcases outcome : step config before with ⟨_ | value, middle⟩
      · rw [outcome] at late
        cases late
      · rw [outcome] at late
        obtain ⟨state, inside, there⟩ := rest value middle obligation late
        exact ⟨state, List.mem_append_right _ inside, there⟩
  | request asked =>
    intro obligation member
    cases asked with
    | defer other =>
      cases List.mem_singleton.mp member
      exact ⟨_, List.mem_singleton_self _, List.mem_append_right _ (List.mem_singleton_self _)⟩
    | _ => cases member
  | mapError change step ih => exact ih before
  | keepingScope step ih =>
    intro obligation member
    obtain ⟨state, inside, there⟩ := ih before obligation member
    exact ⟨state, List.mem_append_left _ inside, there⟩

end Session

/-- The states that a check passes, from the one that it begins with to the one that it leaves. -/
def Checker.passed (checker : Checker) (decls : List (Option Decl)) : List State :=
  let begun := State.fresh checker.state.cache
  begun :: (checkDecls decls).passed checker.config begun ++ [(checker.check decls).2.state]

/-- Checking declarations of which those with parameters are annotated in full comes to an end, however
many have been checked before and in whichever order bodies are checked. All that is done in the states
that it passes comes to an end, and no obligation about an instance is left on the way. -/
theorem check_terminates (config : Config) (history : List (List (Option Decl))) (decls : List (Option Decl))
    (annotated : ∀ decl, some decl ∈ decls → decl.params ≠ [] → decl.type.WildcardFree)
    (enough : roundBound (decls.filterMap id) ≤ config.roundLimit) :
    let checker := (Checker.new config).afterAll history
    (checker.check decls).1 ≠ .error (.fault .depthLimit) ∧ (checker.check decls).1 ≠ .error (.fault .roundLimit) ∧
      (∀ state ∈ checker.passed decls, state.Terminates config) ∧
      ∀ obligation ∈ (checkDecls decls).deferred config (.fresh checker.state.cache), obligation.Plain := by
  intro checker
  have ready : checker.Ready config := (Checker.Ready.new config).afterAll history
  obtain ⟨outcome, _, alike⟩ := checker.check_session decls
  rw [ready.config] at outcome alike
  have full : ∀ decl, some decl ∈ decls → decl.params ≠ [] →
      decl.type.WildcardFree ∧ decl.params.length ≤ paramWidth (decls.filterMap id) := by
    intro decl member some
    refine ⟨annotated decl member some, params_le_paramWidth ?_⟩
    exact List.mem_filterMap.mpr ⟨_, member, rfl⟩
  have begins : (State.fresh checker.state.cache).Under (.counting (paramWidth (decls.filterMap id))) :=
    .fresh checker.state.cache ⟨List.nodup_nil, fun _ member => by cases member⟩
  have ends : Ends _ _ (checkDecls decls) config _ _ (Foreseen config) := checkDecls_follows full begins
  have passed : ∀ state ∈ checker.passed decls, state.Terminates config := by
    unfold Checker.passed
    rw [ready.config]
    refine List.forall_mem_append.mpr ⟨List.forall_mem_cons.mpr ⟨?_, ?_⟩, List.forall_mem_singleton.mpr ?_⟩
    · exact begins.terminates Subst.acyclic_empty
    · intro state member
      exact (ends.path state member).terminates ((passed_grows _ _ _ state member).acyclic Subst.acyclic_empty)
    · refine ((ends.last begins).aside alike.aside).terminates ?_
      rw [alike.subst]
      exact (run_grows _ _ _).acyclic Subst.acyclic_empty
  -- A solver that was stopped would have had more variables than were issued by the end.
  have proper : ∀ cause, (checkDecls decls config (.fresh checker.state.cache)).1 = .error (.fault cause) →
      cause.Proper := by
    intro cause failed
    rcases ends.faults Subst.acyclic_empty cause failed with proper | ⟨_, late⟩
    · exact proper
    · have spent : (checkDecls decls config (.fresh checker.state.cache)).2.nextVar ≤ 0 + _ :=
        ends.spent.resolve_left id
      unfold roundBound at enough
      omega
  rw [outcome]
  refine ⟨fun failed => (proper _ failed).1 rfl, fun failed => (proper _ failed).2 rfl, passed, ?_⟩
  intro obligation member
  obtain ⟨state, inside, there⟩ := mem_passed_of_deferred _ _ _ obligation member
  exact (ends.path state inside).plain obligation there

/-- One declaration has a parameter and a full annotation, and another one a type that is found from its
uses, after obligations were put off. -/
theorem check_terminates_generic :
    let config : Config := ⟨id, .regular, true, false, 16⟩
    let compared : Expr := .letElse (.lit (some (.int 3))) (.name "x") (.name "x") (.lit (some (.int 5)))
    let decls : List (Option Decl) := [
      some ⟨"use", [], .range 0 10, .call (.call (.name "pick") (.name "test")) (.lit (some (.int 7)))⟩,
      some ⟨"test", [], .arrow .wildcard (.range 0 10), .lam (.bind "x") compared⟩,
      some ⟨"pick", ["a"], .arrow (.named "a") (.named "a"), .lam (.bind "x") (.name "x")⟩]
    let checker := (Checker.new config).afterAll [[none]]
    (∀ decl, some decl ∈ decls → decl.params ≠ [] → decl.type.WildcardFree) ∧
      roundBound (decls.filterMap id) ≤ config.roundLimit ∧
      (checker.check decls).1 ≠ .error (.fault .depthLimit) ∧ (checker.check decls).1 ≠ .error (.fault .roundLimit) ∧
      (∀ state ∈ checker.passed decls, state.Terminates config) ∧
      ∀ obligation ∈ (checkDecls decls).deferred config (.fresh checker.state.cache), obligation.Plain := by
  intro config compared decls
  have annotated : ∀ decl, some decl ∈ decls → decl.params ≠ [] → decl.type.WildcardFree := by
    simp [decls, TypeExpr.WildcardFree]
  have enough : roundBound (decls.filterMap id) ≤ config.roundLimit := by decide +kernel
  exact ⟨annotated, enough, check_terminates config [[none]] decls annotated enough⟩

end Checking

end RefinementTypes
