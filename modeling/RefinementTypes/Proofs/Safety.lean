import RefinementTypes.Proofs.Soundness

/-! Absence of faults. Where every form is known, checking ends in a program or in a refusal: no variable is bound
twice, no number is used before it was issued, no body is left out, and no type is missing when it is resolved. All that
can stop it otherwise is the bound on the rounds of the solver. -/

namespace RefinementTypes

instance : Ty.Leaves (· ≠ Ty.missing) := ⟨fun _ _ => by simp⟩

namespace Checking

/-- No type has missing parts, and no form is met that is not known. -/
def Policy.native : Policy := { Policy.over (· ≠ .missing) with foreign := False }

namespace Session

variable {config : Config} {before : State} {decls : List (Option Decl)} {cache : Regex.Cache}

private theorem elaborateAll_native (native : ∀ decl, some decl ∈ decls → decl.Native) :
    Follows .native ((decls.filterMap id).map (Decl.demand 0)).sum (elaborateAll decls) config before
      (fun (declared, bodies) limit => (∀ decl ∈ declared, decl.type.Over (· ≠ .missing) limit) ∧
        ∀ body ∈ bodies, body.2.All (·.Over (· ≠ .missing) limit)) fun cause _ => cause = .roundLimit := by
  have present (atom : Atom) : Ty.atom atom ≠ .missing := fun same => by cases same
  have fits : Policy.native.Fits config decls :=
    ⟨.of_error (present _) fun _ _ => .inl (present _), .inr native, fun _ _ _ => .inl trivial⟩
  have known : Policy.native.foreign → ∀ (cause : Fault) (_ : Nat), cause.Unknown → cause = .roundLimit := False.elim
  exact elaborateAll_follows known (fun final _ => solve_follows known (fun _ => rfl) final)
    Ty.over_setMutability.mpr fits

/-- All that may be lacking once bodies have been checked is the binding of a variable. -/
theorem elaborateAll_whole {declared : List DeclaredDecl} {bodies : List (Nat × Typed Ty)} {solved : State}
    (native : ∀ decl, some decl ∈ decls → decl.Native)
    (run : elaborateAll decls config (.fresh cache) = (.ok (declared, bodies), solved)) :
    AllFrom (fun type => (solved.subst.apply type).Whole) bodies 0 declared := by
  obtain ⟨_, under, types, annotations⟩ := (elaborateAll_native native).reached (.fresh cache trivial) run
  have whole {type : Ty} (fits : type.Over (· ≠ .missing) solved.nextVar) : (solved.subst.apply type).Whole :=
    (Subst.apply_over (fun _ _ found => under.lookup found) fits).whole fun present => present rfl
  intro index decl placed
  obtain ⟨body, found⟩ := elaborateAll_lookup run placed
  refine ⟨body, by rw [Nat.zero_add, found], whole (types decl (List.mem_of_getElem? placed)), ?_⟩
  exact (annotations (index, body) (mem_of_lookup_eq found)).imp fun _ => whole

private theorem checkDecls_fault (native : ∀ decl, some decl ∈ decls → decl.Native) {cause : Fault}
    (failed : (checkDecls decls config (.fresh cache)).1 = .error (.fault cause)) : cause = .roundLimit := by
  have ends : Ends .native _ (elaborateAll decls) config (.fresh cache) _ _ :=
    elaborateAll_native native (.fresh cache trivial)
  cases outcome : elaborateAll decls config (.fresh cache) with
  | mk result solved =>
    cases result with
    | error failure =>
      have stopped : (checkDecls decls config (.fresh cache)).1 = .error failure := bind_failed (by rw [outcome])
      cases stopped.symm.trans failed
      exact ends.faults Subst.acyclic_empty cause (by rw [outcome])
    | ok result =>
      obtain ⟨declared, bodies⟩ := result
      have resolving : checkDecls decls config (.fresh cache) = resolveAll declared bodies config solved :=
        bind_run outcome
      rw [resolving] at failed
      obtain ⟨acyclic, exact⟩ := elaborateAll_exact outcome
      -- A fault in resolution would come from a type with missing parts.
      refine absurd ?_ ((resolveAll_lowers acyclic rfl exact declared bodies).failed trivial _ failed)
      refine (elaborateAll_whole native outcome).imp fun _ whole lacks => ?_
      obtain ⟨_, _, refused, _⟩ := lacks.refused whole
      cases refused

end Session

/-- Whatever a checker was used for before, checking declarations of known forms gives a program or an error in the
declarations, unless the solver is stopped before it has settled. Declarations, expressions, patterns and types may be
missing anywhere. -/
theorem native_checked_or_refused (config : Config) (history : List (List (Option Decl)))
    (decls : List (Option Decl)) (native : ∀ decl, some decl ∈ decls → decl.Native) :
    let result := (((Checker.new config).afterAll history).check decls).1
    result = .error (.fault .roundLimit) ∨ (∃ program, result = .ok program) ∨
      ∃ error, result = .error (.refused error) := by
  intro result
  have ready : ((Checker.new config).afterAll history).Ready config := (Checker.Ready.new config).afterAll history
  obtain ⟨outcome, _⟩ := ((Checker.new config).afterAll history).check_session decls
  rw [ready.config] at outcome
  cases ended : result with
  | ok program => exact .inr (.inl ⟨program, rfl⟩)
  | error failure =>
    cases failure with
    | refused error => exact .inr (.inr ⟨error, rfl⟩)
    | fault cause =>
      rw [Session.checkDecls_fault native (outcome.symm.trans ended)]
      exact .inl rfl

/-- The first declaration lacks the domain of its type, the second one its type, a pattern and an argument. -/
theorem native_checked_or_refused_missing :
    let config : Config := ⟨id, .regular, false, false, 8⟩
    let decls : List (Option Decl) := [
      some ⟨"f", [], .arrow .missing .bool, .lam (.bind "x") (.lit (some (.bool true)))⟩,
      some ⟨"g", [], .missing, .lam .missing (.call (.name "f") .missing)⟩]
    (∀ decl, some decl ∈ decls → decl.Native) ∧
      let result := (((Checker.new config).afterAll [[none]]).check decls).1
      result.isOk = false ∧ (result = .error (.fault .roundLimit) ∨ (∃ program, result = .ok program) ∨
        ∃ error, result = .error (.refused error)) := by
  intro config decls
  have native : ∀ decl, some decl ∈ decls → decl.Native := by
    intro decl member
    simp only [decls, List.mem_cons, Option.some.injEq, List.not_mem_nil, or_false] at member
    rcases member with rfl | rfl <;> constructor <;> simp [TypeExpr.Native, Expr.Native, Pat.Native]
  refine ⟨native, by decide +kernel, ?_⟩
  exact native_checked_or_refused config [[none]] decls native

end Checking

end RefinementTypes
