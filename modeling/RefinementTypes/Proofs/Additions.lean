import RefinementTypes.Proofs.Borrowing

/-! What checking adds to a session. While an expression is checked, obligations and warnings are only added and the
declaration at hand is the same. This holds however checking ends. Since the scope is put back as well, every body is
checked among the templates of the declarations and nothing else. -/

namespace RefinementTypes.Checking

namespace Session

variable {config : Config} {before after : State}

/-- The templates of declarations; a name that two of them have stands for the last. -/
def templates (config : Config) (declared : List DeclaredDecl) : NameMap Template :=
  (declared.map (signature config)).foldl (fun scope entry => scope.insert entry.1 entry.2) .empty

private theorem declareAll_scope {named : List NamedDecl} {declared : List DeclaredDecl}
    (run : declareAll named config before = (.ok declared, after)) :
    after.scope =
      (declared.map (signature config)).foldl (fun scope entry => scope.insert entry.1 entry.2) before.scope := by
  induction named generalizing declared before with
  | nil =>
    cases run
    rfl
  | cons decl rest ih =>
    obtain ⟨_, _, entered, run⟩ := bind_ok run
    cases entered
    obtain ⟨type, lowered, lowering, run⟩ := bind_ok run
    have kept := ((lower_uses (.refl _) _ _).leaves lowering).scope (by decide)
    obtain ⟨_, _, generalized, run⟩ := bind_ok run
    cases generalized
    obtain ⟨_, _, entry, run⟩ := bind_ok run
    cases entry
    obtain ⟨_, reported, traced, run⟩ := bind_ok run
    have alike := ((Quiet.trace _).result traced).1
    obtain ⟨others, _, later, run⟩ := bind_ok run
    cases run
    rw [ih later, alike.scope, List.map_cons, List.foldl_cons]
    dsimp only
    rw [kept]
    rfl

private theorem prepare_scope {cache : Regex.Cache} {decls : List (Option Decl)} {declared : List DeclaredDecl}
    {order : List Nat} {ready : State}
    (run : prepare decls config (.fresh cache) = (.ok (declared, order), ready)) :
    ready.scope = templates config declared := by
  obtain ⟨named, validated, known, first, second, alike, _⟩ := prepare_ok run
  rw [alike.scope, declareAll_scope second, ((validate_quiet _ _).result first).1.scope]
  rfl

end Session

open Session

/-- What checking an expression leaves of a state: the names in scope and the declaration at hand are the same, and
obligations and warnings are added behind those that were there. -/
structure State.Restored (before after : State) : Prop where
  scope : after.scope = before.scope
  decl : after.decl = before.decl
  worklist : before.worklist <+: after.worklist
  warnings : before.warnings <+: after.warnings

private theorem elaborate_restored (expr : Expr) (expected : Option Ty) (config : Config) (before : State) :
    before.Restored (elaborate expr expected config before).2 := by
  have untouched := (elaborate_uses (.refl _) expr expected).untouched config before
  exact ⟨untouched.scope (by decide), untouched.decl (by decide), untouched.pending (by decide),
    (run_grows _ _ _).warnings⟩

/-- Finding or checking the type of any expression, in any state and however it ends, leaves the scope and the
declaration at hand as they were, and only appends to the obligations and the warnings. So whichever bodies have been
checked, and whether or not the last of them was refused, the next one is checked among the templates of the
declarations. -/
theorem checking_restores_scope (config : Config) :
    (∀ (expr : Expr) (before : State), before.Restored (infer expr config before).2) ∧
      (∀ (expr : Expr) (type : Ty) (before : State), before.Restored (check expr type config before).2) ∧
      ∀ (cache : Regex.Cache) (decls : List (Option Decl)) (declared : List DeclaredDecl) (order : List Nat)
        (ready : State), prepare decls config (.fresh cache) = (.ok (declared, order), ready) →
        ∀ done, (defineAll declared done config ready).2.scope = templates config declared := by
  refine ⟨fun expr before => ?_, fun expr type before => ?_, ?_⟩
  · exact elaborate_restored expr none config before
  · exact elaborate_restored expr (some type) config before
  · intro cache decls declared order ready run done
    rw [((defineAll_uses (.refl _) declared done).untouched config ready).scope (by decide)]
    exact prepare_scope run

/-- The body of the second declaration is refused below two bindings of `x`, which is declared as well. -/
theorem checking_restores_scope_refused :
    let config : Config := ⟨id, .regular, true, false, 8⟩
    let decls : List (Option Decl) := [
      some ⟨"x", [], .range 0 9, .lit (some (.int 5))⟩,
      some ⟨"f", [], .arrow .bool .bool, .lam (.bind "x")
        (.letElse (.bind "x") (.name "x") (.lit (some (.int 5))) (.name "x"))⟩]
    ∃ declared ready, prepare decls config (.fresh .empty) = (.ok (declared, [0, 1]), ready) ∧
      (defineAll declared [0, 1] config ready).1.isOk = false ∧
      (defineAll declared [0, 1] config ready).2.scope = templates config declared ∧
      (templates config declared).entries.map Prod.fst = ["f", "x"] := by
  intro config decls
  obtain ⟨result, ready, run, passed⟩ := exists_of_passes (prepare decls config (.fresh .empty))
    (fun result ready => result.2 = [0, 1] ∧ (defineAll result.1 [0, 1] config ready).1.isOk = false ∧
      (templates config result.1).entries.map Prod.fst = ["f", "x"]) (by decide +kernel)
  obtain ⟨declared, order⟩ := result
  simp only [decide_eq_true_eq] at passed
  obtain ⟨rfl, refused, names⟩ := passed
  refine ⟨declared, ready, run, refused, ?_, names⟩
  exact (checking_restores_scope config).2.2 .empty decls declared [0, 1] ready run [0, 1]

end RefinementTypes.Checking
