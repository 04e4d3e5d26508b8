import RefinementTypes.Proofs.Resolution

/-! The two phases of checking declarations. Elaboration declares names, checks bodies and solves all
obligations; resolution then gives every type its number. What was established while elaborating
holds of the trees that the numbers stand for. -/

namespace RefinementTypes.Checking.Session

variable {α β γ : Type} {leaf : Ty → Prop} {assigned : Assignment} {config : Config} {before after : State}

/-- Elaboration changes no name after it has been declared, and leaves no obligation. -/
theorem elaborateAll_ok {decls : List (Option Decl)} {declared : List DeclaredDecl}
    {bodies : List (Nat × Typed Ty)} (empty : before.scope = .empty)
    (run : elaborateAll decls config before = (.ok (declared, bodies), after)) :
    Declared config decls declared after ∧ after.worklist = [] := by
  obtain ⟨order, ready, defined, prepared, checked, solved⟩ := elaborateAll_phases run
  refine ⟨((prepare_readied prepared).declared empty).same ?_, solve_worklist solved⟩
  rw [((solve_uses (.refl _) true).leaves solved).scope (by decide)]
  exact ((defineAll_uses (.refl _) declared order).leaves checked).scope (by decide)

/-- What checking any expression establishes is established of all bodies. -/
theorem elaborateAll_establishes {claim : Typed Ty → Prop}
    (body : ∀ expr expected before, Establishes assigned (elaborate expr expected) config before claim)
    (decls : List (Option Decl)) :
    Establishes assigned (elaborateAll decls) config before fun (_, bodies) => ∀ body ∈ bodies, claim body.2 := by
  refine .bind (.kept (prepare_uses (.refl _) decls) (by decide)) ?_
  rintro ⟨declared, order⟩ _ _
  refine .bind (defineAll_establishes body declared order) fun bodies _ _ => ?_
  refine .bind (Quiet.enterDecl _).establishes fun _ _ _ => .bind (solve_establishes true) fun _ _ _ => ?_
  exact .pure fun _ _ all _ => all

theorem elaborateAll_literals (decls : List (Option Decl)) :
    Establishes assigned (elaborateAll decls) config before fun (_, bodies) =>
      ∀ body ∈ bodies, ∀ entry ∈ body.2.literals,
        Conforms config.matcher.Accepts entry.1 (entry.2.image assigned) :=
  elaborateAll_establishes (fun expr expected _ => elaborate_literals expr expected) decls

/-- An environment that gives declared names the trees of their types describes the scope in which
bodies are checked. -/
theorem Declared.describes {decls : List (Option Decl)} {declared : List DeclaredDecl} {state : State}
    {env : Env} (facts : Declared config decls declared state)
    (annotated : ∀ decl, some decl ∈ decls → decl.params ≠ [] → decl.type.WildcardFree)
    (same : ∀ key, env key = ((declared.map (signature config)).reverse.lookup key).map
      fun template => ⟨template.params, template.type.image assigned⟩) :
    Describes assigned state.scope env where
  same key := by rw [facts.scope key, same key]
  closed key template found generic := by
    rw [facts.scope key] at found
    obtain ⟨decl, member, same⟩ := List.mem_map.mp (List.mem_reverse.mp (mem_of_lookup_eq found))
    cases same
    have params : decl.decl.params ≠ [] := fun none => generic (by simp [none])
    rw [Ty.vars_setMutability]
    exact facts.closed decl member (annotated _ (facts.mem member) params)

/-- Every body is derivable in an environment that gives declared names the trees of their types. -/
theorem elaborateAll_derives (trees : ∀ id, (assigned id).Over Ty.Proper 0) (allowed : before.Over Ty.Proper)
    (empty : before.scope = .empty) {decls : List (Option Decl)}
    (possible : ∀ decl, some decl ∈ decls → decl.body.ImpossibleFree)
    (annotated : ∀ decl, some decl ∈ decls → decl.params ≠ [] → decl.type.WildcardFree) :
    Establishes assigned (elaborateAll decls) config before fun (declared, bodies) =>
      ∀ env : Env, (∀ key, env key = ((declared.map (signature config)).reverse.lookup key).map
          fun template => ⟨template.params, template.type.image assigned⟩) →
        ∀ body ∈ bodies, ∃ decl, declared[body.1]? = some decl ∧
          WellTyped config env (decl.type.image assigned) (body.2.map (·.image assigned)) := by
  refine .bind (.kept (prepare_uses (.refl _) decls) (by decide)) ?_
  rintro ⟨declared, order⟩ ready prepared
  have facts := (prepare_readied prepared).declared empty
  have reported : Ty.Proper (.atom .error) := .atom (by simp)
  obtain ⟨_, allowed', valid⟩ :=
    allowed.prepare (.of_error reported fun decl member => .inr (possible decl member)) prepared
  have possible' := fun decl (member : decl ∈ declared) => possible _ (facts.mem member)
  refine .bind (defineAll_derives trees allowed' order possible' valid) fun bodies _ _ => ?_
  refine .bind (Quiet.enterDecl _).establishes fun _ _ _ => .bind (solve_establishes true) fun _ _ _ => ?_
  exact .pure fun _ _ derived _ env same => derived env (facts.describes annotated same)

end RefinementTypes.Checking.Session
