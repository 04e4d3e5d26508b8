import RefinementTypes.Proofs.Phases

/-! Soundness of checking. A program that a checker accepts follows the typing rules, and every literal
in it belongs to the type that it is given, whatever the checker was used for before and in whichever
order bodies are checked. -/

namespace RefinementTypes.Checking

open Session

/-- The templates of a program's declarations; of two that are found under one name the last counts. -/
def Program.context (config : Config) (program : Program) : Env := fun key =>
  (program.decls.map fun decl =>
    (config.normalize decl.name, Template.mk decl.params (program.store.unfold decl.type))).reverse.lookup key

namespace Checker

def afterAll (checker : Checker) (history : List (List (Option Decl))) : Checker :=
  history.foldl (fun checker decls => (checker.check decls).2) checker

/-- A checker as it was set up, whose matcher answers by its rule. -/
structure Ready (config : Config) (checker : Checker) : Prop where
  config : checker.config = config
  exact : checker.state.cache.Exact

theorem Ready.new (config : Config) : (Checker.new config).Ready config :=
  ⟨rfl, Regex.Cache.exact_empty⟩

variable {config : Config} {checker : Checker}

/-- Each use is a session of its own, after which only a report may be added. -/
theorem check_session (checker : Checker) (decls : List (Option Decl)) :
    let session := checkDecls decls checker.config (.fresh checker.state.cache)
    (checker.check decls).1 = session.1 ∧ (checker.check decls).2.config = checker.config ∧
      session.2.Alike (checker.check decls).2.state := by
  intro session
  unfold Checker.check
  dsimp only
  split
  next error state refused =>
    change session = _ at refused
    rw [refused]
    have quiet : Quiet (trace fun _ => "failed: " ++ error.text) checker.config state _ := .trace _
    exact ⟨rfl, rfl, quiet.1⟩
  next result state _ ended =>
    change session = _ at ended
    rw [ended]
    exact ⟨rfl, rfl, .refl _⟩

theorem Ready.check (ready : checker.Ready config) (decls : List (Option Decl)) :
    (checker.check decls).2.Ready config := by
  have grows := run_grows (checkDecls decls) checker.config (.fresh checker.state.cache)
  obtain ⟨_, kept, alike⟩ := checker.check_session decls
  refine ⟨kept.trans ready.config, ?_⟩
  rw [alike.cache]
  exact grows.cache ready.exact

theorem Ready.afterAll (ready : checker.Ready config) (history : List (List (Option Decl))) :
    (checker.afterAll history).Ready config := by
  induction history generalizing checker with
  | nil => exact ready
  | cons decls rest ih => exact ih (ready.check decls)

/-- A session that accepts its program begins with nothing but what the matcher has read. -/
theorem Ready.check_ok (ready : checker.Ready config) {decls : List (Option Decl)} {program : Program}
    {after : Checker} (run : checker.check decls = (.ok program, after)) :
    ∃ cache : Regex.Cache, cache.Exact ∧
      checkDecls decls config (.fresh cache) = (.ok program, after.state) := by
  unfold Checker.check at run
  dsimp only at run
  split at run
  next => cases run
  next result state _ ended =>
    cases run
    rw [← ready.config]
    exact ⟨checker.state.cache, ready.exact, ended⟩

theorem exists_of_isOk {decls : List (Option Decl)} (accepted : (checker.check decls).1.isOk = true) :
    ∃ program after, checker.check decls = (.ok program, after) := by
  generalize checker.check decls = outcome at accepted ⊢
  obtain ⟨result, after⟩ := outcome
  cases result with
  | error failure => cases accepted
  | ok program => exact ⟨program, after, rfl⟩

end Checker

/-- A program that is accepted was resolved from bodies whose obligations are all met by the trees that
its numbers stand for. -/
theorem checkDecls_ok {config : Config} {decls : List (Option Decl)} {cache : Regex.Cache} {program : Program}
    {after : State} (run : checkDecls decls config (.fresh cache) = (.ok program, after)) :
    ∃ declared bodies solved,
      elaborateAll decls config (.fresh cache) = (.ok (declared, bodies), solved) ∧
        Declared config decls declared solved ∧
        solved.Solves config (solved.subst.solution (.atom .error)) ∧
        FinishedAll (·.image (solved.subst.solution (.atom .error))) (paramsOf config solved) bodies 0 declared
          program.decls program.store := by
  obtain ⟨⟨declared, bodies⟩, solved, elaborated, resolved⟩ := bind_ok run
  obtain ⟨acyclic, exact⟩ := elaborateAll_exact elaborated
  obtain ⟨facts, met⟩ := elaborateAll_ok rfl elaborated
  -- Some variables may be left without a binding. They may stand for any tree, as no type that is
  -- resolved refers to them.
  have agrees := acyclic.solution_agrees (.atom .error)
  refine ⟨declared, bodies, solved, elaborated, facts, ⟨agrees, ?_⟩, ?_⟩
  · rw [met]
    exact fun _ member => by cases member
  · exact resolveAll_finished acyclic exact agrees resolved

/-- Whatever a checker was used for before, every literal in a program that it accepts belongs to the type
of its place: that of its node, or that of what its pattern is compared with. -/
theorem accepted_literals_conform (config : Config) (history : List (List (Option Decl)))
    (decls : List (Option Decl)) (program : Program) (after : Checker)
    (run : ((Checker.new config).afterAll history).check decls = (.ok program, after)) :
    ∀ decl ∈ program.decls, ∀ entry ∈ decl.body.literals,
      Conforms config.matcher.Accepts entry.1 (program.store.unfold entry.2) := by
  obtain ⟨cache, exact, run⟩ := ((Checker.Ready.new config).afterAll history).check_ok run
  obtain ⟨declared, bodies, solved, elaborated, _, solves, finished⟩ := checkDecls_ok run
  obtain ⟨_, back⟩ := elaborateAll_literals decls exact _ _ elaborated
  intro decl member entry inside
  obtain ⟨index, source, body, _, found, same⟩ := finished.bodies decl member
  have literals := congrArg Typed.literals same.body
  rw [Typed.literals_map, Typed.literals_map] at literals
  have inside' := List.mem_map_of_mem (f := fun entry => (entry.1, program.store.unfold entry.2)) inside
  rw [literals] at inside'
  obtain ⟨entry', member', equal⟩ := List.mem_map.mp inside'
  obtain ⟨value, tree⟩ := Prod.mk.inj equal
  rw [← value, ← tree]
  exact (back solves).2 (index, body) (mem_of_lookup_eq found) entry' member'

/-- A text is compared with an argument whose type only a later declaration fixes. -/
theorem accepted_literals_conform_deferred :
    let config : Config := ⟨id, .regular, true, false, 8⟩
    let compared : Expr := .letElse (.lit (some (.string "aab"))) (.name "x")
      (.lit (some (.bool true))) (.lit (some (.bool false)))
    let decls : List (Option Decl) := [
      some ⟨"test", [], .wildcard, .lam (.bind "x") compared⟩,
      some ⟨"use", [], .arrow (.string "a+b") .bool, .name "test"⟩]
    ∃ program after, ((Checker.new config).afterAll [[none]]).check decls = (.ok program, after) ∧
      ∀ decl ∈ program.decls, ∀ entry ∈ decl.body.literals,
        Conforms config.matcher.Accepts entry.1 (program.store.unfold entry.2) := by
  intro config compared decls
  obtain ⟨program, after, run⟩ : ∃ program after,
      ((Checker.new config).afterAll [[none]]).check decls = (.ok program, after) :=
    Checker.exists_of_isOk (by decide +kernel)
  exact ⟨program, after, run, accepted_literals_conform config [[none]] decls program after run⟩

section Context

variable {config : Config} {assigned : Assignment} {declared : List DeclaredDecl}

private theorem lookup_signature {key : String} {params : String → List String}
    (known : params key = (((declared.map (signature config)).lookup key).map Template.params).getD []) :
    (declared.map fun decl => (config.normalize decl.name,
        Template.mk (params (config.normalize decl.name)) (decl.type.image assigned))).lookup key =
      ((declared.map (signature config)).lookup key).map
        fun template => ⟨template.params, template.type.image assigned⟩ := by
  induction declared with
  | nil => rfl
  | cons decl rest ih =>
    simp only [List.map_cons, signature, lookup_cons_ite] at known ⊢
    by_cases here : key = config.normalize decl.name
    · rw [if_pos here] at known ⊢
      rw [← here, known]
      simp
    · rw [if_neg here] at known ⊢
      rw [if_neg here]
      exact ih known

theorem context_eq {decls : List (Option Decl)} {bodies : List (Nat × Typed Ty)} {solved : State}
    {program : Program} (facts : Declared config decls declared solved)
    (finished : FinishedAll (·.image assigned) (paramsOf config solved) bodies 0 declared program.decls program.store)
    (key : String) :
    program.context config key = ((declared.map (signature config)).reverse.lookup key).map
      fun template => ⟨template.params, template.type.image assigned⟩ := by
  have entries := congrArg (List.map fun entry => (config.normalize entry.1, entry.2)) finished.signatures
  simp only [List.map_map, Function.comp_def] at entries
  let params (key : String) : List String :=
    (((declared.map (signature config)).reverse.lookup key).map Template.params).getD []
  have same (name : String) : paramsOf config solved name = params (config.normalize name) := by
    rw [paramsOf, facts.scope]
  simp only [same] at entries
  unfold Program.context
  rw [entries, ← List.map_reverse, ← List.map_reverse]
  apply lookup_signature
  rw [List.map_reverse]

end Context

/-- Whatever a checker was used for before, a program that it accepts consists of the declarations it
was given, and their bodies follow the typing rules where every name has its final type: provided that
no expression is impossible, and that declarations with parameters leave no part of their types to be
found. -/
theorem accepted_wellTyped (config : Config) (history : List (List (Option Decl)))
    (decls : List (Option Decl)) (program : Program) (after : Checker)
    (possible : ∀ decl, some decl ∈ decls → decl.body.ImpossibleFree)
    (annotated : ∀ decl, some decl ∈ decls → decl.params ≠ [] → decl.type.WildcardFree)
    (run : ((Checker.new config).afterAll history).check decls = (.ok program, after)) :
    program.decls.map (fun decl => some decl.name) =
        decls.map (Option.map fun decl => config.normalize decl.name) ∧
      ∀ decl ∈ program.decls, WellTyped config (program.context config) (program.store.unfold decl.type)
        (decl.body.map program.store.unfold) := by
  obtain ⟨cache, exact, run⟩ := ((Checker.Ready.new config).afterAll history).check_ok run
  obtain ⟨declared, bodies, solved, elaborated, facts, solves, finished⟩ := checkDecls_ok run
  have allowed : (State.fresh cache).Over Ty.Proper := .fresh cache
  obtain ⟨_, allowed', _⟩ := allowed.elaborateAll
    (.of_error (.atom (by decide)) fun decl member => .inr (possible decl member)) elaborated
  have trees : ∀ id, (solved.subst.solution (.atom .error) id).Over Ty.Proper 0 :=
    Subst.solution_over (fun _ _ found => allowed'.lookup found) (Ty.Proper.atom (by decide))
  obtain ⟨_, back⟩ := elaborateAll_derives trees allowed rfl possible annotated exact _ _ elaborated
  have derived := (back solves).2 (program.context config) (context_eq facts finished)
  refine ⟨?_, fun decl member => ?_⟩
  · have names := congrArg (List.map fun entry => some entry.1) finished.signatures
    simp only [List.map_map, Function.comp_def] at names
    rw [names, facts.listed, List.map_map]
    exact List.map_congr_left fun decl member => congrArg some (facts.names decl member)
  · obtain ⟨index, source, body, placed, found, same⟩ := finished.bodies decl member
    obtain ⟨source', placed', wellTyped⟩ := derived (index, body) (mem_of_lookup_eq found)
    cases placed.symm.trans placed'
    rw [same.type, same.body]
    exact wellTyped

/-- A function with a parameter is called with a function whose type is found from that call. -/
theorem accepted_wellTyped_generic :
    let config : Config := ⟨id, .regular, false, false, 8⟩
    let compared : Expr := .letElse (.lit (some (.int 3))) (.name "x") (.name "x") (.lit (some (.int 5)))
    let decls : List (Option Decl) := [
      some ⟨"test", [], .wildcard, .lam (.bind "x") compared⟩,
      some ⟨"pick", ["a"], .arrow (.named "a") (.named "a"), .lam (.bind "x") (.name "x")⟩,
      some ⟨"use", [], .range 0 10, .call (.call (.name "pick") (.name "test")) (.lit (some (.int 7)))⟩]
    ∃ program after, ((Checker.new config).afterAll [[none]]).check decls = (.ok program, after) ∧
      program.decls.map (fun decl => some decl.name) = [some "test", some "pick", some "use"] ∧
      ∀ decl ∈ program.decls, WellTyped config (program.context config) (program.store.unfold decl.type)
        (decl.body.map program.store.unfold) := by
  intro config compared decls
  obtain ⟨program, after, run⟩ : ∃ program after,
      ((Checker.new config).afterAll [[none]]).check decls = (.ok program, after) :=
    Checker.exists_of_isOk (by decide +kernel)
  have possible : ∀ decl, some decl ∈ decls → decl.body.ImpossibleFree := by
    simp [decls, compared, Expr.ImpossibleFree]
  have annotated : ∀ decl, some decl ∈ decls → decl.params ≠ [] → decl.type.WildcardFree := by
    simp [decls, TypeExpr.WildcardFree]
  exact ⟨program, after, run, accepted_wellTyped config [[none]] decls program after possible annotated run⟩

end RefinementTypes.Checking
