import Mathlib.Data.List.Sort
import RefinementTypes.Proofs.Soundness
import RefinementTypes.Proofs.Programs

/-! The order in which bodies are checked. An accepted program has the only types that follow the typing
rules. So what another order finds, if it finds anything, is the same; and it fails only by giving up on
obligations. -/

namespace RefinementTypes.Checking

open Session

def Config.reordered (config : Config) : Config := { config with sourceOrder := !config.sourceOrder }

def Program.printed (program : Program) : List (String × String) :=
  program.decls.map fun decl => (decl.name, program.showType decl.type)

private theorem Program.printed_whole {leaf : Ty → Prop} (present : ¬ leaf .missing) {program : Program}
    (whole : ∀ decl ∈ program.decls, (program.store.unfold decl.type).Over leaf 0) :
    program.printed = (program.decls.map fun decl => (decl.name, program.store.unfold decl.type)).map
      fun entry => (entry.1, entry.2.render) := by
  rw [printed, List.map_map]
  refine List.map_congr_left fun decl member => ?_
  simp only [showType, Store.render_eq present _ (whole decl member), Function.comp_apply]

private theorem Program.printed_eq {program other : Program}
    (same : other.decls.map (fun decl => (decl.name, other.store.unfold decl.type)) =
      program.decls.map fun decl => (decl.name, program.store.unfold decl.type))
    (whole : ∀ decl ∈ program.decls, (program.store.unfold decl.type).Over Ty.Solid 0) :
    other.printed = program.printed := by
  have present : ¬ Ty.Solid .missing := fun solid => solid.2.2 rfl
  rw [printed_whole present whole, printed_whole present, same]
  intro decl member
  have listed := List.mem_map_of_mem (f := fun decl => (decl.name, other.store.unfold decl.type)) member
  rw [same] at listed
  obtain ⟨source, inside, equal⟩ := List.mem_map.mp listed
  rw [← (Prod.mk.inj equal).2]
  exact whole source inside

private theorem Elaborates.reordered {config : Config} {env : Env} {expected : Bool} {expr : Expr} {tree : Typed Ty}
    (typing : Elaborates config env expected expr tree) :
    Elaborates config.reordered env expected expr tree := by
  induction typing with
  | anno definite denotes _ ih => exact .anno definite denotes ih
  | lam fits _ ih => exact .lam fits ih
  | letElse definite _ fits _ _ same first second third => exact .letElse definite first fits second third same
  | call definite _ function _ first second => exact .call definite first function second
  | bool env expected value => exact .bool env expected value
  | regex env expected source => exact .regex env expected source
  | lit notBool notRegex belongs => exact .lit notBool notRegex belongs
  | name declared yields => exact .name declared yields

private theorem Typing.reordered {config : Config} {entries : List (Decl × Ty)} {trees : Nat → Typed Ty}
    (typing : Typing config entries trees) : Typing config.reordered entries trees :=
  ⟨typing.definite, typing.denotes, fun index entry placed =>
    ⟨(typing.bodies index entry placed).1.reordered, (typing.bodies index entry placed).2⟩⟩

private theorem Session.Within.reordered {leaf : Ty → Prop} {config : Config} {decls : List (Option Decl)}
    (within : Within leaf config decls) : Within leaf config.reordered decls :=
  ⟨within.types, within.bodies, within.names⟩

private theorem State.Meets.fresh (config : Config) {cache : Regex.Cache} (exact : cache.Exact) :
    (State.fresh cache).Meets config fun _ => .atom .bool where
  definite _ := by simp
  allowed := .fresh cache
  exact := exact
  acyclic := Subst.acyclic_empty
  solves := by
    refine ⟨fun id type found => ?_, fun _ member => ?_⟩
    · simp [State.fresh, Subst.lookup, Subst.empty] at found
    · cases member

namespace Session

variable {config : Config} {decls : List (Option Decl)} {cache : Regex.Cache} {before after solved : State}
  {declared : List DeclaredDecl} {bodies : List (Nat × Typed Ty)} {assigned : Assignment}

private theorem validate_reordered {seen : List String} {named : List NamedDecl} (other : State)
    (run : validate seen decls config before = (.ok named, after)) :
    validate seen decls config.reordered other = (.ok named, other) := by
  induction decls generalizing seen named before with
  | nil =>
    cases run
    rfl
  | cons decl rest ih =>
    cases decl with
    | none => cases run
    | some decl =>
      have normal : normalize decl.name config.reordered other = (.ok (config.normalize decl.name), other) := rfl
      have asked : Session.config config.reordered other = (.ok config.reordered, other) := rfl
      obtain ⟨name, _, normal', run⟩ := bind_ok run
      cases normal'
      unfold validate
      rw [bind_run normal]
      dsimp only at run ⊢
      split at run
      next => cases run
      next fresh =>
        rw [if_neg fresh]
        obtain ⟨_, _, asked', run⟩ := bind_ok run
        cases asked'
        rw [bind_run asked]
        have same : config.reordered.normalize = config.normalize := rfl
        rw [same]
        cases distinct : firstRepeated? [] (decl.params.map config.normalize) with
        | some param =>
          rw [distinct] at run
          cases run
        | none =>
          rw [distinct] at run
          cases body : decl.body with
          | missing =>
            rw [body] at run
            cases run
          | _ =>
            rw [body] at run
            obtain ⟨others, _, again, run⟩ := bind_ok run
            cases run
            exact bind_run (ih again)

private theorem Declared.entries {state : State} (facts : Declared config decls declared state)
    (assigned : Assignment) : decls.filterMap id = (declared.map (·.entry assigned)).map Prod.fst := by
  simp [facts.listed, List.filterMap_map, DeclaredDecl.entry]

def treeAt (assigned : Assignment) (bodies : List (Nat × Typed Ty)) (index : Nat) : Typed Ty :=
  ((bodies.lookup index).getD (.invalid (.atom .error))).map (·.image assigned)

/-- Whatever trees are given to variables that are left without a binding, what was elaborated are types
for the program. -/
theorem elaborateAll_typing (exact : cache.Exact) (within : Within Ty.Solid config decls)
    (run : elaborateAll decls config (.fresh cache) = (.ok (declared, bodies), solved)) {tree : Ty}
    (solid : tree.Over Ty.Solid 0) :
    Typing config (declared.map (·.entry (solved.subst.solution tree)))
      (treeAt (solved.subst.solution tree) bodies) := by
  have acyclic := (elaborateAll_exact run).1
  obtain ⟨_, allowed, _⟩ := (State.Over.fresh cache).elaborateAll within run
  have definite : ∀ id, (solved.subst.solution tree id).Definite := fun id =>
    (Subst.solution_over (fun _ _ found => allowed.lookup found) solid id).definite
  obtain ⟨_, back⟩ := elaborateAll_sound definite (.fresh cache) rfl within
    ⟨exact, Subst.acyclic_empty⟩ _ _ run
  refine (back ⟨acyclic.solution_agrees tree, ?_⟩).2 _ fun index body found => ?_
  · rw [(elaborateAll_ok rfl run).2]
    exact fun _ member => by cases member
  · rw [treeAt, found, Option.getD_some]

private theorem elaborateAll_validates (run : elaborateAll decls config before = (.ok (declared, bodies), after)) :
    ∃ named validated, validate [] decls config before = (.ok named, validated) := by
  obtain ⟨_, _, _, prepared, _⟩ := elaborateAll_phases run
  obtain ⟨named, validated, _, valid, _⟩ := prepare_ok prepared
  exact ⟨named, validated, valid⟩

/-- An accepted program has the only types that there are. -/
theorem checkDecls_only (exact : cache.Exact) (within : Within Ty.Solid config decls)
    (analysed : (Dependencies.analyze config.normalize (decls.filterMap id)).problem = none) {program : Program}
    (run : checkDecls decls config (.fresh cache) = (.ok program, after)) {entries : List (Decl × Ty)}
    {trees : Nat → Typed Ty} (listed : decls.filterMap id = entries.map Prod.fst)
    (typing : Typing config entries trees) :
    program.decls.map (fun decl => (decl.name, program.store.unfold decl.type)) =
        entries.map (fun entry => (config.normalize entry.1.name, entry.2)) ∧
      ∀ index decl, program.decls[index]? = some decl → decl.body.map program.store.unfold = trees index := by
  obtain ⟨⟨declared, bodies⟩, solved, elaborated, resolved⟩ := bind_ok run
  obtain ⟨named, validated, valid⟩ := elaborateAll_validates elaborated
  have runs := elaborateAll_runs (.fresh config exact) rfl valid within analysed listed typing
  obtain ⟨_, later, _, meets, same, trees'⟩ := runs.ends _ _ elaborated
  obtain ⟨acyclic, exact⟩ := elaborateAll_exact elaborated
  have finished := resolveAll_finished acyclic exact meets.agrees resolved
  have names := (elaborateAll_ok rfl elaborated).1.names
  refine ⟨?_, fun index decl found => ?_⟩
  · have signatures := congrArg (List.map fun entry => (entry.1, entry.2.type)) finished.signatures
    simp only [List.map_map, Function.comp_def] at signatures
    rw [signatures, ← same, List.map_map]
    refine List.map_congr_left fun decl member => ?_
    rw [names decl member]
    rfl
  · obtain ⟨source, body, _, checked, finished⟩ := finished.places index decl found
    rw [finished.body]
    rw [Nat.zero_add] at checked
    exact trees' (index, body) (mem_of_lookup_eq checked)

/-- What was elaborated can be resolved if it does not depend on what is given to variables that are left
without a binding. -/
theorem resolveAll_determined (within : Within Ty.Solid config decls)
    (run : elaborateAll decls config (.fresh cache) = (.ok (declared, bodies), solved))
    (types : ∀ decl ∈ declared, decl.type.image (solved.subst.solution (.atom .bool)) =
      decl.type.image (solved.subst.solution (.atom .regex)))
    (trees : ∀ index, index < declared.length → treeAt (solved.subst.solution (.atom .bool)) bodies index =
      treeAt (solved.subst.solution (.atom .regex)) bodies index) :
    ∃ program final, resolveAll declared bodies config solved = (.ok program, final) := by
  obtain ⟨acyclic, exact⟩ := elaborateAll_exact run
  obtain ⟨_, allowed, valid, all⟩ := (State.Over.fresh cache).elaborateAll within run
  have ground {type : Ty} (fits : type.Over Ty.Solid solved.nextVar) (same :
      type.image (solved.subst.solution (.atom .bool)) = type.image (solved.subst.solution (.atom .regex))) :
      (solved.subst.apply type).Ground := by
    rw [Subst.image_solution acyclic, Subst.image_solution acyclic] at same
    refine Ty.ground_iff.mpr ⟨?_, Ty.vars_eq_nil_of_image (by simp) same⟩
    exact (Subst.apply_over (fun _ _ found => allowed.lookup found) fits).whole fun solid => solid.2.2 rfl
  refine (resolveAll_iff acyclic exact declared bodies).mpr fun index decl placed => ?_
  have member := List.mem_of_getElem? placed
  obtain ⟨body, found⟩ := elaborateAll_lookup run placed
  have same := trees index (List.getElem?_eq_some_iff.mp placed).1
  simp only [treeAt, found, Option.getD_some, Typed.map_eq_map_iff] at same
  refine ⟨body, by rw [Nat.zero_add, found], ground (valid decl member) (types decl member), ?_⟩
  have fits := all (index, body) (mem_of_lookup_eq found)
  exact (fits.and same).imp fun _ both => ground both.1 both.2

/-- A program whose types are those that were elaborated is written as what is resolved from them. -/
theorem resolveAll_printed (within : Within Ty.Solid config decls)
    (run : elaborateAll decls config (.fresh cache) = (.ok (declared, bodies), solved)) {program other : Program}
    (resolved : resolveAll declared bodies config solved = (.ok other, after))
    (types : program.decls.map (fun decl => (decl.name, program.store.unfold decl.type)) =
      (declared.map (·.entry (solved.subst.solution (.atom .bool)))).map
        fun entry => (config.normalize entry.1.name, entry.2)) :
    other.printed = program.printed := by
  obtain ⟨acyclic, exact⟩ := elaborateAll_exact run
  have names := (elaborateAll_ok rfl run).1.names
  obtain ⟨_, allowed, valid, _⟩ := (State.Over.fresh cache).elaborateAll within run
  have finished := resolveAll_finished acyclic exact (acyclic.solution_agrees (.atom .bool)) resolved
  have trees : ∀ id, (solved.subst.solution (.atom .bool) id).Over Ty.Solid 0 :=
    Subst.solution_over (fun _ _ found => allowed.lookup found) (Ty.Solid.atom (by simp) (by simp))
  rw [List.map_map] at types
  refine Program.printed_eq ?_ fun decl member => ?_
  · have signatures := congrArg (List.map fun entry => (entry.1, entry.2.type)) finished.signatures
    simp only [List.map_map, Function.comp_def] at signatures
    rw [signatures, types]
    refine List.map_congr_left fun decl member => ?_
    rw [names decl member]
    rfl
  · have listed := List.mem_map_of_mem (f := fun decl => (decl.name, program.store.unfold decl.type)) member
    rw [types] at listed
    obtain ⟨source, inside, equal⟩ := List.mem_map.mp listed
    rw [← (Prod.mk.inj equal).2]
    exact (valid source inside).image trees

theorem resolveAll_written (acyclic : before.subst.Acyclic) (exact : before.Exact) {program : Program}
    (run : resolveAll declared bodies config before = (.ok program, after)) :
    program.printed = declared.map fun decl => (decl.name, (before.subst.apply decl.type).render) := by
  have lowers : Lowers True (resolveAll declared bodies) config before _ _ :=
    resolveAll_lowers acyclic rfl exact declared bodies
  obtain ⟨resolvable, finished⟩ := lowers.ok trivial program (congrArg Prod.fst run)
  have same := congrArg (List.map fun entry => (entry.1, entry.2.type)) finished.signatures
  simp only [List.map_map, Function.comp_def] at same
  have whole : ∀ decl ∈ program.decls, (program.store.unfold decl.type).Ground := by
    intro decl member
    have listed := List.mem_map_of_mem (f := fun decl => (decl.name, program.store.unfold decl.type)) member
    rw [same] at listed
    obtain ⟨source, inside, equal⟩ := List.mem_map.mp listed
    obtain ⟨index, found⟩ := List.getElem?_of_mem inside
    obtain ⟨body, _, ground, _⟩ := resolvable index source found
    rw [← (Prod.mk.inj equal).2]
    exact ground
  rw [Program.printed_whole (fun missing => missing rfl) whole, same, List.map_map]
  rfl

/-- In the other order the same types are found, or obligations are given up. -/
theorem checkDecls_reordered {cache' : Regex.Cache} (exact : cache.Exact) (exact' : cache'.Exact)
    (within : Within Ty.Solid config decls)
    (analysed : (Dependencies.analyze config.normalize (decls.filterMap id)).problem = none) {program : Program}
    (run : checkDecls decls config (.fresh cache) = (.ok program, after)) :
    (∃ other final, checkDecls decls config.reordered (.fresh cache') = (.ok other, final) ∧
        other.printed = program.printed) ∨
      ∃ failure, (checkDecls decls config.reordered (.fresh cache')).1 = .error failure ∧
        Undecided failure.reason := by
  have back : config.reordered.reordered = config := by simp [Config.reordered]
  obtain ⟨⟨declared, bodies⟩, solved, elaborated, _⟩ := bind_ok run
  obtain ⟨named, _, valid⟩ := elaborateAll_validates elaborated
  have solid : (Ty.atom .bool).Over Ty.Solid 0 := Ty.Solid.atom (by simp) (by simp)
  have typing := (elaborateAll_typing exact within elaborated solid).reordered
  have runs := elaborateAll_runs (.fresh config.reordered exact') rfl (validate_reordered (.fresh cache') valid)
    within.reordered analysed ((elaborateAll_ok rfl elaborated).1.entries _) typing
  cases ended : elaborateAll decls config.reordered (.fresh cache') with
  | mk outcome middle =>
    cases outcome with
    | error failure =>
      exact .inr ⟨failure, bind_failed (congrArg Prod.fst ended), runs.fails failure middle ended⟩
    | ok result =>
      obtain ⟨declared', bodies'⟩ := result
      have facts := (elaborateAll_ok rfl ended).1
      -- Whatever stands for the variables that are left, the types are those of the accepted program.
      have only {tree : Ty} (solid : tree.Over Ty.Solid 0) := checkDecls_only exact within analysed run
        (facts.entries _) (back ▸ (elaborateAll_typing exact' within.reordered ended solid).reordered)
      have solid' : (Ty.atom .regex).Over Ty.Solid 0 := Ty.Solid.atom (by simp) (by simp)
      have types := (only solid).1.symm.trans (only solid').1
      rw [List.map_map, List.map_map] at types
      have length : program.decls.length = declared'.length := by simpa using congrArg List.length (only solid).1
      obtain ⟨other, final, resolved⟩ := resolveAll_determined within.reordered ended
        (fun decl member => (Prod.mk.inj (List.map_inj_left.mp types decl member)).2) fun index less => by
          have placed := List.getElem?_eq_getElem (length ▸ less)
          exact ((only solid).2 index _ placed).symm.trans ((only solid').2 index _ placed)
      refine .inl ⟨other, final, (bind_run ended).trans resolved, ?_⟩
      exact resolveAll_printed within.reordered ended resolved (only solid).1

end Session

private theorem Undecided.kind {cause : Cause} (why : Undecided (.inl cause)) : cause.kind = .unsolvedConstraints := by
  cases why
  rfl

theorem Checker.Ready.check_eq {config : Config} {checker : Checker} (ready : checker.Ready config)
    (decls : List (Option Decl)) :
    ∃ cache : Regex.Cache, cache.Exact ∧
      (checker.check decls).1 = (checkDecls decls config (.fresh cache)).1 := by
  refine ⟨checker.state.cache, ready.exact, ?_⟩
  rw [← ready.config]
  exact (checker.check_session decls).1

/-- Whatever two checkers were used for before, that check bodies in different orders: if one accepts a
program, the other one accepts it with the same types or fails because of obligations that were given
up, provided that it does not run out of rounds. The program must contain nothing impossible and nothing
that has been reported, and must refer to declared names only. -/
theorem accepted_reordered (config : Config) (history history' : List (List (Option Decl)))
    (decls : List (Option Decl)) (program : Program) (after : Checker) (within : Within Ty.Solid config decls)
    (analysed : (Dependencies.analyze config.normalize (decls.filterMap id)).problem = none)
    (run : ((Checker.new config).afterAll history).check decls = (.ok program, after))
    (ends : (((Checker.new config.reordered).afterAll history').check decls).1 ≠ .error (.fault .roundLimit)) :
    (∃ other, (((Checker.new config.reordered).afterAll history').check decls).1 = .ok other ∧
        other.printed = program.printed) ∨
      ∃ error, (((Checker.new config.reordered).afterAll history').check decls).1 = .error (.refused error) ∧
        error.kind = .unsolvedConstraints := by
  obtain ⟨cache, exact, run⟩ := ((Checker.Ready.new config).afterAll history).check_ok run
  obtain ⟨cache', exact', same⟩ := ((Checker.Ready.new config.reordered).afterAll history').check_eq decls
  rw [same] at ends ⊢
  rcases checkDecls_reordered exact exact' within analysed run with ⟨other, _, run', printed⟩ | ⟨failure, failed, why⟩
  · exact .inl ⟨other, by rw [run'], printed⟩
  · rw [failed] at ends ⊢
    cases failure with
    | refused error => exact .inr ⟨error, rfl, why.kind⟩
    | fault cause =>
      cases why
      exact absurd rfl ends

/-- A function whose argument type is found from one use is used before it is defined. -/
theorem accepted_reordered_inferred :
    let config : Config := ⟨id, .regular, false, false, 8⟩
    let compared : Expr := .letElse (.lit (some (.int 3))) (.name "x") (.name "x") (.lit (some (.int 5)))
    let decls : List (Option Decl) := [
      some ⟨"use", [], .range 0 10, .call (.call (.name "pick") (.name "test")) (.lit (some (.int 7)))⟩,
      some ⟨"test", [], .arrow .wildcard (.range 0 10), .lam (.bind "x") compared⟩,
      some ⟨"pick", ["a"], .arrow (.named "a") (.named "a"), .lam (.bind "x") (.name "x")⟩]
    ∃ program after, ((Checker.new config).afterAll [[none]]).check decls = (.ok program, after) ∧
      ((∃ other, ((Checker.new config.reordered).check decls).1 = .ok other ∧ other.printed = program.printed) ∨
        ∃ error, ((Checker.new config.reordered).check decls).1 = .error (.refused error) ∧
          error.kind = .unsolvedConstraints) := by
  intro config compared decls
  obtain ⟨program, after, run⟩ : ∃ program after,
      ((Checker.new config).afterAll [[none]]).check decls = (.ok program, after) :=
    Checker.exists_of_isOk (by decide +kernel)
  obtain ⟨other, _, run'⟩ : ∃ other after, (Checker.new config.reordered).check decls = (.ok other, after) :=
    Checker.exists_of_isOk (by decide +kernel)
  have within : Within Ty.Solid config decls := by
    refine ⟨?_, ?_, ?_⟩
    · simp [decls, TypeExpr.Within]
    · simp [decls, compared, Expr.Within]
    · simp [decls, compared, Expr.freeNames, Pat.hides, Config.key, config]
  have analysed : (Dependencies.analyze config.normalize (decls.filterMap id)).problem = none :=
    Option.isNone_iff_eq_none.mp (by decide +kernel)
  refine ⟨program, after, run, ?_⟩
  exact accepted_reordered config [[none]] [] decls program after within analysed run (by
    change ((Checker.new config.reordered).check decls).1 ≠ _
    rw [run']
    exact fun same => by cases same)

namespace Reordering

/-! Programs for which the order matters. -/

def truth : Expr := .lit (some (.bool true))

def choose (bound left right : Expr) : Expr := .letElse .wildcard bound left right

/-- The type of the first declaration comes to be that of the second, which then learns nothing. -/
def givenUpInSourceOrder : List Decl := [
  ⟨"q", [], .wildcard, choose truth (.call (.name "r") truth) (.name "s")⟩,
  ⟨"s", [], .wildcard, .name "q"⟩,
  ⟨"r", [], .wildcard, .anno (.lam (.bind "x") (.name "x")) (.arrow .bool .bool)⟩]

def givenUpInDependencyOrder : List Decl := [
  ⟨"q", [], .bool, choose (.call (.name "r") (.name "s")) truth truth⟩,
  ⟨"s", [], .wildcard, choose (.name "q") (.call (.name "r") truth) (.call (.name "r") truth)⟩,
  ⟨"r", [], .wildcard, .lam (.bind "x") (.name "x")⟩]

/-- A function is called before another one that only takes truth values. -/
def calling (func : Expr) : List Decl := [
  ⟨"d", [], .arrow .wildcard .bool,
    .lam (.bind "x") (choose (.call (.name "p") (.name "x")) (.call (.name "n") (.name "x")) truth)⟩,
  ⟨"p", [], .wildcard, func⟩,
  ⟨"n", [], .arrow .bool .bool, .lam (.bind "z") (.name "z")⟩]

def comparing (expr : Expr) : Expr := .lam (.bind "y") (choose (choose truth expr (.name "y")) truth truth)

def calledWithNothing : List Decl := [
  ⟨"d", [], .arrow .wildcard .bool,
    .lam (.bind "x") (choose (.call (.name "p") (.name "x")) (.call (.name "x") truth) truth)⟩,
  ⟨"p", [], .arrow .wildcard .bool, comparing .impossible⟩]

private theorem components_eq_insertionSort :
    Digraph.components = fun g => g.searched.found.map (List.insertionSort (· ≤ ·)) := by
  funext g
  refine List.map_congr_left fun component _ => ?_
  exact List.mergeSort_eq_insertionSort (· ≤ ·) component

/-- The types that a new checker finds, or the kind of error with which it refuses the program. A check that is
stopped has no kind. -/
def verdict (sourceOrder : Bool) (decls : List Decl) : Except (Option ErrorKind) (List (String × String)) :=
  match ((Checker.new ⟨id, .regular, sourceOrder, false, 8⟩).check (decls.map some)).1 with
  | .ok program => .ok program.printed
  | .error (.refused error) => .error (some error.kind)
  | .error (.fault _) => .error none

/-- The order changes what is found. In each of these programs the analysis finds no fault. Two are
accepted in one order only, as obligations are given up in the other. In the rest a name stands for
something that was reported, or for nothing possible, and that fits whatever is known of a variable at
the time. -/
theorem printed_depends_on_order :
    (∀ decls ∈ [givenUpInSourceOrder, givenUpInDependencyOrder,
        calling (.anno (.lam (.bind "y") truth) (.arrow .invalid .bool)), calling (comparing .invalid),
        calling (comparing (.name "nowhere")), calledWithNothing],
      (Dependencies.analyze id decls).problem.isNone) ∧
    (verdict false givenUpInSourceOrder = .ok [("q", "Bool"), ("s", "Bool"), ("r", "Bool -> Bool")] ∧
      verdict true givenUpInSourceOrder = .error (some .unsolvedConstraints)) ∧
    (verdict false givenUpInDependencyOrder = .error (some .unsolvedConstraints) ∧
      verdict true givenUpInDependencyOrder = .ok [("q", "Bool"), ("s", "Bool"), ("r", "Bool -> Bool")]) ∧
    (∀ func ∈ [.anno (.lam (.bind "y") truth) (.arrow .invalid .bool), comparing .invalid,
        comparing (.name "nowhere")],
      verdict false (calling func) = .ok [("d", "Error -> Bool"), ("p", "Error -> Bool"), ("n", "Bool -> Bool")] ∧
      verdict true (calling func) = .ok [("d", "Bool -> Bool"), ("p", "Error -> Bool"), ("n", "Bool -> Bool")]) ∧
    verdict false calledWithNothing = .error (some .typeMismatch) ∧
    verdict true calledWithNothing = .ok [("d", "Bottom -> Bool"), ("p", "Bottom -> Bool")] := by
  -- The kernel can insert into a sorted list, but does not merge lists.
  unfold verdict Checker.check Session.checkDecls Session.elaborateAll Session.prepare Session.checkingOrder
    Dependencies.analyze
  rw [components_eq_insertionSort]
  decide +kernel

end Reordering

end RefinementTypes.Checking
