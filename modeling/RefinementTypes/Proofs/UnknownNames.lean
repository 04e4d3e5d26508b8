import RefinementTypes.Proofs.Additions
import RefinementTypes.Proofs.Preparation
import RefinementTypes.Proofs.Programs

/-! Which warnings a program has. Checking an expression warns of each use of a name that no pattern binds and that is
not in scope, from left to right and once each; nothing else warns. So a program that is accepted has one warning for
each use of a name that is neither bound nor declared, body by body in the order in which bodies are checked. -/

namespace RefinementTypes.Checking

def Config.unknown (config : Config) (decl : String) (occurrence : Occurrence) : TypeError :=
  ⟨.unknownName (config.normalize occurrence.label), decl, some (.name occurrence.label)⟩

/-- The warnings for uses of names that no pattern binds and that are not in scope. -/
def State.unknowns (config : Config) (state : State) (uses : List Occurrence) : List TypeError :=
  (uses.filter fun occurrence => !occurrence.bound config.key &&
    (state.scope.find? (config.key occurrence.label)).isNone).map (config.unknown state.decl)

/-- The warnings for the body of a declaration: one for each use of a name that no pattern binds and that none of the
declarations has. -/
def Config.unknownNames (config : Config) (decls : List Decl) (decl : Decl) : List TypeError :=
  (decl.body.uses.filter fun occurrence => !occurrence.bound config.key &&
    decls.all fun other => config.key other.name != config.key occurrence.label).map
      (config.unknown (config.normalize decl.name))

namespace State

variable {config : Config} {before middle after : State}

/-- The state of a session after some steps that have given these warnings. The names in scope and the declaration at
hand are the same. -/
structure Warned (news : List TypeError) (before after : State) : Prop where
  warnings : after.warnings = before.warnings ++ news
  decl : after.decl = before.decl
  scope : after.scope = before.scope

theorem Warned.refl (state : State) : state.Warned [] state := ⟨(List.append_nil _).symm, rfl, rfl⟩

theorem Warned.trans {news more : List TypeError} (early : before.Warned news middle)
    (late : middle.Warned more after) : before.Warned (news ++ more) after where
  warnings := by rw [late.warnings, early.warnings, List.append_assoc]
  decl := late.decl.trans early.decl
  scope := late.scope.trans early.scope

private theorem Warned.unknowns {news : List TypeError} (warned : before.Warned news after) (uses : List Occurrence) :
    after.unknowns config uses = before.unknowns config uses := by
  unfold State.unknowns
  rw [warned.scope, warned.decl]

private theorem unknowns_append (state : State) (first second : List Occurrence) :
    state.unknowns config (first ++ second) = state.unknowns config first ++ state.unknowns config second := by
  simp [unknowns]

private theorem unknowns_under {pat : Pat} {inner : State} (decl : inner.decl = before.decl)
    (scope : ∀ key, (inner.scope.find? key).isNone =
      (!pat.introduces config.key key && (before.scope.find? key).isNone)) (uses : List Occurrence) :
    inner.unknowns config uses = before.unknowns config (uses.map (Occurrence.under pat)) := by
  unfold unknowns
  rw [List.filter_map, List.map_map, decl]
  congr 2
  funext occurrence
  rw [Function.comp, Occurrence.bound_under, scope]
  change _ = (_ && (before.scope.find? (config.key occurrence.label)).isNone)
  rw [Bool.not_or, Bool.and_left_comm, Bool.and_assoc]

end State

namespace Session

variable {α : Type} {config : Config} {before after : State}

private theorem Uses.warned {step : Session α} {uses : List Use} {result : Except Failure α}
    (step_uses : step.Uses uses)
    (aside : .warn ∉ uses ∧ .enter ∉ uses ∧ .declare ∉ uses) (run : step config before = (result, after)) :
    before.Warned [] after := by
  have left := step_uses.leaves run
  exact ⟨by rw [left.warnings aside.1, List.append_nil], left.decl aside.2.1, left.scope aside.2.2⟩

private theorem bindPat_warned {pat pat' : Pat} {type : Ty} (run : bindPat pat type config before = (.ok pat', after)) :
    after.warnings = before.warnings ∧
      ∀ uses, after.unknowns config uses = before.unknowns config (uses.map (Occurrence.under pat)) := by
  have left := (bindPat_uses (.refl _) pat type).leaves run
  refine ⟨left.warnings (by decide), State.unknowns_under (left.decl (by decide)) fun key => ?_⟩
  rw [bindPat_scope run, (bindPat_supported run).introduces]
  cases pat.hides config.key key <;> simp

private theorem reference_warned {label : String} {typed : Typed Ty}
    (run : reference label config before = (.ok typed, after)) :
    before.Warned (before.unknowns config [⟨label, []⟩]) after := by
  obtain ⟨_, _, normalized, run⟩ := bind_ok run
  cases normalized
  obtain ⟨template, middle, asked, run⟩ := bind_ok run
  have found : before.scope.find? (config.key label) = template := ((lookup_quiet _).result asked).2.symm
  have same : middle = before := congrArg Prod.snd asked.symm
  rw [same] at run
  cases template with
  | some template =>
    obtain ⟨_, _, copied, run⟩ := bind_ok run
    cases run
    have known : before.unknowns config [⟨label, []⟩] = [] := by simp [State.unknowns, found]
    rw [known]
    exact (instantiate_uses (.refl _) _ _).warned (by decide) copied
  | none =>
    obtain ⟨_, _, warned, run⟩ := bind_ok run
    cases warned
    obtain ⟨_, _, traced, run⟩ := bind_ok run
    cases run
    obtain ⟨lines, reported⟩ := trace_lines (fun _ => "unknown name " ++ config.normalize label) config _
    cases traced.symm.trans reported
    have unknown : before.unknowns config [⟨label, []⟩] = [config.unknown before.decl ⟨label, []⟩] := by
      simp [State.unknowns, found, Occurrence.bound]
    rw [unknown]
    exact ⟨rfl, rfl, rfl⟩

private theorem settle_warned {expr : Expr} {expected : Option Ty} {step : Session (Typed Ty)} {typed : Typed Ty}
    (run : settle expr expected step config before = (.ok typed, after)) :
    ∃ middle, step config before = (.ok typed, middle) ∧ middle.Warned [] after := by
  obtain ⟨result, middle, first, run⟩ := bind_ok run
  cases expected with
  | none =>
    cases run
    exact ⟨_, first, .refl _⟩
  | some type =>
    obtain ⟨_, _, compared, run⟩ := bind_ok run
    cases run
    exact ⟨middle, first, (assign_uses (.refl _) _ _).warned (by decide) (locatedAt_ok compared)⟩

/-- Checking an expression warns of its unknown names, and of nothing else. -/
theorem elaborate_warned (expr : Expr) (expected : Option Ty) {typed : Typed Ty}
    (run : elaborate expr expected config before = (.ok typed, after)) :
    before.Warned (before.unknowns config expr.uses) after := by
  -- Only the warnings need an induction: scope and declaration are put back whatever the expression is.
  have warned {expr : Expr} {expected : Option Ty} {before after : State} {typed : Typed Ty} {news : List TypeError}
      (warnings : after.warnings = before.warnings ++ news)
      (run : elaborate expr expected config before = (.ok typed, after)) : before.Warned news after := by
    have left := (elaborate_uses (.refl _) expr expected).leaves run
    exact ⟨warnings, left.decl (by decide), left.scope (by decide)⟩
  refine warned ?_ run
  induction expr, expected using elaborate_induction generalizing before after typed with
  | anno expr type expected ih =>
    rw [elaborate] at run
    obtain ⟨_, run, rest⟩ := settle_warned run
    obtain ⟨lowered, _, lowering, run⟩ := bind_ok run
    have early := (lower_uses (.refl _) _ _).warned (by decide) lowering
    rw [rest.warnings, List.append_nil, ih lowered run, early.warnings, List.append_nil, early.unknowns, Expr.uses]
  | lam pat body type ih =>
    rw [elaborate] at run
    obtain ⟨⟨domain, codomain⟩, _, split, run⟩ := bind_ok run
    obtain ⟨_, run, kept⟩ := keepingScope_ok run
    obtain ⟨pat', _, bound, run⟩ := bind_ok run
    obtain ⟨body', _, checked, run⟩ := bind_ok run
    cases run
    have early := (splitFunction_uses (.refl _) _).warned (by decide) (locatedAt_ok split)
    obtain ⟨silent, inside⟩ := bindPat_warned (locatedAt_ok bound)
    rw [kept]
    dsimp only
    rw [ih codomain (locatedAt_ok checked), silent, early.warnings, List.append_nil, inside, early.unknowns, Expr.uses]
  | letElse pat bound thenBranch elseBranch expected first second third =>
    rw [elaborate] at run
    obtain ⟨bound', outside, checked, run⟩ := bind_ok run
    obtain ⟨_, run, kept⟩ := keepingScope_ok run
    obtain ⟨pat', inner, compared, run⟩ := bind_ok run
    obtain ⟨then', between, taken, run⟩ := bind_ok run
    obtain ⟨else', _, other, run⟩ := bind_ok run
    cases run
    have early := warned (first (locatedAt_ok checked)) (locatedAt_ok checked)
    obtain ⟨silent, inside⟩ := bindPat_warned (locatedAt_ok compared)
    have branch := warned (second (locatedAt_ok taken)) (locatedAt_ok taken)
    rw [kept]
    dsimp only
    rw [third then' (locatedAt_ok other), branch.unknowns, branch.warnings, silent, early.warnings, inside, inside,
      early.unknowns, early.unknowns, Expr.uses, State.unknowns_append, List.map_append, State.unknowns_append,
      List.append_assoc, List.append_assoc]
  | call func arg expected first second =>
    rw [elaborate] at run
    obtain ⟨_, run, rest⟩ := settle_warned run
    obtain ⟨func', _, checked, run⟩ := bind_ok run
    obtain ⟨⟨domain, codomain⟩, _, split, run⟩ := bind_ok run
    obtain ⟨arg', _, checked', run⟩ := bind_ok run
    cases run
    have early := (warned (first (locatedAt_ok checked)) (locatedAt_ok checked)).trans
      ((splitFunction_uses (.refl _) _).warned (by decide) (locatedAt_ok split))
    rw [rest.warnings, List.append_nil, second domain (locatedAt_ok checked'), early.unknowns, early.warnings,
      List.append_nil, List.append_assoc, Expr.uses, State.unknowns_append]
  | literal value type notBool notRegex =>
    rw [elaborate_literal type notBool notRegex] at run
    obtain ⟨_, _, judged, run⟩ := bind_ok run
    cases run
    rw [((conform_uses (.refl _) _ _).warned (by decide) (locatedAt_ok judged)).warnings, Expr.uses]
    rfl
  | literalFound value notBool notRegex =>
    rw [elaborate_literalFound notBool notRegex] at run
    cases run
  | name label expected =>
    rw [elaborate] at run
    obtain ⟨_, run, rest⟩ := settle_warned run
    rw [rest.warnings, List.append_nil, (reference_warned run).warnings, Expr.uses]
  | bool | regex | impossible | invalid =>
    rw [elaborate] at run
    obtain ⟨_, run, rest⟩ := settle_warned run
    cases run
    rw [rest.warnings, Expr.uses]
    rfl
  | lamFound | op | absent | foreign | missing =>
    rw [elaborate] at run
    cases run

private theorem define_warned {declared : DeclaredDecl} {body : Typed Ty}
    (run : define declared config before = (.ok body, after)) : after.warnings =
      before.warnings ++ { before with decl := declared.name }.unknowns config declared.decl.body.uses := by
  obtain ⟨_, _, entered, run⟩ := bind_ok run
  cases entered
  obtain ⟨_, _, traced, run⟩ := bind_ok run
  obtain ⟨lines, reported⟩ := trace_lines (fun _ => "define " ++ declared.name) config _
  cases traced.symm.trans reported
  obtain ⟨body', checking, checked, run⟩ := bind_ok (withinDecl_ok run)
  obtain ⟨_, _, solved, run⟩ := bind_ok run
  cases run
  have silent := ((solve_uses (.refl _) false).leaves solved).warnings (by decide)
  obtain ⟨_, checked, kept⟩ := keepingScope_ok checked
  rw [kept] at silent
  exact silent.trans (elaborate_warned _ _ checked).warnings

private theorem defineAll_warned {declared : List DeclaredDecl} {order : List Nat} {bodies : List (Nat × Typed Ty)}
    (run : defineAll declared order config before = (.ok bodies, after)) : after.warnings = before.warnings ++
      (order.filterMap (declared[·]?)).flatMap fun decl =>
        { before with decl := decl.name }.unknowns config decl.decl.body.uses := by
  induction order generalizing before after bodies with
  | nil =>
    cases run
    exact (List.append_nil _).symm
  | cons place rest ih =>
    cases found : declared[place]? with
    | none =>
      rw [defineAll, found] at run
      cases run
    | some decl =>
      rw [defineAll, found] at run
      obtain ⟨body, middle, defined, run⟩ := bind_ok run
      obtain ⟨others, _, later, run⟩ := bind_ok run
      cases run
      have scope : middle.scope = before.scope := ((define_uses (.refl _) decl).leaves defined).scope (by decide)
      rw [ih later, define_warned defined, List.filterMap_cons_some found, List.flatMap_cons, List.append_assoc]
      unfold State.unknowns
      simp only [scope]

private theorem checkingOrder_bodyOrder {decls : List Decl} {order : List Nat}
    (run : checkingOrder decls config before = (.ok order, after)) : order = bodyOrder config decls := by
  unfold bodyOrder
  obtain ⟨chosen, rfl⟩ | ⟨chosen, _, rfl⟩ := checkingOrder_ok run
  · rw [if_pos chosen]
  · rw [chosen, if_neg Bool.false_ne_true]

private theorem Declared.unknown_iff {decls : List (Option Decl)} {declared : List DeclaredDecl} {state : State}
    (facts : Declared config decls declared state) (label : String) : (state.scope.find? (config.key label)).isNone =
      (declared.map (·.decl)).all fun other => config.key other.name != config.key label := by
  rw [facts.scope, Bool.eq_iff_iff, Option.isNone_iff_eq_none, List.lookup_eq_none_iff, List.all_map, List.all_eq_true]
  simp only [List.mem_reverse, List.forall_mem_map]
  refine forall₂_congr fun other member => ?_
  rw [signature, facts.names other member, bne_comm]
  rfl

private theorem Declared.unknowns {decls : List (Option Decl)} {declared : List DeclaredDecl} {state : State}
    (facts : Declared config decls declared state) {decl : DeclaredDecl} (member : decl ∈ declared) :
    { state with decl := decl.name }.unknowns config decl.decl.body.uses =
      config.unknownNames (declared.map (·.decl)) decl.decl := by
  unfold State.unknowns Config.unknownNames
  simp only [facts.unknown_iff, facts.names decl member]

private theorem elaborateAll_warned {cache : Regex.Cache} {decls : List (Option Decl)} {declared : List DeclaredDecl}
    {bodies : List (Nat × Typed Ty)}
    (run : elaborateAll decls config (.fresh cache) = (.ok (declared, bodies), after)) :
    ∃ sources, decls = sources.map some ∧ (bodyOrder config sources).Perm (List.range sources.length) ∧
      after.warnings = ((bodyOrder config sources).filterMap (sources[·]?)).flatMap (config.unknownNames sources) := by
  obtain ⟨order, ready, defined, prepared, checked, solved⟩ := elaborateAll_phases run
  have readied := prepare_readied prepared
  have facts := readied.declared rfl
  obtain ⟨named, _, _, _, declaring, _, _, ordered⟩ := prepare_ok prepared
  have sources : named.map NamedDecl.decl = declared.map (·.decl) := by
    rw [← (declareAll_ok declaring).1, List.map_map]
    rfl
  have chosen : order = bodyOrder config (declared.map (·.decl)) := sources ▸ checkingOrder_bodyOrder ordered
  have begun : ready.warnings = [] := ((prepare_uses (.refl _) decls).leaves prepared).warnings (by decide)
  refine ⟨declared.map (·.decl), by rw [facts.listed, List.map_map]; rfl, ?_, ?_⟩
  · rw [← chosen, List.length_map]
    exact readied.order
  rw [((solve_uses (.refl _) true).leaves solved).warnings (by decide)]
  dsimp only
  rw [defineAll_warned checked, begun, List.nil_append, chosen]
  simp only [List.getElem?_map]
  rw [← List.map_filterMap, List.flatMap_map]
  refine List.flatMap_congr fun decl member => ?_
  obtain ⟨place, _, found⟩ := List.mem_filterMap.mp member
  exact facts.unknowns (List.mem_of_getElem? found)

end Session

open Session

/-- Whatever a checker was used for before and in whichever order bodies are checked, a program that it accepts has,
body by body in that order, one warning for each use of a name that no pattern around it binds and no declaration has,
from left to right, and no other warnings. -/
theorem accepted_warnings_exact (config : Config) (history : List (List (Option Decl))) (decls : List (Option Decl))
    (program : Program) (after : Checker)
    (run : ((Checker.new config).afterAll history).check decls = (.ok program, after)) :
    ∃ sources, decls = sources.map some ∧ (bodyOrder config sources).Perm (List.range sources.length) ∧
      program.warnings =
        ((bodyOrder config sources).filterMap (sources[·]?)).flatMap (config.unknownNames sources) := by
  obtain ⟨cache, _, run⟩ := ((Checker.Ready.new config).afterAll history).check_ok run
  obtain ⟨⟨declared, bodies⟩, solved, elaborated, resolved⟩ := bind_ok run
  rw [resolveAll_warnings resolved]
  exact elaborateAll_warned elaborated

/-- The first body refers to the second, which is checked before it, under another spelling; a name is used outside the
scope of the pattern that binds it, and an unknown one twice. -/
theorem accepted_warnings_exact_scoped :
    let config : Config := ⟨fun label => if label = "F" then "f" else label, .regular, false, false, 8⟩
    let decls : List (Option Decl) := [
      some ⟨"use", [], .wildcard, .letElse (.bind "x") (.call (.name "F") (.name "x"))
        (.call (.name "y") (.name "x")) (.name "y")⟩,
      some ⟨"f", [], .arrow .bool .bool, .lam (.bind "y") (.letElse .wildcard (.name "y") (.name "z") (.name "y"))⟩]
    ∃ program after, ((Checker.new config).afterAll [[none]]).check decls = (.ok program, after) ∧
      program.warnings = [
        ⟨.unknownName "z", "f", some (.name "z")⟩, ⟨.unknownName "x", "use", some (.name "x")⟩,
        ⟨.unknownName "y", "use", some (.name "y")⟩, ⟨.unknownName "y", "use", some (.name "y")⟩] := by
  intro config decls
  obtain ⟨program, after, run⟩ : ∃ program after,
      ((Checker.new config).afterAll [[none]]).check decls = (.ok program, after) :=
    Checker.exists_of_isOk (by decide +kernel)
  refine ⟨program, after, run, ?_⟩
  obtain ⟨sources, listed, _, warnings⟩ := accepted_warnings_exact config [[none]] decls program after run
  obtain rfl : sources = decls.filterMap id := by simp [listed]
  have order : bodyOrder config (decls.filterMap id) = [1, 0] := by decide +kernel
  rw [warnings, order]
  rfl

end RefinementTypes.Checking
