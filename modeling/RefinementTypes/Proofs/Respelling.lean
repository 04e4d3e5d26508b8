import RefinementTypes.Proofs.Indifference
import RefinementTypes.Proofs.Spelling
import RefinementTypes.Proofs.Soundness

/-! Programs that differ in the spelling of names. Checking a program and checking its canonical form go on in step:
they bind the same variables, put off the same obligations and give the same warnings, but for the expressions at which
warnings and errors are found. So programs with one canonical form get one verdict. -/

namespace RefinementTypes.Checking

/-- What a warning says, apart from where it was found in its declaration. -/
def TypeError.reported (error : TypeError) : String × Cause := (error.decl, error.cause)

def NamedDecl.canonical (normalize : String → String) (named : NamedDecl) : NamedDecl :=
  ⟨named.name, named.decl.canonical normalize⟩

def DeclaredDecl.canonical (normalize : String → String) (declared : DeclaredDecl) : DeclaredDecl :=
  ⟨declared.toNamedDecl.canonical normalize, declared.type⟩

/-- Two steps fail alike: with errors of one kind in one declaration, or with the same fault. -/
inductive Failure.Alike : Failure → Failure → Prop
  | refused {first second : TypeError} (kind : second.kind = first.kind) (decl : second.decl = first.decl) :
      Alike (.refused first) (.refused second)
  | fault (cause : Fault) : Alike (.fault cause) (.fault cause)

theorem Failure.Alike.refl (failure : Failure) : failure.Alike failure := by
  cases failure with
  | refused error => exact .refused rfl rfl
  | fault cause => exact .fault cause

/-- Warnings say the same, though they may have been found elsewhere. -/
def Restates (warnings others : List TypeError) : Prop :=
  others.map TypeError.reported = warnings.map TypeError.reported

namespace Session

variable {α β γ δ : Type} {config : Config} {same : α → β → Prop} {better : γ → δ → Prop}

/-- Two steps have ended alike, with related results, in states that differ only in where warnings were found. -/
inductive Agree (same : α → β → Prop) : Except Failure α × State → Except Failure β × State → Prop
  | ok {value : α} {value' : β} {state : State} {warnings : List TypeError} (related : same value value')
      (restates : Restates state.warnings warnings) :
      Agree same (.ok value, state) (.ok value', { state with warnings })
  | failed {failure failure' : Failure} {state : State} {warnings : List TypeError} (alike : failure.Alike failure')
      (restates : Restates state.warnings warnings) :
      Agree same (.error failure, state) (.error failure', { state with warnings })

/-- Two steps end alike from all states that differ only in where warnings were found. -/
def Agrees (config : Config) (step : Session α) (step' : Session β) (same : α → β → Prop) : Prop :=
  ∀ (before : State) warnings, Restates before.warnings warnings →
    Agree same (step config before) (step' config { before with warnings })

/-- A step that neither gives nor reads warnings agrees with itself. -/
theorem Uses.agrees {step : Session α} {uses : List Use} (step_uses : step.Uses uses)
    (aside : ∀ use ∈ [Use.warn, .warnings], use ∉ .declare :: uses) : Agrees config step step Eq := by
  intro before warnings restates
  have silent : .warn ∉ uses := fun given => aside _ List.mem_cons_self (List.mem_cons_of_mem _ given)
  have kept := (step_uses.untouched config before).warnings silent
  rw [step_uses.rewarned aside config before warnings]
  cases outcome : step config before with
  | mk result after =>
    rw [outcome] at kept
    replace restates : Restates after.warnings warnings := kept ▸ restates
    cases result with
    | ok value => exact .ok rfl restates
    | error failure => exact .failed (.refl failure) restates

namespace Agrees

theorem of_run {step : Session α} {step' other : Session β} (run : ∀ before, step' config before = other config before)
    (agrees : Agrees config step other same) : Agrees config step step' same := by
  intro before warnings restates
  rw [run]
  exact agrees before warnings restates

theorem pure {value : α} {value' : β} (related : same value value') :
    Agrees config (Pure.pure value) (Pure.pure value') same := fun _ _ restates => .ok related restates

private theorem fail {failure failure' : Failure} (alike : failure.Alike failure') :
    Agrees config (Session.fail failure : Session α) (Session.fail failure' : Session β) same :=
  fun _ _ restates => .failed alike restates

private theorem refuse {cause cause' : Cause} (kind : cause'.kind = cause.kind) :
    Agrees config (Session.refuse cause : Session α) (Session.refuse cause' : Session β) same :=
  .fail (.refused kind rfl)

private theorem bind {step : Session α} {step' : Session β} {next : α → Session γ} {next' : β → Session δ}
    (first : Agrees config step step' same)
    (rest : ∀ value value', same value value' → Agrees config (next value) (next' value') better) :
    Agrees config (step >>= next) (step' >>= next') better := by
  intro before warnings restates
  have outcomes := first before warnings restates
  rw [run_bind, run_bind]
  generalize step config before = outcome at outcomes ⊢
  generalize step' config { before with warnings } = outcome' at outcomes ⊢
  cases outcomes with
  | ok related restates => exact rest _ _ related _ _ restates
  | failed alike restates => exact .failed alike restates

private theorem after {step step' : Session α} {next : α → Session γ} {next' : α → Session δ}
    (first : Agrees config step step' Eq) (rest : ∀ value, Agrees config (next value) (next' value) better) :
    Agrees config (step >>= next) (step' >>= next') better := by
  refine .bind first fun value value' equal => ?_
  rw [equal]
  exact rest value'

private theorem asking {next : Config → Session α} {next' : Config → Session β}
    (rest : Agrees config (next config) (next' config) same) :
    Agrees config (Session.config >>= next) (Session.config >>= next') same := rest

private theorem trace (line : View → String) : Agrees config (Session.trace line) (Session.trace line) Eq :=
  (trace_uses line : Session.Uses [] _).agrees (by decide)

private theorem read (see : View → α) : Agrees config (Session.read see) (Session.read see) Eq :=
  (read_uses see : Session.Uses [] _).agrees (by decide)

private theorem mapError {step : Session α} {step' : Session β} {change change' : View → TypeError → TypeError}
    (kind : ∀ view error, (change view error).kind = error.kind)
    (kind' : ∀ view error, (change' view error).kind = error.kind)
    (decl : ∀ view error error', error'.decl = error.decl → (change' view error').decl = (change view error).decl)
    (agrees : Agrees config step step' same) :
    Agrees config (Session.mapError change step) (Session.mapError change' step') same := by
  intro before warnings restates
  have outcomes := agrees before warnings restates
  rw [run_mapError, run_mapError]
  generalize step config before = outcome at outcomes ⊢
  generalize step' config { before with warnings } = outcome' at outcomes ⊢
  cases outcomes with
  | ok related restates => exact .ok related restates
  | failed alike restates =>
    cases alike with
    | refused same found =>
      exact .failed (.refused ((kind' _ _).trans (same.trans (kind _ _).symm)) (decl _ _ _ found)) restates
    | fault cause => exact .failed (.fault cause) restates

private theorem locatedAt {step : Session α} {step' : Session β} (expr expr' : Expr)
    (agrees : Agrees config step step' same) :
    Agrees config (Session.locatedAt expr step) (Session.locatedAt expr' step') same :=
  agrees.mapError (fun _ _ => rfl) (fun _ _ => rfl) fun _ _ _ found => found

private theorem withinDecl {step : Session α} {step' : Session β} (agrees : Agrees config step step' same) :
    Agrees config (Session.withinDecl step) (Session.withinDecl step') same :=
  agrees.mapError (fun _ _ => rfl) (fun _ _ => rfl) fun _ _ _ found => by simp only [TypeError.inDecl, found]

private theorem keepingScope {step : Session α} {step' : Session β} (agrees : Agrees config step step' same) :
    Agrees config (Session.keepingScope step) (Session.keepingScope step') same := by
  intro before warnings restates
  have outcomes := agrees before warnings restates
  rw [run_keepingScope, run_keepingScope]
  generalize step config before = outcome at outcomes ⊢
  generalize step' config { before with warnings } = outcome' at outcomes ⊢
  cases outcomes with
  | @ok value value' state warnings related restates =>
    exact @Agree.ok _ _ same value value' { state with scope := before.scope } warnings related restates
  | @failed failure failure' state warnings alike restates =>
    exact @Agree.failed _ _ same failure failure' { state with scope := before.scope } warnings alike restates

end Agrees

section Canonical

variable (idempotent : ∀ name, config.normalize (config.normalize name) = config.normalize name)

include idempotent

private theorem normalize_agrees (label : String) :
    Agrees config (normalize label) (normalize (config.normalize label)) Eq :=
  fun _ _ restates => .ok (idempotent label).symm restates

private theorem lower_agrees (mutability : Mutability) (type : TypeExpr) :
    Agrees config (lower mutability type) (lower mutability (type.canonical config.normalize)) Eq := by
  induction type with
  | arrow domain codomain left right => exact .after left fun _ => .after right fun _ => .pure rfl
  | named name => exact .after (normalize_agrees idempotent name) fun _ => .pure rfl
  | wildcard | missing => exact .after ((freshVar_uses (.refl _) _).agrees (by decide)) fun _ => .pure rfl
  | foreign form => exact .fail (.refl _)
  | bool | regex | range _ _ | string _ | invalid => exact .pure rfl

private theorem bindPat_agrees (pat : Pat) (type : Ty) :
    Agrees config (bindPat pat type) (bindPat (pat.canonical config.normalize) type) Eq := by
  cases pat with
  | bind label =>
    refine .after (normalize_agrees idempotent label) fun name =>
      .after ((declare_uses (.refl _) _ _).agrees (by decide)) fun _ => ?_
    exact .after (.trace _) fun _ => .pure rfl
  | lit value => exact .after ((conform_uses (.refl _) value type).agrees (by decide)) fun _ => .pure rfl
  | wildcard => exact .pure rfl
  | constructor | apply | missing => exact .refuse rfl
  | foreign => exact .fail (.refl _)

/-- The warning about an unknown name is found at another expression, and says the same. -/
theorem reference_agrees (label : String) :
    Agrees config (reference label) (reference (config.normalize label)) Eq := by
  refine .after (normalize_agrees idempotent label) fun name =>
    .after ((lookup_uses name : Session.Uses [] _).agrees (by decide)) fun template => ?_
  cases template with
  | some template => exact .after ((instantiate_uses (.refl _) name template).agrees (by decide)) fun _ => .pure rfl
  | none =>
    have warned : Agrees config (request (.warn (.unknownName name) (.name label)))
        (request (.warn (.unknownName name) (.name (config.normalize label)))) Eq := by
      intro before warnings restates
      refine .ok rfl ?_
      unfold Restates at restates ⊢
      rw [List.map_append, List.map_append, restates]
      rfl
    exact .after warned fun _ => .after (.trace _) fun _ => .pure rfl

omit idempotent in
private theorem settle_agrees {step step' : Session (Typed Ty)} (expr expr' : Expr) (expected : Option Ty)
    (agrees : Agrees config step step' Eq) :
    Agrees config (settle expr expected step) (settle expr' expected step') Eq := by
  refine .after agrees fun result => ?_
  cases expected with
  | none => exact .pure rfl
  | some type =>
    exact .after (.locatedAt expr expr' ((assign_uses (.refl _) _ _).agrees (by decide))) fun _ => .pure rfl

/-- An expression and its canonical form are checked in step. -/
theorem elaborate_agrees (expr : Expr) (expected : Option Ty) :
    Agrees config (elaborate expr expected) (elaborate (expr.canonical config.normalize) expected) Eq := by
  induction expr, expected using elaborate_induction with
  | anno expr type expected ih =>
    rw [Expr.canonical, elaborate, elaborate]
    exact settle_agrees _ _ _ (.after (lower_agrees idempotent _ type) fun type => ih type)
  | lam pat body type ih =>
    rw [Expr.canonical, elaborate, elaborate]
    refine .after (.locatedAt _ _ ((splitFunction_uses (.refl _) type).agrees (by decide))) fun parts =>
      .keepingScope ?_
    refine .after (.locatedAt _ _ (bindPat_agrees idempotent pat _)) fun pat' => ?_
    exact .after (.locatedAt _ _ (ih _)) fun body' => .pure rfl
  | letElse pat bound thenBranch elseBranch expected first second third =>
    rw [Expr.canonical, elaborate, elaborate]
    refine .after (.locatedAt _ _ first) fun bound' => .keepingScope ?_
    refine .after (.locatedAt _ _ (bindPat_agrees idempotent pat _)) fun pat' => ?_
    refine .after (.locatedAt _ _ second) fun then' => .after (.locatedAt _ _ (third then')) fun else' => ?_
    exact .pure rfl
  | call func arg expected first second =>
    rw [Expr.canonical, elaborate, elaborate]
    refine settle_agrees _ _ _ (.after (.locatedAt _ _ first) fun func' => ?_)
    refine .after (.locatedAt _ _ ((splitFunction_uses (.refl _) _).agrees (by decide))) fun parts => ?_
    exact .after (.locatedAt _ _ (second _)) fun arg' => .pure rfl
  | literal value type notBool notRegex =>
    rw [Expr.canonical, elaborate_literal type notBool notRegex]
    exact .after (.locatedAt _ _ ((conform_uses (.refl _) _ _).agrees (by decide))) fun _ => .pure rfl
  | literalFound value notBool notRegex =>
    rw [Expr.canonical, elaborate_literalFound notBool notRegex]
    exact .locatedAt _ _ (.refuse rfl)
  | name label expected =>
    rw [Expr.canonical, elaborate, elaborate]
    exact settle_agrees _ _ _ (reference_agrees idempotent label)
  | bool | regex | impossible | invalid =>
    rw [Expr.canonical, elaborate]
    exact settle_agrees _ _ _ (.pure rfl)
  | lamFound | op =>
    rw [Expr.canonical, elaborate, elaborate]
    exact .locatedAt _ _ (.refuse rfl)
  | absent | foreign =>
    rw [Expr.canonical, elaborate]
    exact .fail (.refl _)
  | missing =>
    rw [Expr.canonical, elaborate]
    exact .refuse rfl

private theorem validate_agrees (seen : List String) (decls : List (Option Decl)) :
    Agrees config (validate seen decls) (validate seen (decls.map (Option.map (Decl.canonical config.normalize))))
      fun named named' => named' = named.map (NamedDecl.canonical config.normalize) := by
  induction decls generalizing seen with
  | nil => exact .pure rfl
  | cons decl rest ih =>
    cases decl with
    | none => exact .refuse rfl
    | some decl =>
      obtain ⟨label, params, type, body⟩ := decl
      rw [List.map_cons, Option.map_some]
      unfold validate
      refine .after (normalize_agrees idempotent label) fun name => ?_
      by_cases again : seen.contains name = true
      · simp only [again, if_true]
        exact .bind (.fail (.refl _)) fun _ _ (never : False) => never.elim
      simp only [again]
      refine .asking ?_
      dsimp only [Decl.canonical]
      rw [map_normalize_canonical idempotent]
      cases firstRepeated? [] (params.map config.normalize) with
      | some param => exact .fail (.refl _)
      | none =>
        have others := ih (name :: seen)
        cases body with
        | missing => exact .fail (.refl _)
        | _ =>
          refine .bind others fun named named' related => .pure ?_
          subst related
          rfl

private theorem declareAll_agrees (named : List NamedDecl) :
    Agrees config (declareAll named) (declareAll (named.map (NamedDecl.canonical config.normalize)))
      fun declared declared' => declared' = declared.map (DeclaredDecl.canonical config.normalize) := by
  induction named with
  | nil => exact .pure rfl
  | cons decl rest ih =>
    refine .after ((enterDecl_uses (.refl _) _).agrees (by decide)) fun _ =>
      .after (lower_agrees idempotent .immutable decl.decl.type) ?_
    intro type
    have generalized : Agrees config (generalize decl.decl.params type)
        (generalize (decl.decl.params.map config.normalize) type) Eq := by
      refine .asking (.pure ?_)
      rw [map_normalize_canonical idempotent]
    refine .after generalized fun template => .after ((declare_uses (.refl _) _ _).agrees (by decide)) fun _ => ?_
    refine .after (.trace _) fun _ => .bind ih fun others others' related => .pure ?_
    subst related
    rfl

private theorem checkingOrder_agrees (decls : List Decl) :
    Agrees config (checkingOrder decls) (checkingOrder (decls.map (Decl.canonical config.normalize))) Eq := by
  refine .of_run (fun before => ?_) ((checkingOrder_uses decls : Session.Uses [] _).agrees (by decide))
  unfold checkingOrder
  change (if config.sourceOrder then _ else _ : Session (List Nat)) config before =
    (if config.sourceOrder then _ else _ : Session (List Nat)) config before
  rw [List.length_map, Dependencies.analyze_canonical idempotent]

private theorem define_agrees (declared : DeclaredDecl) :
    Agrees config (define declared) (define (declared.canonical config.normalize)) Eq := by
  refine .after ((enterDecl_uses (.refl _) _).agrees (by decide)) fun _ => .after (.trace _) fun _ => ?_
  refine .withinDecl (.after (.keepingScope (elaborate_agrees idempotent _ _)) fun body => ?_)
  exact .after ((solve_uses (.refl _) false).agrees (by decide)) fun _ => .pure rfl

private theorem defineAll_agrees (declared : List DeclaredDecl) (order : List Nat) :
    Agrees config (defineAll declared order)
      (defineAll (declared.map (DeclaredDecl.canonical config.normalize)) order) Eq := by
  induction order with
  | nil => exact .pure rfl
  | cons index rest ih =>
    unfold defineAll
    rw [List.getElem?_map]
    cases declared[index]? with
    | none => exact .fail (.refl _)
    | some decl => exact .after (define_agrees idempotent decl) fun body => .after ih fun others => .pure rfl

omit idempotent in
/-- Resolution looks at nothing of a declaration that has a spelling. -/
theorem finishAll_canonical (bodies : List (Nat × Typed Ty)) (start : Nat) (declared : List DeclaredDecl) :
    finishAll bodies start (declared.map (DeclaredDecl.canonical config.normalize)) =
      finishAll bodies start declared := by
  induction declared generalizing start with
  | nil => rfl
  | cons decl rest ih =>
    rw [List.map_cons, finishAll, finishAll, ih]
    rfl

/-- Two programs are the same, but for where their warnings were found. -/
structure Matching (program program' : Program) : Prop where
  decls : program'.decls = program.decls
  store : program'.store = program.store
  warnings : Restates program.warnings program'.warnings

private theorem prepare_agrees (decls : List (Option Decl)) :
    Agrees config (prepare decls) (prepare (decls.map (Option.map (Decl.canonical config.normalize))))
      fun ready ready' => ready' = (ready.1.map (DeclaredDecl.canonical config.normalize), ready.2) := by
  refine .bind (validate_agrees idempotent [] decls) fun named named' listed => ?_
  subst listed
  refine .bind (declareAll_agrees idempotent named) fun declared declared' listed => .after (.trace _) fun _ => ?_
  have sources : (named.map (NamedDecl.canonical config.normalize)).map NamedDecl.decl =
      (named.map NamedDecl.decl).map (Decl.canonical config.normalize) := by
    rw [List.map_map, List.map_map]
    rfl
  rw [sources]
  exact .after (checkingOrder_agrees idempotent _) fun order => .pure (by rw [listed])

omit idempotent in
private theorem resolveAll_agrees (declared : List DeclaredDecl) (bodies : List (Nat × Typed Ty)) :
    Agrees config (resolveAll declared bodies)
      (resolveAll (declared.map (DeclaredDecl.canonical config.normalize)) bodies) Matching := by
  unfold resolveAll
  rw [finishAll_canonical]
  refine .after (.trace _) fun _ => .after (.read _) fun scope => ?_
  refine .after ((traceScope_uses _ : Session.Uses [] _).agrees (by decide)) fun _ => ?_
  refine .after ((forgetTypes_uses (.refl _)).agrees (by decide)) fun _ => ?_
  refine .after ((finishAll_uses (.refl _) bodies 0 declared).agrees (by decide)) fun checked => ?_
  refine .after ((enterDecl_uses (.refl _) _).agrees (by decide)) fun _ => .after (.read _) fun store => ?_
  have warned : Agrees config (request .warnings) (request .warnings) Restates :=
    fun _ _ restates => .ok restates restates
  exact .bind warned fun warnings warnings' restates => .pure ⟨rfl, rfl, restates⟩

private theorem checkDecls_agrees (decls : List (Option Decl)) :
    Agrees config (checkDecls decls) (checkDecls (decls.map (Option.map (Decl.canonical config.normalize))))
      Matching := by
  have elaborated : Agrees config (elaborateAll decls)
      (elaborateAll (decls.map (Option.map (Decl.canonical config.normalize)))) fun result result' =>
        result' = (result.1.map (DeclaredDecl.canonical config.normalize), result.2) := by
    refine .bind (prepare_agrees idempotent decls) fun ready ready' listed => ?_
    subst listed
    refine .after (defineAll_agrees idempotent ready.1 ready.2) fun bodies => ?_
    refine .after ((enterDecl_uses (.refl _) _).agrees (by decide)) fun _ => ?_
    exact .after ((solve_uses (.refl _) true).agrees (by decide)) fun _ => .pure rfl
  refine .bind elaborated fun result result' listed => ?_
  subst listed
  exact resolveAll_agrees result.1 result.2

end Canonical

end Session

/-- What checking says about declarations, apart from where in a declaration something was found: the checked
declarations with their types, the store and the warnings; or the kind of the error and the declaration it is in. -/
inductive Verdict
  | accepted (decls : List CheckedDecl) (store : Store) (warnings : List (String × Cause))
  | refused (kind : ErrorKind) (decl : String)
  | faulted (cause : Fault)

def verdict : Except Failure Program → Verdict
  | .ok program => .accepted program.decls program.store (program.warnings.map TypeError.reported)
  | .error (.refused error) => .refused error.kind error.decl
  | .error (.fault cause) => .faulted cause

open Session

/-- Declarations and their canonical forms get the same verdict. -/
theorem verdict_canonical {config : Config}
    (idempotent : ∀ name, config.normalize (config.normalize name) = config.normalize name) (cache : Regex.Cache)
    (decls : List (Option Decl)) :
    verdict (checkDecls (decls.map (Option.map (Decl.canonical config.normalize))) config (.fresh cache)).1 =
      verdict (checkDecls decls config (.fresh cache)).1 := by
  have outcomes := checkDecls_agrees idempotent decls (.fresh cache) [] rfl
  change Agree _ _ (checkDecls _ config (.fresh cache)) at outcomes
  generalize checkDecls decls config (.fresh cache) = outcome at outcomes ⊢
  generalize checkDecls (decls.map _) config (.fresh cache) = outcome' at outcomes ⊢
  cases outcomes with
  | ok related _ =>
    have warnings := related.warnings
    unfold Restates at warnings
    simp only [verdict, related.decls, related.store, warnings]
  | failed alike _ =>
    cases alike with
    | refused kind decl => simp only [verdict, kind, decl]
    | fault cause => rfl

/-- Whatever a checker was used for before, and in either order of checking, two sets of declarations that differ only
in how they spell names that are normalised to the same get one verdict. -/
theorem respelled_same_verdict (config : Config) (history : List (List (Option Decl)))
    (first second : List (Option Decl))
    (idempotent : ∀ name, config.normalize (config.normalize name) = config.normalize name)
    (same : first.map (Option.map (Decl.canonical config.normalize)) =
      second.map (Option.map (Decl.canonical config.normalize))) :
    let checker := (Checker.new config).afterAll history
    verdict (checker.check first).1 = verdict (checker.check second).1 := by
  intro checker
  have ready : checker.Ready config := (Checker.Ready.new config).afterAll history
  have session (decls : List (Option Decl)) :
      (checker.check decls).1 = (checkDecls decls config (.fresh checker.state.cache)).1 := by
    rw [← ready.config]
    exact (checker.check_session decls).1
  rw [session first, session second, ← verdict_canonical idempotent _ first, same, verdict_canonical idempotent]

/-- A parameter, a named type, a variable and a name that is not declared are spelt in two ways each. -/
theorem respelled_same_verdict_warned :
    let config : Config := ⟨fun name => if name = "X" then "x" else name, .regular, false, false, 8⟩
    let first : List (Option Decl) := [
      some ⟨"f", ["X"], .arrow (.named "x") (.named "X"), .lam (.bind "x") (.name "X")⟩,
      some ⟨"use", [], .wildcard, .call (.name "X") (.call (.name "f") (.lit (some (.bool true))))⟩]
    let second : List (Option Decl) := [
      some ⟨"f", ["x"], .arrow (.named "X") (.named "X"), .lam (.bind "X") (.name "x")⟩,
      some ⟨"use", [], .wildcard, .call (.name "x") (.call (.name "f") (.lit (some (.bool true))))⟩]
    let checker := (Checker.new config).afterAll [[none]]
    (checker.check first).1.toOption.map (·.warnings.map fun warning => (warning.decl, warning.cause.message)) =
      some [("use", "x")] ∧
      (∀ name, config.normalize (config.normalize name) = config.normalize name) ∧
      first.map (Option.map (Decl.canonical config.normalize)) =
        second.map (Option.map (Decl.canonical config.normalize)) ∧
      verdict (checker.check first).1 = verdict (checker.check second).1 := by
  intro config first second checker
  have idempotent : ∀ name, config.normalize (config.normalize name) = config.normalize name := by
    intro name
    by_cases capital : name = "X" <;> simp [config, capital]
  have same : first.map (Option.map (Decl.canonical config.normalize)) =
      second.map (Option.map (Decl.canonical config.normalize)) := by
    simp [first, second, config, Decl.canonical, TypeExpr.canonical, Expr.canonical, Pat.canonical]
  refine ⟨by decide +kernel, idempotent, same, ?_⟩
  exact respelled_same_verdict config [[none]] first second idempotent same

end RefinementTypes.Checking
