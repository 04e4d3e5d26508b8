import RefinementTypes.Checking.Checker
import RefinementTypes.Proofs.Rules

/-! What the steps of checking use. Comparisons bind variables and leave obligations, instances issue
variables, only patterns and declarations bring names into scope, only a reference to an unknown name gives
a warning, only the solver takes up obligations, and types are numbered only once all obligations are met.
All else about a session stays as it is while such a step runs. -/

namespace RefinementTypes.Checking.Session

variable {α β : Type} {uses : List Use}

@[simp] theorem uses_pure (value : α) : (Pure.pure value : Session α).Uses uses := trivial

@[simp] theorem uses_bind {step : Session α} {next : α → Session β} :
    (step >>= next).Uses uses ↔ step.Uses uses ∧ ∀ value, (next value).Uses uses := Iff.rfl

@[simp] theorem uses_fail (failure : Failure) : (fail failure : Session α).Uses uses := trivial

@[simp] theorem uses_refuse (cause : Cause) : (refuse cause : Session α).Uses uses := trivial

@[simp] theorem uses_fault (cause : Fault) : (fault cause : Session α).Uses uses := trivial

@[simp] theorem uses_request {asked : Request α} :
    (request asked).Uses uses ↔ ∀ use, asked.use? = some use → use ∈ uses := Iff.rfl

@[simp] theorem uses_locatedAt {expr : Expr} {step : Session α} :
    (locatedAt expr step).Uses uses ↔ step.Uses uses := Iff.rfl

@[simp] theorem uses_withinDecl {step : Session α} : (withinDecl step).Uses uses ↔ step.Uses uses := Iff.rfl

@[simp] theorem uses_keepingScope {step : Session α} :
    (keepingScope step).Uses uses ↔ .scope ∈ uses ∧ step.Uses (.declare :: uses) := Iff.rfl

@[simp] theorem uses_ite {condition : Prop} [Decidable condition] {first second : Session α} :
    (if condition then first else second).Uses uses ↔
      (condition → first.Uses uses) ∧ (¬ condition → second.Uses uses) := by
  split <;> simp [*]

@[simp] theorem config_uses : Session.config.Uses uses := by simp [Session.config, Request.use?]

@[simp] theorem read_uses (see : View → α) : (read see).Uses uses := by simp [read, Request.use?]

@[simp] theorem trace_uses (line : View → String) : (trace line).Uses uses := by simp [trace, Request.use?]

@[simp] theorem normalize_uses (name : String) : (normalize name).Uses uses := by simp [normalize]

@[simp] theorem lookup_uses (name : String) : (lookup name).Uses uses := by simp [lookup]

@[simp] theorem freshVar_uses (given : [.issue] ⊆ uses) (mutability : Mutability) :
    (freshVar mutability).Uses uses := by
  simpa [freshVar, Request.use?] using given

@[simp] theorem postpone_uses (given : [.defer] ⊆ uses) (obligation : Obligation) :
    (postpone obligation).Uses uses := by
  simpa [postpone, Request.use?] using given

@[simp] theorem consult_uses (given : [.consult] ⊆ uses) (pattern text : String) :
    (consult pattern text).Uses uses := by
  simpa [consult, Request.use?] using given

@[simp] theorem declare_uses (given : [.declare] ⊆ uses) (name : String) (template : Template) :
    (declare name template).Uses uses := by
  simpa [declare, Request.use?] using given

private theorem assignN_uses (given : [.bind, .defer] ⊆ uses) (depth : Nat) (expected found : Ty) :
    (assignN depth expected found).Uses uses := by
  simp only [List.cons_subset, List.nil_subset, and_true] at given
  induction depth generalizing expected found with
  | zero => trivial
  | succ depth ih =>
    simp only [assignN, boundTo, uses_ite, uses_bind, uses_pure, read_uses, true_and, implies_true]
    intro _ bound
    split
    next => exact ih _ _
    next =>
      simp only [uses_bind, read_uses, true_and]
      intro bound'
      split
      next => exact ih _ _
      next =>
        unfold assignUnbound
        split <;> simp [solveVar, mismatch, Request.use?, given, ih]

@[simp] theorem assign_uses (given : [.bind, .defer] ⊆ uses) (expected found : Ty) :
    (assign expected found).Uses uses := by
  simp [assign, assignN_uses given]

@[simp] theorem splitFunction_uses (given : [.issue, .bind, .defer] ⊆ uses) (type : Ty) :
    (splitFunction type).Uses uses := by
  simp only [List.cons_subset, List.nil_subset, and_true] at given
  simp only [splitFunction, uses_bind, read_uses, true_and]
  intro subst
  split <;> simp [given]

private theorem instanceWith_uses (given : [.issue, .defer] ⊆ uses) {follow : Ty → Session Ty}
    (follows : ∀ type, (follow type).Uses uses) (params : List (String × Ty)) (type : Ty) :
    (instanceWith params follow type).Uses uses := by
  simp only [List.cons_subset, List.nil_subset, and_true] at given
  induction type with
  | arrow domain codomain left right => simp [instanceWith, left, right]
  | var v =>
    simp only [instanceWith, uses_bind, read_uses, true_and]
    intro bound
    cases bound <;> simp [follows, given]
  | atom a => cases a <;> simp [instanceWith]
  | missing => simp [instanceWith]

@[simp] theorem instanceOf_uses (given : [.issue, .defer] ⊆ uses) (params : List (String × Ty)) (type : Ty) :
    (instanceOf params type).Uses uses := by
  have instances (steps : Nat) : (instanceN params steps type).Uses uses := by
    induction steps generalizing type with
    | zero => simp [instanceN]
    | succ steps ih => exact instanceWith_uses given (fun type => ih type) params type
  simp [instanceOf, instances]

@[simp] theorem freshParams_uses (given : [.issue] ⊆ uses) (params : List String) : (freshParams params).Uses uses := by
  simp only [List.cons_subset, List.nil_subset, and_true] at given
  induction params with
  | nil => simp [freshParams]
  | cons param rest ih => simp [freshParams, given, ih]

@[simp] theorem instantiate_uses (given : [.issue, .defer] ⊆ uses) (name : String) (template : Template) :
    (instantiate name template).Uses uses := by
  simp only [List.cons_subset, List.nil_subset, and_true] at given
  simp [instantiate, given]

@[simp] theorem conform_uses (given : [.consult, .defer] ⊆ uses) (literal : Option Literal) (type : Ty) :
    (conform literal type).Uses uses := by
  simp only [List.cons_subset, List.nil_subset, and_true] at given
  simp only [conform, uses_bind, read_uses, true_and]
  intro subst
  split
  next => simp [given]
  next => simp
  next => simp
  next => simp
  next => simp
  next =>
    simp only [uses_bind, consult_uses, given, List.cons_subset, List.nil_subset, and_self, true_and]
    intro answer
    split <;> simp
  next =>
    unfold reject
    split <;> simp

@[simp] theorem discharge_uses (given : [.issue, .bind, .defer, .consult] ⊆ uses) (obligation : Obligation) :
    (discharge obligation).Uses uses := by
  simp only [List.cons_subset, List.nil_subset, and_true] at given
  cases obligation with
  | conforms | assignable => simp [discharge, given]
  | instantiated params fresh generic =>
    simp only [discharge, uses_bind, read_uses, true_and]
    intro bound
    cases bound <;> simp [given]

@[simp] theorem dischargeAll_uses (given : [.issue, .bind, .defer, .consult] ⊆ uses) (obligations : List Obligation) :
    (dischargeAll obligations).Uses uses := by
  induction obligations with
  | nil => simp [dischargeAll]
  | cons obligation rest ih => simp [dischargeAll, discharge_uses given, ih]

@[simp] theorem stuck_uses (final : Bool) : (stuck final).Uses uses := by simp [stuck]

private theorem solveFrom_uses (given : [.issue, .bind, .defer, .consult, .clear] ⊆ uses) (final : Bool)
    (limit round : Nat) : (solveFrom final limit round).Uses uses := by
  simp only [List.cons_subset, List.nil_subset, and_true] at given
  induction limit generalizing round with
  | zero => unfold solveFrom; simp
  | succ limit ih => unfold solveFrom; simp [Request.use?, given, ih]

@[simp] theorem solve_uses (given : [.issue, .bind, .defer, .consult, .clear] ⊆ uses) (final : Bool) :
    (solve final).Uses uses := by
  simp [solve, solveFrom_uses given]

@[simp] theorem lower_uses (given : [.issue] ⊆ uses) (mutability : Mutability) (type : TypeExpr) :
    (lower mutability type).Uses uses := by
  induction type with
  | arrow domain codomain left right => simp [lower, left, right]
  | wildcard | missing => simp [lower, freshVar_uses given]
  | bool | regex | range _ _ | string _ | named _ | invalid | foreign _ => simp [lower]

@[simp] theorem bindPat_uses (given : [.declare, .consult, .defer] ⊆ uses) (pat : Pat) (type : Ty) :
    (bindPat pat type).Uses uses := by
  simp only [List.cons_subset, List.nil_subset, and_true] at given
  cases pat <;> simp [bindPat, given]

@[simp] theorem reference_uses (given : [.issue, .defer, .warn] ⊆ uses) (label : String) :
    (reference label).Uses uses := by
  simp only [List.cons_subset, List.nil_subset, and_true] at given
  simp only [reference, uses_bind, normalize_uses, lookup_uses, true_and]
  intro name template
  cases template <;> simp [Request.use?, given]

private theorem uses_settle {step : Session (Typed Ty)} (given : [.bind, .defer] ⊆ uses) (step_uses : step.Uses uses)
    (expr : Expr) (expected : Option Ty) : (settle expr expected step).Uses uses := by
  simp only [settle, uses_bind, step_uses, true_and]
  intro result
  cases expected <;> simp [assign_uses given]

/-- Induction along the checking of an expression, one case for each form and mode. -/
theorem elaborate_induction {motive : Expr → Option Ty → Prop}
    (anno : ∀ expr type expected, (∀ type, motive expr (some type)) → motive (.anno expr type) expected)
    (lamFound : ∀ pat body, motive (.lam pat body) none)
    (lam : ∀ pat body type, (∀ codomain, motive body (some codomain)) → motive (.lam pat body) (some type))
    (letElse : ∀ pat bound thenBranch elseBranch expected, motive bound none → motive thenBranch expected →
      (∀ found : Typed Ty, motive elseBranch (some (expected.getD found.type))) →
      motive (.letElse pat bound thenBranch elseBranch) expected)
    (call : ∀ func arg expected, motive func none → (∀ domain, motive arg (some domain)) →
      motive (.call func arg) expected)
    (bool : ∀ value expected, motive (.lit (some (.bool value))) expected)
    (regex : ∀ source expected, motive (.lit (some (.regex source))) expected)
    (literal : ∀ value type, (∀ truth, value ≠ .bool truth) → (∀ source, value ≠ .regex source) →
      motive (.lit (some value)) (some type))
    (literalFound : ∀ value, (∀ truth, value ≠ .bool truth) → (∀ source, value ≠ .regex source) →
      motive (.lit (some value)) none)
    (absent : ∀ expected, motive (.lit none) expected)
    (name : ∀ label expected, motive (.name label) expected)
    (op : ∀ operator args expected, motive (.op operator args) expected)
    (impossible : ∀ expected, motive .impossible expected)
    (invalid : ∀ expected, motive .invalid expected)
    (foreign : ∀ form expected, motive (.foreign form) expected)
    (missing : ∀ expected, motive .missing expected) (expr : Expr) (expected : Option Ty) :
    motive expr expected :=
  elaborate.induct motive anno lamFound lam letElse call bool regex literal literalFound absent name op
    impossible invalid foreign missing expr expected

theorem elaborate_literal {value : Literal} (type : Ty) (notBool : ∀ truth, value ≠ .bool truth)
    (notRegex : ∀ source, value ≠ .regex source) :
    elaborate (.lit (some value)) (some type) = do
      locatedAt (.lit (some value)) (conform (some value) type)
      return .lit type value := by
  rw [elaborate]
  · exact notBool
  · exact notRegex

theorem elaborate_literalFound {value : Literal} (notBool : ∀ truth, value ≠ .bool truth)
    (notRegex : ∀ source, value ≠ .regex source) :
    elaborate (.lit (some value)) none =
      locatedAt (.lit (some value)) (refuse (.literalNeedsType value)) := by
  rw [elaborate]
  · exact notBool
  · exact notRegex

@[simp] theorem elaborate_uses (given : [.issue, .bind, .defer, .consult, .warn, .scope] ⊆ uses) (expr : Expr)
    (expected : Option Ty) : (elaborate expr expected).Uses uses := by
  simp only [List.cons_subset, List.nil_subset, and_true] at given
  obtain ⟨issue, bind, defer, consult, warn, scope⟩ := given
  have settled : [.bind, .defer] ⊆ uses := by simp [bind, defer]
  induction expr, expected using elaborate_induction generalizing uses with
  | anno expr type expected ih =>
    rw [elaborate]
    exact uses_settle settled (by simp [*]) _ _
  | lam pat body type ih =>
    rw [elaborate]
    simp [*]
  | letElse pat bound thenBranch elseBranch expected first second third =>
    rw [elaborate]
    simp [*]
  | call func arg expected first second =>
    rw [elaborate]
    exact uses_settle settled (by simp [*]) _ _
  | literal value type notBool notRegex =>
    rw [elaborate_literal type notBool notRegex]
    simp [*]
  | literalFound value notBool notRegex =>
    rw [elaborate_literalFound notBool notRegex]
    simp
  | name label expected => rw [elaborate]; exact uses_settle settled (by simp [*]) _ _
  | bool | regex | impossible | invalid => rw [elaborate]; exact uses_settle settled (by simp) _ _
  | lamFound | op | absent | foreign | missing => rw [elaborate]; simp

@[simp] theorem intern_uses (given : [.intern] ⊆ uses) (entry : Entry) : (intern entry).Uses uses := by
  simpa [intern, Request.use?] using given

@[simp] theorem showType_uses (id : TypeId) : (showType id).Uses uses := by
  simp only [showType, uses_bind, read_uses, true_and]
  intro text
  split <;> simp

private theorem uses_remember {resolve : Session TypeId} (given : [.memo] ⊆ uses) (resolve_uses : resolve.Uses uses)
    (type : Ty) : (remember type resolve).Uses uses := by
  simp only [List.cons_subset, List.nil_subset, and_true] at given
  simp only [remember, uses_bind, read_uses, true_and]
  intro known
  cases known <;> simp [Request.use?, given, resolve_uses]

private theorem typeIdWith_uses (given : [.intern, .memo] ⊆ uses) {follow : Ty → Session TypeId}
    (follows : ∀ type, (follow type).Uses uses) (type : Ty) : (typeIdWith follow type).Uses uses := by
  simp only [List.cons_subset, List.nil_subset, and_true] at given
  have memo : [.memo] ⊆ uses := by simp [given]
  induction type with
  | var v =>
    refine uses_remember memo ?_ _
    simp only [uses_bind, read_uses, true_and]
    intro bound
    cases bound <;> simp [follows]
  | arrow domain codomain left right => exact uses_remember memo (by simp [left, right, given]) _
  | atom a => exact uses_remember memo (by simp [given]) _
  | missing => exact uses_remember memo (by simp) _

@[simp] theorem typeId_uses (given : [.intern, .memo] ⊆ uses) (type : Ty) : (typeId type).Uses uses := by
  have resolved (steps : Nat) : (typeIdN steps type).Uses uses := by
    induction steps generalizing type with
    | zero => exact typeIdWith_uses given (by simp) type
    | succ steps ih => exact typeIdWith_uses given (fun type => ih type) type
  simp [typeId, resolved]

@[simp] theorem forgetTypes_uses (given : [.memo] ⊆ uses) : forgetTypes.Uses uses := by
  simpa [forgetTypes, Request.use?] using given

@[simp] theorem resolveTypes_uses (given : [.intern, .memo] ⊆ uses) (typed : Typed Ty) :
    (resolveTypes typed).Uses uses := by
  induction typed <;> simp [resolveTypes, typeId_uses given, *]

@[simp] theorem validate_uses (seen : List String) (decls : List (Option Decl)) : (validate seen decls).Uses uses := by
  induction decls generalizing seen with
  | nil => simp [validate]
  | cons decl rest ih =>
    cases decl with
    | none => simp [validate]
    | some decl =>
      simp only [validate, refuseDecl, uses_bind, normalize_uses, true_and]
      intro name
      split <;> simp only [uses_bind, uses_fail, config_uses, true_and] <;> intros
      all_goals
        split
        next => simp
        next => split <;> simp [ih]

@[simp] theorem generalize_uses (params : List String) (type : Ty) : (generalize params type).Uses uses := by
  simp [generalize]

@[simp] theorem enterDecl_uses (given : [.enter] ⊆ uses) (name : String) : (enterDecl name).Uses uses := by
  simpa [enterDecl, Request.use?] using given

@[simp] theorem declareAll_uses (given : [.enter, .issue, .declare] ⊆ uses) (named : List NamedDecl) :
    (declareAll named).Uses uses := by
  simp only [List.cons_subset, List.nil_subset, and_true] at given
  induction named with
  | nil => simp [declareAll]
  | cons decl rest ih => simp [declareAll, given, ih]

@[simp] theorem traceRecursion_uses (components : List (List Nat)) : (traceRecursion components).Uses uses := by
  induction components with
  | nil => simp [traceRecursion]
  | cons component rest ih => simp [traceRecursion, ih]

@[simp] theorem checkingOrder_uses (decls : List Decl) : (checkingOrder decls).Uses uses := by
  simp only [checkingOrder, uses_bind, config_uses, true_and]
  intro config
  split
  next => simp
  next => split <;> simp

@[simp] theorem prepare_uses (given : [.enter, .issue, .declare] ⊆ uses) (decls : List (Option Decl)) :
    (prepare decls).Uses uses := by
  simp [prepare, declareAll_uses given]

@[simp] theorem define_uses (given : [.issue, .bind, .defer, .consult, .warn, .clear, .enter, .scope] ⊆ uses)
    (declared : DeclaredDecl) : (define declared).Uses uses := by
  simp only [List.cons_subset, List.nil_subset, and_true] at given
  simp [define, check, given]

@[simp] theorem defineAll_uses (given : [.issue, .bind, .defer, .consult, .warn, .clear, .enter, .scope] ⊆ uses)
    (declared : List DeclaredDecl) (order : List Nat) : (defineAll declared order).Uses uses := by
  induction order with
  | nil => simp [defineAll]
  | cons index rest ih =>
    unfold defineAll
    split <;> simp [define_uses given, ih]

@[simp] theorem elaborateAll_uses
    (given : [.issue, .bind, .declare, .defer, .consult, .warn, .clear, .enter, .scope] ⊆ uses)
    (decls : List (Option Decl)) :
    (elaborateAll decls).Uses uses := by
  simp only [List.cons_subset, List.nil_subset, and_true] at given
  simp [elaborateAll, given]

@[simp] theorem traceScope_uses (entries : List (String × Template)) : (traceScope entries).Uses uses := by
  induction entries with
  | nil => simp [traceScope]
  | cons entry rest ih => simp [traceScope, ih]

@[simp] theorem finish_uses (given : [.intern, .memo, .enter] ⊆ uses) (declared : DeclaredDecl) (body : Typed Ty) :
    (finish declared body).Uses uses := by
  simp only [List.cons_subset, List.nil_subset, and_true] at given
  simp [finish, given]

@[simp] theorem finishAll_uses (given : [.intern, .memo, .enter] ⊆ uses) (bodies : List (Nat × Typed Ty)) (index : Nat)
    (declared : List DeclaredDecl) : (finishAll bodies index declared).Uses uses := by
  induction declared generalizing index with
  | nil => simp [finishAll]
  | cons decl rest ih =>
    unfold finishAll
    split <;> simp [finish_uses given, ih]

@[simp] theorem resolveAll_uses (given : [.intern, .memo, .enter, .warnings] ⊆ uses) (declared : List DeclaredDecl)
    (bodies : List (Nat × Typed Ty)) : (resolveAll declared bodies).Uses uses := by
  simp only [List.cons_subset, List.nil_subset, and_true] at given
  simp [resolveAll, Request.use?, given]

end RefinementTypes.Checking.Session
