import RefinementTypes.Proofs.Coverage

/-! What is known of declarations before their bodies are checked. Those that pass validation are there and
are listed under their normalised names, each name that is declared stands for its template, and the order
in which bodies are checked leaves none out. -/

namespace RefinementTypes

/-- No part of a written type is left to be found. -/
def TypeExpr.WildcardFree : TypeExpr → Prop
  | arrow domain codomain => domain.WildcardFree ∧ codomain.WildcardFree
  | wildcard | missing => False
  | bool | regex | range _ _ | string _ | named _ | invalid | foreign _ => True

/-- The type and the body of a declaration are of known forms. -/
structure Decl.Native (decl : Decl) : Prop where
  type : decl.type.Native
  body : decl.body.Native

private theorem Pat.Native.binders {pat : Pat} (native : pat.Native) : ∃ names, pat.binders = .ok names := by
  induction pat with
  | apply func arg left right =>
    obtain ⟨first, same⟩ := left native.1
    obtain ⟨second, same'⟩ := right native.2
    exact ⟨first ++ second, by rw [Pat.binders, same, same']; rfl⟩
  | foreign form => exact native.elim
  | wildcard | bind | constructor | lit | missing => exact ⟨_, rfl⟩

namespace Dependencies

/-- However a step of a scan fails, it is not with a fault. -/
def Faultless (step : Scanner Unit) : Prop := ∀ scan cause, (step scan).1 ≠ .error (.fault cause)

theorem Faultless.pure : Faultless (Pure.pure ()) := fun _ _ failed => by cases failed

private theorem Faultless.bind {first : Scanner Unit} {rest : Unit → Scanner Unit} (faultless : Faultless first)
    (faultless' : ∀ value, Faultless (rest value)) : Faultless (first >>= rest) := by
  intro scan cause failed
  change (ExceptT.bindCont rest (first scan).1 (first scan).2).1 = _ at failed
  cases outcome : (first scan).1 with
  | error problem =>
    rw [outcome] at failed
    cases failed
    exact faultless scan cause outcome
  | ok value =>
    rw [outcome] at failed
    exact faultless' value _ cause failed

private theorem inScopeOf_faultless (normalize : String → String) {pat : Pat} (native : pat.Native)
    {step : Scanner Unit} (faultless : Faultless step) : Faultless (inScopeOf normalize pat step) := by
  intro scan cause failed
  obtain ⟨names, same⟩ := native.binders
  simp only [inScopeOf, same] at failed
  exact faultless _ cause failed

mutual

private theorem scanExpr_faultless (normalize : String → String) (current : Nat) (expr : Expr) (native : expr.Native) :
    Faultless (scanExpr normalize current expr) := by
  cases expr with
  | name label => rw [scanExpr]; exact fun _ _ failed => by cases failed
  | anno expr type => rw [scanExpr]; exact scanExpr_faultless normalize current expr native.1
  | lam pat body =>
    rw [scanExpr]
    exact inScopeOf_faultless normalize native.1 (scanExpr_faultless normalize current body native.2)
  | letElse pat bound thenBranch elseBranch =>
    obtain ⟨here, first, second, third⟩ := native
    rw [scanExpr]
    refine .bind (scanExpr_faultless normalize current bound first) fun _ => inScopeOf_faultless normalize here ?_
    exact .bind (scanExpr_faultless normalize current thenBranch second) fun _ =>
      scanExpr_faultless normalize current elseBranch third
  | call func arg =>
    rw [scanExpr]
    exact .bind (scanExpr_faultless normalize current func native.1) fun _ =>
      scanExpr_faultless normalize current arg native.2
  | op operator args => rw [scanExpr]; exact scanAll_faultless normalize current args native
  | lit | impossible | invalid => rw [scanExpr]; exact .pure
  | foreign => exact native.elim
  | missing => rw [scanExpr]; exact fun _ _ failed => by cases failed

theorem scanAll_faultless (normalize : String → String) (current : Nat) (exprs : List Expr)
    (native : Expr.AllNative exprs) : Faultless (scanAll normalize current exprs) := by
  cases exprs with
  | nil => rw [scanAll]; exact .pure
  | cons expr rest =>
    rw [scanAll]
    exact .bind (scanExpr_faultless normalize current expr native.1) fun _ =>
      scanAll_faultless normalize current rest native.2

end

private theorem scanDecls_faultless (normalize : String → String) (current : Nat) {decls : List Decl}
    (native : ∀ decl ∈ decls, decl.Native) : Faultless (scanDecls normalize current decls) := by
  induction decls generalizing current with
  | nil => exact .pure
  | cons decl rest ih =>
    obtain ⟨first, others⟩ := List.forall_mem_cons.mp native
    exact .bind (scanExpr_faultless normalize current decl.body first.body) fun _ => ih _ others

theorem analyze_faultless (normalize : String → String) {decls : List Decl} (native : ∀ decl ∈ decls, decl.Native)
    (cause : Fault) : (analyze normalize decls).problem ≠ some (.fault cause) := by
  intro failed
  unfold analyze at failed
  split at failed
  next => cases failed
  next problem scan scanned =>
    cases failed
    exact scanDecls_faultless normalize 0 native _ cause (by rw [scanned])

end Dependencies

namespace Checking.Session

variable {α : Type} {leaf : Ty → Prop} {config : Config} {before after : State}

theorem Quiet.enterDecl (name : String) : Quiet (Session.enterDecl name) config before fun _ => True :=
  ⟨⟨rfl, rfl, rfl, rfl, rfl, rfl, rfl⟩, fun _ _ => trivial⟩

theorem withinDecl_ok {step : Session α} {value : α}
    (run : withinDecl step config before = (.ok value, after)) : step config before = (.ok value, after) :=
  mapError_ok run

theorem validate_quiet (seen : List String) (decls : List (Option Decl)) :
    Quiet (validate seen decls) config before fun named =>
      decls = named.map (fun named => some named.decl) ∧
        ∀ decl ∈ named, decl.name = config.normalize decl.decl.name := by
  induction decls generalizing seen before with
  | nil => exact .pure ⟨rfl, fun _ member => by cases member⟩
  | cons decl rest ih =>
    cases decl with
    | none => exact .fail
    | some decl =>
      refine .bind (normalize_quiet decl.name) fun name _ same => ?_
      dsimp only
      split
      next => exact .bind .fail fun _ _ => False.elim
      next =>
        apply Quiet.asking
        split
        next => exact .fail
        next =>
          split
          next => exact .fail
          next =>
            refine .bind (ih _) fun others _ facts => .pure ⟨?_, List.forall_mem_cons.mpr ⟨same, facts.2⟩⟩
            rw [List.map_cons, ← facts.1]

private theorem traceRecursion_quiet (components : List (List Nat)) :
    Quiet (traceRecursion components) config before fun _ => True := by
  induction components generalizing before with
  | nil => exact .pure trivial
  | cons component rest ih =>
    unfold traceRecursion
    dsimp only
    split
    next => exact .bind (.trace _) fun _ _ _ => ih
    next => exact ih

theorem checkingOrder_quiet (decls : List Decl) :
    Quiet (checkingOrder decls) config before fun _ => True := by
  apply Quiet.asking
  split
  next => exact .pure trivial
  next =>
    dsimp only
    split
    next => exact .fail
    next => exact .fail
    next => exact .bind (traceRecursion_quiet _) fun _ _ _ => .pure trivial

theorem traceScope_quiet (entries : List (String × Template)) :
    Quiet (traceScope entries) config before fun _ => True := by
  induction entries generalizing before with
  | nil => exact .pure trivial
  | cons entry rest ih => exact .bind (.trace _) fun _ _ _ => ih

/-- A written type without wildcards has no variables. -/
theorem lower_closed {mutability : Mutability} {type : TypeExpr} {result : Ty} (free : type.WildcardFree)
    (run : lower mutability type config before = (.ok result, after)) : result.vars = [] := by
  induction type generalizing result before after with
  | arrow domain codomain left right =>
    obtain ⟨first, _, early, run⟩ := bind_ok run
    obtain ⟨second, _, late, run⟩ := bind_ok run
    cases run
    simp [Ty.vars, left free.1 early, right free.2 late]
  | named name => cases run; rfl
  | wildcard | missing => exact free.elim
  | foreign form => cases run
  | bool | regex | range _ _ | string _ | invalid => cases run; rfl

theorem generalize_quiet (params : List String) (type : Ty) :
    Quiet (generalize params type) config before fun template =>
      template = ⟨params.map config.normalize, type.setMutability .immutable⟩ :=
  .asking (.pure rfl)

def signature (config : Config) (declared : DeclaredDecl) : String × Template :=
  (config.normalize declared.name,
    ⟨declared.decl.params.map config.normalize, declared.type.setMutability .immutable⟩)

/-- What names stand for once they have been declared; of two declarations found under one name the
last counts. -/
theorem declareAll_ok {named : List NamedDecl} {declared : List DeclaredDecl}
    (run : declareAll named config before = (.ok declared, after)) :
    declared.map DeclaredDecl.toNamedDecl = named ∧
      (∀ decl ∈ declared, decl.decl.type.WildcardFree → decl.type.vars = []) ∧
      ∀ key, after.scope.find? key =
        ((declared.map (signature config)).reverse.lookup key).or (before.scope.find? key) := by
  induction named generalizing declared before after with
  | nil =>
    cases run
    exact ⟨rfl, fun _ member => (by cases member), fun _ => rfl⟩
  | cons decl rest ih =>
    obtain ⟨_, _, first, run⟩ := bind_ok run
    cases first
    obtain ⟨type, _, lowered, run⟩ := bind_ok run
    obtain ⟨_, _, generic, run⟩ := bind_ok run
    cases generic
    obtain ⟨_, inserted, second, run⟩ := bind_ok run
    cases second
    obtain ⟨_, _, third, run⟩ := bind_ok run
    obtain ⟨others, _, again, run⟩ := bind_ok run
    cases run
    obtain ⟨same, closed, found⟩ := ih again
    refine ⟨by rw [List.map_cons, same], ?_, fun key => ?_⟩
    · exact List.forall_mem_cons.mpr ⟨fun free => lower_closed free lowered, closed⟩
    · rw [found key, ((Quiet.trace _).result third).1.scope, List.map_cons, List.reverse_cons]
      rw [List.lookup_append, Option.or_assoc]
      congr 1
      change (NameMap.insert _ _ _).find? key = _
      rw [NameMap.find?_insert, signature, lookup_cons_ite]
      split
      next => rfl
      next =>
        rw [((lower_uses (.refl _) _ _).leaves lowered).scope (by decide)]
        rfl

theorem defineAll_places {declared : List DeclaredDecl} {order : List Nat} {bodies : List (Nat × Typed Ty)}
    (run : defineAll declared order config before = (.ok bodies, after)) : bodies.map Prod.fst = order := by
  induction order generalizing bodies before with
  | nil =>
    cases run
    rfl
  | cons index rest ih =>
    cases found : declared[index]? with
    | none =>
      simp only [defineAll, found] at run
      cases run
    | some decl =>
      simp only [defineAll, found] at run
      obtain ⟨body, _, _, run⟩ := bind_ok run
      obtain ⟨others, _, again, run⟩ := bind_ok run
      cases run
      rw [List.map_cons, ih again]

theorem checkingOrder_ok {decls : List Decl} {order : List Nat}
    (run : checkingOrder decls config before = (.ok order, after)) :
    config.sourceOrder = true ∧ order = List.range decls.length ∨
      config.sourceOrder = false ∧ (Dependencies.analyze config.normalize decls).problem = none ∧
        order = (Dependencies.analyze config.normalize decls).order := by
  obtain ⟨_, _, asked, run⟩ := bind_ok run
  cases asked
  cases chosen : config.sourceOrder with
  | true =>
    simp only [chosen, if_true] at run
    cases run
    exact .inl ⟨rfl, rfl⟩
  | false =>
    simp only [chosen, Bool.false_eq_true, if_false] at run
    cases problem : (Dependencies.analyze config.normalize decls).problem with
    | none =>
      simp only [problem] at run
      obtain ⟨_, _, _, run⟩ := bind_ok run
      cases run
      exact .inr ⟨rfl, rfl, rfl⟩
    | some problem' =>
      cases problem' <;> simp only [problem] at run <;> cases run

private theorem checkingOrder_perm {decls : List Decl} {order : List Nat}
    (run : checkingOrder decls config before = (.ok order, after)) : order.Perm (List.range decls.length) := by
  obtain ⟨_, rfl⟩ | ⟨_, problem, rfl⟩ := checkingOrder_ok run
  · exact .refl _
  · exact Dependencies.order_perm problem

/-- How declarations stand once names have been declared and bodies been put in order. -/
structure Readied (config : Config) (decls : List (Option Decl)) (before : State) (declared : List DeclaredDecl)
    (order : List Nat) (after : State) : Prop where
  listed : decls = declared.map fun decl => some decl.decl
  names : ∀ decl ∈ declared, decl.name = config.normalize decl.decl.name
  closed : ∀ decl ∈ declared, decl.decl.type.WildcardFree → decl.type.vars = []
  scope : ∀ key, after.scope.find? key =
    ((declared.map (signature config)).reverse.lookup key).or (before.scope.find? key)
  order : order.Perm (List.range declared.length)

theorem prepare_ok {decls : List (Option Decl)} {declared : List DeclaredDecl} {order : List Nat}
    (run : prepare decls config before = (.ok (declared, order), after)) :
    ∃ named validated known, validate [] decls config before = (.ok named, validated) ∧
      declareAll named config validated = (.ok declared, known) ∧ known.Alike after ∧
      (∃ reported, checkingOrder (named.map NamedDecl.decl) config reported = (.ok order, after)) := by
  obtain ⟨named, validated, first, run⟩ := bind_ok run
  obtain ⟨_, known, second, run⟩ := bind_ok run
  obtain ⟨_, reported, third, run⟩ := bind_ok run
  obtain ⟨_, ready, fourth, run⟩ := bind_ok run
  cases run
  have alike := ((Quiet.trace _).result third).1.trans ((checkingOrder_quiet _).result fourth).1
  exact ⟨named, validated, known, first, second, alike, reported, fourth⟩

theorem prepare_readied {decls : List (Option Decl)} {declared : List DeclaredDecl} {order : List Nat}
    (run : prepare decls config before = (.ok (declared, order), after)) :
    Readied config decls before declared order after := by
  obtain ⟨named, validated, known, first, second, alike, reported, chosen⟩ := prepare_ok run
  obtain ⟨alike', listed, names⟩ := (validate_quiet _ _).result first
  obtain ⟨rfl, closed, scope⟩ := declareAll_ok second
  refine ⟨by rw [listed, List.map_map]; rfl, ?_, closed, fun key => ?_, ?_⟩
  · exact fun decl member => names _ (List.mem_map_of_mem member)
  · rw [alike.scope, scope, alike'.scope]
  · simpa using checkingOrder_perm chosen

/-- Elaboration goes through preparation, the bodies and a last run of the solver. -/
theorem elaborateAll_phases {decls : List (Option Decl)} {declared : List DeclaredDecl}
    {bodies : List (Nat × Typed Ty)} (run : elaborateAll decls config before = (.ok (declared, bodies), after)) :
    ∃ order ready defined, prepare decls config before = (.ok (declared, order), ready) ∧
      defineAll declared order config ready = (.ok bodies, defined) ∧
      solve true config { defined with decl := "" } = (.ok (), after) := by
  obtain ⟨⟨_, order⟩, ready, prepared, run⟩ := bind_ok run
  obtain ⟨_, defined, checked, run⟩ := bind_ok run
  obtain ⟨_, _, left, run⟩ := bind_ok run
  cases left
  obtain ⟨_, _, solved, run⟩ := bind_ok run
  cases run
  exact ⟨order, ready, defined, prepared, checked, solved⟩

theorem defineAll_lookup {declared : List DeclaredDecl} {order : List Nat} {bodies : List (Nat × Typed Ty)}
    (all : order.Perm (List.range declared.length))
    (run : defineAll declared order config before = (.ok bodies, after)) {index : Nat} {decl : DeclaredDecl}
    (placed : declared[index]? = some decl) : ∃ body, bodies.lookup index = some body := by
  have less := (List.getElem?_eq_some_iff.mp placed).1
  have ordered : index ∈ bodies.map Prod.fst := by
    rw [defineAll_places run, all.mem_iff, List.mem_range]
    exact less
  obtain ⟨body, member, same⟩ := List.mem_map.mp ordered
  cases found : bodies.lookup index with
  | some body => exact ⟨body, rfl⟩
  | none => simpa [same] using List.lookup_eq_none_iff.mp found body member

theorem elaborateAll_lookup {decls : List (Option Decl)} {declared : List DeclaredDecl}
    {bodies : List (Nat × Typed Ty)} (run : elaborateAll decls config before = (.ok (declared, bodies), after))
    {index : Nat} {decl : DeclaredDecl} (placed : declared[index]? = some decl) :
    ∃ body, bodies.lookup index = some body := by
  obtain ⟨order, ready, defined, prepared, checked, _⟩ := elaborateAll_phases run
  exact defineAll_lookup (prepare_readied prepared).order checked placed

/-- What is known of declarations once names have been declared where there were none. -/
structure Declared (config : Config) (decls : List (Option Decl)) (declared : List DeclaredDecl)
    (state : State) : Prop where
  listed : decls = declared.map fun decl => some decl.decl
  names : ∀ decl ∈ declared, decl.name = config.normalize decl.decl.name
  closed : ∀ decl ∈ declared, decl.decl.type.WildcardFree → decl.type.vars = []
  scope : ∀ key, state.scope.find? key = (declared.map (signature config)).reverse.lookup key

theorem Declared.mem {decls : List (Option Decl)} {declared : List DeclaredDecl} {state : State}
    (facts : Declared config decls declared state) {decl : DeclaredDecl} (member : decl ∈ declared) :
    some decl.decl ∈ decls := by
  rw [facts.listed]
  exact List.mem_map_of_mem member

theorem Declared.same {decls : List (Option Decl)} {declared : List DeclaredDecl} {state other : State}
    (facts : Declared config decls declared state) (same : other.scope = state.scope) :
    Declared config decls declared other :=
  ⟨facts.listed, facts.names, facts.closed, fun key => by rw [same, facts.scope]⟩

theorem Readied.declared {decls : List (Option Decl)} {declared : List DeclaredDecl} {order : List Nat}
    (readied : Readied config decls before declared order after) (empty : before.scope = .empty) :
    Declared config decls declared after where
  listed := readied.listed
  names := readied.names
  closed := readied.closed
  scope key := by rw [readied.scope key, empty]; simp [NameMap.find?, NameMap.empty]

/-- Declarations bring in no leaf that is not allowed, be it in what is written or by a name that is not
declared. -/
structure Within (leaf : Ty → Prop) (config : Config) (decls : List (Option Decl)) : Prop where
  types : ∀ decl, some decl ∈ decls → decl.type.Within leaf
  bodies : ∀ decl, some decl ∈ decls → decl.body.Within leaf
  names : ∀ decl, some decl ∈ decls → ∀ name ∈ decl.body.freeNames config.key,
    leaf (.atom .error) ∨ ∃ other, some other ∈ decls ∧ config.key other.name = name

theorem Within.of_error (reported : leaf (.atom .error)) {decls : List (Option Decl)}
    (possible : ∀ decl, some decl ∈ decls → leaf (.atom .bottom) ∨ decl.body.ImpossibleFree) :
    Within leaf config decls :=
  ⟨fun _ _ => .of_error reported _, fun decl member => .of_error reported _ (possible decl member),
    fun _ _ _ _ => .inl reported⟩

theorem Readied.known {decls : List (Option Decl)} {declared : List DeclaredDecl} {order : List Nat}
    (readied : Readied config decls before declared order after) (within : Within leaf config decls) :
    ∀ decl ∈ declared, Known leaf after.scope (decl.decl.body.freeNames config.key) := by
  have mem : ∀ decl ∈ declared, some decl.decl ∈ decls := fun decl member => by
    rw [readied.listed]
    exact List.mem_map_of_mem member
  intro decl member name inside
  refine (within.names decl.decl (mem decl member) name inside).imp_right fun ⟨other, listed, same⟩ => ?_
  rw [readied.listed] at listed
  obtain ⟨source, member', placed⟩ := List.mem_map.mp listed
  cases placed
  rw [readied.scope, Option.isSome_or, Bool.or_eq_true]
  refine .inl (List.lookup_isSome_iff.mpr ⟨signature config source, ?_, ?_⟩)
  · exact List.mem_reverse.mpr (List.mem_map_of_mem member')
  · rw [← same, signature, readied.names _ member']
    exact beq_self_eq_true _

end Checking.Session

end RefinementTypes
