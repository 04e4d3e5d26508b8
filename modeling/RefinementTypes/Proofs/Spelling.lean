import RefinementTypes.Dependencies.Analysis

/-! Canonical spelling. Names are compared after normalisation, so that a program may spell one name in several ways.
Where normalising twice is normalising once, a program and the one with all its names normalised have the same
dependencies. -/

namespace RefinementTypes

def Pat.canonical (normalize : String → String) : Pat → Pat
  | bind name => bind (normalize name)
  | apply func arg => apply (func.canonical normalize) (arg.canonical normalize)
  | wildcard => wildcard
  | constructor name => constructor name
  | lit value => lit value
  | foreign form => foreign form
  | missing => missing

def TypeExpr.canonical (normalize : String → String) : TypeExpr → TypeExpr
  | arrow domain codomain => arrow (domain.canonical normalize) (codomain.canonical normalize)
  | named name => named (normalize name)
  | bool => bool
  | regex => regex
  | range low high => range low high
  | string pattern => string pattern
  | wildcard => wildcard
  | invalid => invalid
  | foreign form => foreign form
  | missing => missing

namespace Expr

mutual
def canonical (normalize : String → String) : Expr → Expr
  | anno expr type => anno (expr.canonical normalize) (type.canonical normalize)
  | lam pat body => lam (pat.canonical normalize) (body.canonical normalize)
  | letElse pat bound thenBranch elseBranch =>
    letElse (pat.canonical normalize) (bound.canonical normalize) (thenBranch.canonical normalize)
      (elseBranch.canonical normalize)
  | call func arg => call (func.canonical normalize) (arg.canonical normalize)
  | name label => name (normalize label)
  | op operator args => op operator (canonicalAll normalize args)
  | lit value => lit value
  | impossible => impossible
  | invalid => invalid
  | foreign form => foreign form
  | missing => missing

def canonicalAll (normalize : String → String) : List Expr → List Expr
  | [] => []
  | expr :: rest => expr.canonical normalize :: canonicalAll normalize rest
end

end Expr

/-- A declaration with its name, its parameters and all names in its type and body normalised. -/
def Decl.canonical (normalize : String → String) (decl : Decl) : Decl where
  name := normalize decl.name
  params := decl.params.map normalize
  type := decl.type.canonical normalize
  body := decl.body.canonical normalize

variable {normalize : String → String}

private theorem Pat.binders_canonical (pat : Pat) :
    (pat.canonical normalize).binders = pat.binders.map (List.map normalize) := by
  induction pat with
  | apply func arg left right =>
    rw [Pat.canonical, Pat.binders, Pat.binders, left, right]
    cases func.binders with
    | error form => rfl
    | ok first =>
      cases arg.binders with
      | error form => rfl
      | ok second => exact congrArg Except.ok List.map_append.symm
  | wildcard | bind | constructor | lit | foreign | missing => rfl

theorem map_normalize_canonical (idempotent : ∀ name, normalize (normalize name) = normalize name)
    (names : List String) : (names.map normalize).map normalize = names.map normalize := by
  rw [List.map_map]
  exact List.map_congr_left fun name _ => idempotent name

namespace Dependencies

private theorem inScopeOf_canonical (idempotent : ∀ name, normalize (normalize name) = normalize name)
    (pat : Pat) (step : Scanner Unit) :
    inScopeOf normalize (pat.canonical normalize) step = inScopeOf normalize pat step := by
  funext scan
  unfold inScopeOf
  rw [pat.binders_canonical]
  cases pat.binders with
  | error form => rfl
  | ok names => simp only [Except.map, map_normalize_canonical idempotent, List.foldl_map]

mutual

private theorem scanExpr_canonical (idempotent : ∀ name, normalize (normalize name) = normalize name)
    (current : Nat) (expr : Expr) :
    scanExpr normalize current (expr.canonical normalize) = scanExpr normalize current expr := by
  cases expr with
  | name label => rw [Expr.canonical, scanExpr, scanExpr, idempotent]
  | anno expr type => rw [Expr.canonical, scanExpr, scanExpr, scanExpr_canonical idempotent current expr]
  | lam pat body =>
    rw [Expr.canonical, scanExpr, scanExpr, inScopeOf_canonical idempotent, scanExpr_canonical idempotent current body]
  | letElse pat bound thenBranch elseBranch =>
    rw [Expr.canonical, scanExpr, scanExpr, inScopeOf_canonical idempotent, scanExpr_canonical idempotent current bound,
      scanExpr_canonical idempotent current thenBranch, scanExpr_canonical idempotent current elseBranch]
  | call func arg =>
    rw [Expr.canonical, scanExpr, scanExpr, scanExpr_canonical idempotent current func,
      scanExpr_canonical idempotent current arg]
  | op operator args => rw [Expr.canonical, scanExpr, scanExpr, scanAll_canonical idempotent current args]
  | lit | impossible | invalid | foreign | missing => rw [Expr.canonical]

theorem scanAll_canonical (idempotent : ∀ name, normalize (normalize name) = normalize name)
    (current : Nat) (exprs : List Expr) :
    scanAll normalize current (Expr.canonicalAll normalize exprs) = scanAll normalize current exprs := by
  cases exprs with
  | nil => rw [Expr.canonicalAll]
  | cons expr rest =>
    rw [Expr.canonicalAll, scanAll, scanAll, scanExpr_canonical idempotent current expr,
      scanAll_canonical idempotent current rest]

end

private theorem scanDecls_canonical (idempotent : ∀ name, normalize (normalize name) = normalize name)
    (current : Nat) (decls : List Decl) :
    scanDecls normalize current (decls.map (Decl.canonical normalize)) = scanDecls normalize current decls := by
  induction decls generalizing current with
  | nil => rfl
  | cons decl rest ih =>
    rw [List.map_cons, scanDecls, scanDecls, ih]
    exact congrArg (· >>= _) (scanExpr_canonical idempotent current decl.body)

private theorem start_canonical (idempotent : ∀ name, normalize (normalize name) = normalize name)
    (decls : List Decl) :
    start normalize (decls.map (Decl.canonical normalize)) = start normalize decls := by
  unfold start
  rw [List.length_map, List.zipIdx_map, List.foldl_map]
  simp only [Prod.map, Decl.canonical, idempotent, id]

/-- Declarations have the dependencies of their canonical forms. -/
theorem analyze_canonical (idempotent : ∀ name, normalize (normalize name) = normalize name)
    (decls : List Decl) :
    analyze normalize (decls.map (Decl.canonical normalize)) = analyze normalize decls := by
  unfold analyze
  rw [scanDecls_canonical idempotent, start_canonical idempotent]

end Dependencies

end RefinementTypes
