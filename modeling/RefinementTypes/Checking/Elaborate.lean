import RefinementTypes.Checking.Solve
import RefinementTypes.Checking.Typed

/-! Checking of expressions. An expression is checked against the type that is expected of it, or its
type is found where none is expected. -/

namespace RefinementTypes.Checking.Session

/-- The working type of a written one. Each wildcard becomes a fresh variable. -/
def lower (mutability : Mutability) : TypeExpr → Session Ty
  | .bool => return .atom .bool
  | .regex => return .atom .regex
  | .range low high => return .atom (.range low high)
  | .string pattern => return .atom (.string pattern)
  | .arrow domain codomain => do
    let first ← lower mutability domain
    let second ← lower mutability codomain
    return .arrow first second
  | .named name => return .atom (.named (← normalize name))
  | .wildcard | .missing => return .var (← freshVar mutability)
  | .invalid => return .atom .error
  | .foreign _ => fault .unknownTypeExpr

def bindPat (pat : Pat) (type : Ty) : Session Pat :=
  match pat with
  | .bind label => do
    let name ← normalize label
    declare name ⟨[], type⟩
    trace fun view => "bind " ++ name ++ " : " ++ (view.subst.apply type).render
    return .bind name
  | .lit value => do
    conform value type
    return .lit value
  | .wildcard => return .wildcard
  | .constructor name => refuse (.constructorPattern name)
  | .apply func arg => refuse (.constructorPattern (Pat.apply func arg).render)
  | .missing => refuse .missingPattern
  | .foreign _ => fault .unknownPat

/-- The type of a name. A name that is not in scope gives a warning and the type of errors. -/
def reference (label : String) : Session (Typed Ty) := do
  let name ← normalize label
  match ← lookup name with
  | some template => return .name (← instantiate name template) name
  | none =>
    request (.warn (.unknownName name) (.name label))
    trace fun _ => "unknown name " ++ name
    return .name (.atom .error) name

/-- Requires the type that a step finds to be usable where one is expected. -/
def settle (expr : Expr) (expected : Option Ty) (step : Session (Typed Ty)) : Session (Typed Ty) := do
  let result ← step
  match expected with
  | none => return result
  | some type =>
    locatedAt expr (assign type result.type)
    return result

/-- Checks an expression against the type expected of it, or finds its type if none is. -/
def elaborate : Expr → Option Ty → Session (Typed Ty)
  | .anno expr type, expected =>
    settle (.anno expr type) expected do
      let type ← lower .mutable type
      elaborate expr (some type)
  | .lam pat body, none => locatedAt (.lam pat body) (refuse .functionNeedsType)
  | .lam pat body, some type => do
    let (domain, codomain) ← locatedAt (.lam pat body) (splitFunction type)
    keepingScope do
      let pat' ← locatedAt (.lam pat body) (bindPat pat domain)
      let body' ← locatedAt (.lam pat body) (elaborate body (some codomain))
      return .lam type pat' body'
  | .letElse pat bound thenBranch elseBranch, expected => do
    let located {α : Type} (step : Session α) : Session α :=
      locatedAt (.letElse pat bound thenBranch elseBranch) step
    let bound' ← located (elaborate bound none)
    keepingScope do
      let pat' ← located (bindPat pat bound'.type)
      let thenBranch' ← located (elaborate thenBranch expected)
      let type := expected.getD thenBranch'.type
      let elseBranch' ← located (elaborate elseBranch (some type))
      return .letElse type pat' bound' thenBranch' elseBranch'
  | .call func arg, expected =>
    settle (.call func arg) expected do
      let func' ← locatedAt (.call func arg) (elaborate func none)
      let (domain, codomain) ← locatedAt (.call func arg) (splitFunction func'.type)
      let arg' ← locatedAt (.call func arg) (elaborate arg (some domain))
      return .call codomain func' arg'
  | .lit (some (.bool value)), expected =>
    settle (.lit (some (.bool value))) expected (return .lit (.atom .bool) (.bool value))
  | .lit (some (.regex source)), expected =>
    settle (.lit (some (.regex source))) expected (return .lit (.atom .regex) (.regex source))
  | .lit (some literal), some type => do
    locatedAt (.lit (some literal)) (conform (some literal) type)
    return .lit type literal
  | .lit (some literal), none =>
    locatedAt (.lit (some literal)) (refuse (.literalNeedsType literal))
  | .lit none, _ => fault .absent
  | .name label, expected => settle (.name label) expected (reference label)
  | .op operator args, _ => locatedAt (.op operator args) (refuse (.operator operator))
  | .impossible, expected => settle .impossible expected (return .impossible (.atom .bottom))
  | .invalid, expected => settle .invalid expected (return .invalid (.atom .error))
  | .foreign _, _ => fault .unknownExpr
  | .missing, _ => refuse .emptyExpression

def infer (expr : Expr) : Session (Typed Ty) := elaborate expr none

def check (expr : Expr) (type : Ty) : Session (Typed Ty) := elaborate expr (some type)

end RefinementTypes.Checking.Session
