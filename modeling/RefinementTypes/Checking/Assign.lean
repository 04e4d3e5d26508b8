import RefinementTypes.Checking.Session

/-! Assignability: whether what is found can be used where a type is expected. Mutable variables are
bound on the spot; a comparison with an unbound immutable variable is left to the solver. -/

namespace RefinementTypes.Checking.Session

def mismatch {α : Type} (expected found : Ty) : Session α := do
  let subst ← read View.subst
  refuse (.mismatch (subst.apply expected) (subst.apply found))

def solveVar (var : TyVar) (type : Ty) : Session Unit := do
  request (.bind var.id type)
  trace fun view => "bind " ++ var.label ++ " := " ++ (view.subst.apply type).render

/-- Compares two types, of which the first is no bound variable and the second none either. -/
def assignUnbound (assign : Ty → Ty → Session Unit) (expected found : Ty) : Session Unit :=
  match expected, found with
  | .var v, .var w =>
    if v.isMutable then solveVar v found
    else if w.isMutable then solveVar w expected
    else postpone (.assignable expected found)
  | .var v, _ => if v.isMutable then solveVar v found else postpone (.assignable expected found)
  | _, .var w => if w.isMutable then solveVar w expected else postpone (.assignable expected found)
  | .arrow domain codomain, .arrow domain' codomain' => do
    -- The function that is found must take at least what is expected of it.
    assign domain' domain
    assign codomain codomain'
  | _, _ =>
    if expected = .atom .error ∨ found = .atom .error then pure () else mismatch expected found

def boundTo (type : Ty) : Session (Option Ty) := read fun view =>
  match type with
  | .var v => view.subst.lookup v.id
  | _ => none

def assignN : Nat → Ty → Ty → Session Unit
  | 0, _, _ => fault .depthLimit
  | depth + 1, expected, found => do
    if expected = found ∨ expected.sameVar found ∨ found = .atom .bottom then return
    match ← boundTo expected with
    | some bound => assignN depth bound found
    | none =>
      match ← boundTo found with
      | some bound => assignN depth expected bound
      | none => assignUnbound (assignN depth) expected found

/-- A depth that no comparison exceeds. Every type that is met is a part of the two types or of a
binding, new bindings are such parts too, and a path through them passes each variable once. -/
def assignDepth (s : Subst) (expected found : Ty) : Nat :=
  let total := expected.size + found.size + s.weight
  2 * (total + 1) * (total + 1)

def assign (expected found : Ty) : Session Unit := do
  let subst ← read View.subst
  assignN (assignDepth subst expected found) expected found

/-- The domain and codomain of a function type. An unbound variable is required to be a function type
over fresh variables. -/
def splitFunction (type : Ty) : Session (Ty × Ty) := do
  let subst ← read View.subst
  match subst.shallow type with
  | .arrow domain codomain => return (domain, codomain)
  | .var v =>
    let domain ← freshVar .mutable
    let codomain ← freshVar .mutable
    assign (.arrow (.var domain) (.var codomain)) (.var v)
    return (.var domain, .var codomain)
  | .atom .error => return (.atom .error, .atom .error)
  | other => refuse (.notFunction (subst.apply other))

end RefinementTypes.Checking.Session
