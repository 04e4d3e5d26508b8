import RefinementTypes.Checking.Session

/-! Instances of templates. A variable in a template that is not bound yet gets a fresh copy, which is
tied to what the variable comes to be bound to by an obligation. -/

namespace RefinementTypes.Checking.Session

/-- Replaces parameters in a type, each binding being put through `follow`. -/
def instanceWith (params : List (String × Ty)) (follow : Ty → Session Ty) : Ty → Session Ty
  | .arrow domain codomain => do
    let first ← instanceWith params follow domain
    let second ← instanceWith params follow codomain
    return .arrow first second
  | .var v => do
    match ← read fun view => view.subst.lookup v.id with
    | some bound => follow bound
    | none =>
      let fresh ← freshVar .mutable
      postpone (.instantiated params fresh v)
      return .var fresh
  | .atom (.named name) => return (params.lookup name).getD (.atom (.named name))
  | type => return type

def instanceN (params : List (String × Ty)) : Nat → Ty → Session Ty
  | 0, type => return type
  | steps + 1, type => instanceWith params (instanceN params steps) type

def instanceOf (params : List (String × Ty)) (type : Ty) : Session Ty := do
  let subst ← read View.subst
  instanceN params (subst.size + 1) type

/-- Pairs each parameter with a fresh variable; of parameters with one name the last counts. -/
def freshParams : List String → Session (List (String × Ty))
  | [] => return []
  | param :: rest => do
    let var ← freshVar .mutable
    let others ← freshParams rest
    return if others.any fun other => other.1 = param then others else (param, .var var) :: others

/-- The type of one reference to a name. A template without parameters has one type for all. -/
def instantiate (name : String) (template : Template) : Session Ty := do
  if template.params.isEmpty then return template.type
  let params ← freshParams template.params
  let type ← instanceOf params template.type
  trace fun view =>
    "instantiate " ++ name ++ " : " ++ (view.subst.apply template.type).render ++ " as " ++
      (view.subst.apply type).render
  return type

end RefinementTypes.Checking.Session
