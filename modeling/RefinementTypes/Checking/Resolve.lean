import RefinementTypes.Checking.Session
import RefinementTypes.Checking.Typed

/-! Final types. Every working type that a checked expression carries is resolved into the store; what
has been resolved once is remembered. -/

namespace RefinementTypes.Checking.Session

def intern (entry : Entry) : Session TypeId := request (.intern entry)

def showType (id : TypeId) : Session String := do
  match ← read fun view => view.store.render id with
  | .ok text => return text
  | .error problem => fault problem.fault

/-- Finds a type among those resolved, or resolves it and remembers it. -/
def remember (type : Ty) (resolve : Session TypeId) : Session TypeId := do
  match ← read fun view => view.memo.lookup type with
  | some id => return id
  | none =>
    let id ← resolve
    request (.memorize type id)
    return id

/-- Resolves a type, each binding being put through `follow`. -/
def typeIdWith (follow : Ty → Session TypeId) : Ty → Session TypeId
  | .var v => remember (.var v) do
    match ← read fun view => view.subst.lookup v.id with
    | some bound => follow bound
    | none => refuse (.unresolved v.id)
  | .arrow domain codomain => remember (.arrow domain codomain) do
    let first ← typeIdWith follow domain
    let second ← typeIdWith follow codomain
    intern (.arrow first second)
  | .atom a => remember (.atom a) (intern (.atom a))
  | .missing => remember .missing (fault .unknownTy)

def typeIdN : Nat → Ty → Session TypeId
  | 0, type => typeIdWith (fun _ => fault .depthLimit) type
  | steps + 1, type => typeIdWith (typeIdN steps) type

def typeId (type : Ty) : Session TypeId := do
  let subst ← read View.subst
  typeIdN subst.size type

def forgetTypes : Session Unit := request .forget

/-- Resolves the types in a checked expression, outermost first. -/
def resolveTypes : Typed Ty → Session (Typed TypeId)
  | .lam type pat body => do
    let id ← typeId type
    return .lam id pat (← resolveTypes body)
  | .letElse type pat bound thenBranch elseBranch => do
    let id ← typeId type
    let bound' ← resolveTypes bound
    let thenBranch' ← resolveTypes thenBranch
    let elseBranch' ← resolveTypes elseBranch
    return .letElse id pat bound' thenBranch' elseBranch'
  | .call type func arg => do
    let id ← typeId type
    let func' ← resolveTypes func
    let arg' ← resolveTypes arg
    return .call id func' arg'
  | .lit type value => return .lit (← typeId type) value
  | .name type label => return .name (← typeId type) label
  | .impossible type => return .impossible (← typeId type)
  | .invalid type => return .invalid (← typeId type)

end RefinementTypes.Checking.Session
