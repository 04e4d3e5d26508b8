import RefinementTypes.Dependencies.Analysis
import RefinementTypes.Checking.Elaborate
import RefinementTypes.Checking.Resolve
import RefinementTypes.Checking.Program

/-! Checking of declarations. All names are declared before any body is checked; bodies are checked in
dependency order or in source order, and the solver runs after each of them and once more at the end. -/

namespace RefinementTypes.Checking

def firstRepeated? : List String → List String → Option String
  | _, [] => none
  | seen, name :: rest =>
    if seen.contains name then some name else firstRepeated? (name :: seen) rest

structure NamedDecl where
  name : String
  decl : Decl

structure DeclaredDecl extends NamedDecl where
  type : Ty

namespace Session

def refuseDecl {α : Type} (cause : Cause) (name : String) : Session α :=
  fail (.refused ⟨cause, name, none⟩)

/-- Requires declarations to be there, with distinct names and parameters and with bodies. -/
def validate : List String → List (Option Decl) → Session (List NamedDecl)
  | _, [] => return []
  | _, none :: _ => refuse .missingDeclaration
  | seen, some decl :: rest => do
    let name ← normalize decl.name
    if seen.contains name then refuseDecl .duplicateDeclaration name
    let config ← config
    match firstRepeated? [] (decl.params.map config.normalize) with
    | some param => refuseDecl (.duplicateParameter param) name
    | none =>
      match decl.body with
      | .missing => refuseDecl .emptyExpression name
      | _ => return ⟨name, decl⟩ :: (← validate (name :: seen) rest)

/-- The template of a declared type: its parameters are normalised, and its variables are immutable
outside the declaration. -/
def generalize (params : List String) (type : Ty) : Session Template := do
  let config ← config
  return ⟨params.map config.normalize, type.setMutability .immutable⟩

def enterDecl (name : String) : Session Unit := request (.enter name)

def declareAll : List NamedDecl → Session (List DeclaredDecl)
  | [] => return []
  | named :: rest => do
    enterDecl named.name
    let type ← lower .immutable named.decl.type
    declare named.name (← generalize named.decl.params type)
    trace fun _ => "declare " ++ named.name ++ " : " ++ type.render
    return ⟨named, type⟩ :: (← declareAll rest)

/-- Reports the components that hold more than one declaration. -/
def traceRecursion : List (List Nat) → Session Unit
  | [] => return
  | component :: rest => do
    if 1 < component.length then
      trace fun _ =>
        "mutually-recursive declarations: [" ++ " ".intercalate (component.map toString) ++ "]"
    traceRecursion rest

def checkingOrder (decls : List Decl) : Session (List Nat) := do
  let config ← config
  if config.sourceOrder then return List.range decls.length
  let analysis := Dependencies.analyze config.normalize decls
  match analysis.problem with
  | some (.fault cause) => fault cause
  | some problem => fail (.refused ⟨.notAnalysed problem.message, "", problem.invalid?⟩)
  | none =>
    traceRecursion analysis.components
    return analysis.order

def withinDecl {α : Type} (step : Session α) : Session α :=
  step.mapError fun view error => error.inDecl view.decl

/-- Checks the body of a declaration, whose own variables are mutable inside it, and settles what can
be settled. -/
def define (declared : DeclaredDecl) : Session (Typed Ty) := do
  enterDecl declared.name
  trace fun _ => "define " ++ declared.name
  withinDecl do
    let body ← keepingScope (check declared.decl.body (declared.type.setMutability .mutable))
    solve false
    return body

def defineAll (declared : List DeclaredDecl) : List Nat → Session (List (Nat × Typed Ty))
  | [] => return []
  | index :: rest =>
    match declared[index]? with
    | none => fault .absent
    | some decl => do
      let body ← define decl
      return (index, body) :: (← defineAll declared rest)

def traceScope : List (String × Template) → Session Unit
  | [] => return
  | (name, template) :: rest => do
    trace fun view => "context " ++ name ++ " : " ++ (view.subst.apply template.type).render
    traceScope rest

def finish (declared : DeclaredDecl) (body : Typed Ty) : Session CheckedDecl := do
  enterDecl declared.name
  withinDecl do
    let type ← typeId declared.type
    let template ← lookup declared.name
    let body' ← resolveTypes body
    let shown ← showType type
    trace fun _ => "substitute " ++ declared.name ++ " : " ++ shown
    return ⟨declared.name, (template.map Template.params).getD [], type, body'⟩

def finishAll (bodies : List (Nat × Typed Ty)) : Nat → List DeclaredDecl → Session (List CheckedDecl)
  | _, [] => return []
  | index, declared :: rest =>
    match bodies.lookup index with
    | none => fault .absent
    | some body => do
      let decl ← finish declared body
      return decl :: (← finishAll bodies (index + 1) rest)

def prepare (decls : List (Option Decl)) : Session (List DeclaredDecl × List Nat) := do
  let named ← validate [] decls
  let declared ← declareAll named
  trace fun view => "declared " ++ toString view.scope.size ++ " names"
  let order ← checkingOrder (named.map NamedDecl.decl)
  return (declared, order)

/-- Declares all names, checks all bodies and meets all obligations. -/
def elaborateAll (decls : List (Option Decl)) : Session (List DeclaredDecl × List (Nat × Typed Ty)) := do
  let (declared, order) ← prepare decls
  let bodies ← defineAll declared order
  enterDecl ""
  solve true
  return (declared, bodies)

def resolveAll (declared : List DeclaredDecl) (bodies : List (Nat × Typed Ty)) : Session Program := do
  trace fun view =>
    "solved " ++ toString view.subst.size ++ " of " ++ toString view.nextVar ++ " type variables"
  let scope ← read View.scope
  traceScope scope.entries
  forgetTypes
  let checked ← finishAll bodies 0 declared
  enterDecl ""
  let store ← read View.store
  let warnings ← request .warnings
  return ⟨checked, store, warnings⟩

def checkDecls (decls : List (Option Decl)) : Session Program := do
  let (declared, bodies) ← elaborateAll decls
  resolveAll declared bodies

end Session

/-- A checker that can be used again and again. Each use is a session of its own, which begins with
nothing that an earlier one has left but the expressions it has read. -/
structure Checker where
  config : Config
  sessions : Nat
  state : State
  error? : Option TypeError

namespace Checker

def new (config : Config) : Checker := ⟨config, 0, .fresh .empty, none⟩

def invalid? (checker : Checker) : Option Expr := checker.error?.bind TypeError.expr

def reset (checker : Checker) : Checker :=
  { checker with
    sessions := checker.sessions + 1
    state := .fresh checker.state.cache
    error? := none }

def check (checker : Checker) (decls : List (Option Decl)) : Except Failure Program × Checker :=
  let checker := checker.reset
  match Session.checkDecls decls checker.config checker.state with
  | (.error (.refused error), state) =>
    let report := Session.trace fun _ => "failed: " ++ error.text
    let state := (report checker.config state).2
    (.error (.refused error), { checker with state, error? := some error })
  | (result, state) => (result, { checker with state })

end Checker

end RefinementTypes.Checking
