import RefinementTypes.NameMap
import RefinementTypes.Types.Store
import RefinementTypes.Regex.Cache
import RefinementTypes.Checking.Failure

/-! Checking sessions. A step works on the state of its session and may fail; what it did before it
failed stays done. -/

namespace RefinementTypes.Checking

/-- How a string is compared with a pattern: by regular expressions, which are kept once read, or by
any other rule. -/
inductive Matcher
  | regular
  | custom (decide : String → String → Except String Bool)

/-- What a checker is set up with. Names are compared after `normalize`, and `roundLimit` bounds the
rounds of one run of the solver. -/
structure Config where
  normalize : String → String
  matcher : Matcher
  sourceOrder : Bool
  tracing : Bool
  roundLimit : Nat

structure View where
  nextVar : Nat
  scope : NameMap Template
  subst : Subst
  worklist : List Obligation
  store : Store
  memo : List (Ty × TypeId)
  decl : String

structure State extends View where
  warnings : List TypeError
  trace : Array String
  /-- The patterns and texts that the matcher was asked about. -/
  consulted : Array (String × String)
  cache : Regex.Cache

namespace State

/-- The state in which a session begins; only expressions that have been read are kept. -/
def fresh (cache : Regex.Cache) : State where
  nextVar := 0
  scope := .empty
  subst := .empty
  worklist := []
  store := .empty
  memo := []
  warnings := []
  decl := ""
  trace := #[]
  consulted := #[]
  cache := cache

def clearReports (state : State) : State := { state with trace := #[], consulted := #[] }

end State

/-- What a step can ask of its session, and what it is answered with. -/
inductive Request : Type → Type 1
  | setup : Request Config
  | look {α : Type} (see : View → α) : Request α
  | warnings : Request (List TypeError)
  /-- A variable that is not in use. -/
  | issue (mutability : Mutability) : Request TyVar
  /-- Binds a variable that is not bound to a type in which it does not occur. -/
  | bind (var : Nat) (type : Ty) : Request Unit
  /-- Brings a name into scope, in place of one that is already there. -/
  | declare (name : String) (template : Template) : Request Unit
  | defer (obligation : Obligation) : Request Unit
  /-- Takes up all obligations. -/
  | clear : Request Unit
  | enter (decl : String) : Request Unit
  | warn (cause : Cause) (expr : Expr) : Request Unit
  | consult (pattern text : String) : Request (Except String Bool)
  | intern (entry : Entry) : Request TypeId
  | memorize (type : Ty) (id : TypeId) : Request Unit
  | forget : Request Unit
  | report (line : View → String) : Request Unit

def traceLine (line : String) : String :=
  match line.toList.reverse with
  | '\n' :: rest => String.ofList rest.reverse
  | _ => line

namespace Request

def answer : {α : Type} → Request α → Config → State → Except Failure α × State
  | _, .setup, config, state => (.ok config, state)
  | _, .look see, _, state => (.ok (see state.toView), state)
  | _, .warnings, _, state => (.ok state.warnings, state)
  | _, .issue mutability, _, state => (.ok ⟨state.nextVar, mutability⟩, { state with nextVar := state.nextVar + 1 })
  | _, .bind var type, _, state =>
    if state.subst.occurs var type then
      (.error (.refused ⟨.infinite var (state.subst.apply type), "", none⟩), state)
    else
      match state.subst.bind? var type with
      | none => (.error (.fault .alreadyBound), state)
      | some subst => (.ok (), { state with subst })
  | _, .declare name template, _, state => (.ok (), { state with scope := state.scope.insert name template })
  | _, .defer obligation, _, state => (.ok (), { state with worklist := state.worklist ++ [obligation] })
  | _, .clear, _, state => (.ok (), { state with worklist := [] })
  | _, .enter decl, _, state => (.ok (), { state with decl })
  | _, .warn cause expr, _, state =>
    (.ok (), { state with warnings := state.warnings ++ [⟨cause, state.decl, some expr⟩] })
  | _, .consult pattern text, config, state =>
    let state := { state with consulted := state.consulted.push (pattern, text) }
    match config.matcher with
    | .custom decide => (.ok (decide pattern text), state)
    | .regular =>
      let (result, cache) := state.cache.search pattern text
      (.ok (result.mapError fun error => error.message), { state with cache })
  | _, .intern entry, _, state =>
    let (result, store) := state.store.intern entry
    match result with
    | .ok id => (.ok id, { state with store })
    | .error problem => (.error (.fault problem.fault), { state with store })
  | _, .memorize type id, _, state => (.ok (), { state with memo := (type, id) :: state.memo })
  | _, .forget, _, state => (.ok (), { state with memo := [] })
  | _, .report line, config, state =>
    (.ok (),
      if config.tracing then { state with trace := state.trace.push (traceLine (line state.toView)) } else state)

end Request

inductive Session : Type → Type 1
  | protected pure {α : Type} (value : α) : Session α
  | protected bind {α β : Type} (step : Session α) (next : α → Session β) : Session β
  | fail {α : Type} (failure : Failure) : Session α
  | request {α : Type} (asked : Request α) : Session α
  /-- Changes the error with which a step refuses the program. -/
  | mapError {α : Type} (change : View → TypeError → TypeError) (step : Session α) : Session α
  /-- Runs a step and puts the scope back, however the step ends. -/
  | keepingScope {α : Type} (step : Session α) : Session α

namespace Session

instance : Monad Session where
  pure := Session.pure
  bind := Session.bind

def run : {α : Type} → Session α → Config → State → Except Failure α × State
  | _, .pure value, _, state => (.ok value, state)
  | _, .bind step next, config, state =>
    match step.run config state with
    | (.ok value, state) => (next value).run config state
    | (.error failure, state) => (.error failure, state)
  | _, .fail failure, _, state => (.error failure, state)
  | _, .request asked, config, state => asked.answer config state
  | _, .mapError change step, config, state =>
    match step.run config state with
    | (.error (.refused error), state) => (.error (.refused (change state.toView error)), state)
    | result => result
  | _, .keepingScope step, config, state =>
    let (result, after) := step.run config state
    (result, { after with scope := state.scope })

instance {α : Type} : CoeFun (Session α) fun _ => Config → State → Except Failure α × State where
  coe := run

def refuse {α : Type} (cause : Cause) : Session α := fail (.refused ⟨cause, "", none⟩)

def fault {α : Type} (cause : Fault) : Session α := fail (.fault cause)

def config : Session Config := request .setup

def read {α : Type} (see : View → α) : Session α := request (.look see)

def locatedAt {α : Type} (expr : Expr) (step : Session α) : Session α :=
  step.mapError fun _ error => error.locate expr

def trace (line : View → String) : Session Unit := request (.report line)

def normalize (name : String) : Session String := do
  let config ← config
  return config.normalize name

def freshVar (mutability : Mutability) : Session TyVar := request (.issue mutability)

def freshVars (mutability : Mutability) : Nat → Session (List TyVar)
  | 0 => return []
  | count + 1 => do
    let first ← freshVar mutability
    let rest ← freshVars mutability count
    return first :: rest

def declare (name : String) (template : Template) : Session Unit := do
  let name ← normalize name
  request (.declare name template)

def lookup (name : String) : Session (Option Template) := do
  let name ← normalize name
  read fun view => view.scope.find? name

def postpone (obligation : Obligation) : Session Unit := do
  request (.defer obligation)
  trace fun view => "defer " ++ (obligation.apply view.subst).render

def consult (pattern text : String) : Session (Except String Bool) := request (.consult pattern text)

end Session

end RefinementTypes.Checking
