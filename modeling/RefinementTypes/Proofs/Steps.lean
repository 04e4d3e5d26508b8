import RefinementTypes.Proofs.Conformance
import RefinementTypes.Proofs.Unfolding

/-! How steps change the state of a session. All that a step does it does through requests: what every
request keeps, every step keeps, however it ends and whatever it is made of. So nothing that has been
settled is taken back, and what a step does not ask for stays as it is. -/

namespace RefinementTypes.Checking

namespace State

/-- The state of a session after some steps. No variable is withdrawn and no binding changed, no variable is
bound twice, the bindings stay free of cycles, and what the matcher has read stays exact; types, once issued,
and warnings stay. -/
structure Grows (before after : State) : Prop where
  issued : before.nextVar ≤ after.nextVar
  bindings : ∀ id type, before.subst.lookup id = some type → after.subst.lookup id = some type
  distinct : before.subst.Distinct → after.subst.Distinct
  acyclic : before.subst.Acyclic → after.subst.Acyclic
  cache : before.cache.Exact → after.cache.Exact
  store : before.store.Valid → after.store.Valid
  entries : before.store.entries <+: after.store.entries
  warnings : before.warnings <+: after.warnings

variable {first second third : State}

theorem Grows.of_eq (nextVar : second.nextVar = first.nextVar) (subst : second.subst = first.subst)
    (cache : second.cache = first.cache) (store : second.store = first.store)
    (warnings : second.warnings = first.warnings) : first.Grows second where
  issued := Nat.le_of_eq nextVar.symm
  bindings id type found := by rw [subst]; exact found
  distinct kept := by rw [subst]; exact kept
  acyclic kept := by rw [subst]; exact kept
  cache kept := by rw [cache]; exact kept
  store kept := by rw [store]; exact kept
  entries := store ▸ List.prefix_rfl
  warnings := warnings ▸ List.prefix_rfl

theorem Grows.refl (state : State) : state.Grows state := .of_eq rfl rfl rfl rfl rfl

theorem Grows.trans (early : first.Grows second) (late : second.Grows third) : first.Grows third where
  issued := Nat.le_trans early.issued late.issued
  bindings id type found := late.bindings id type (early.bindings id type found)
  distinct kept := late.distinct (early.distinct kept)
  acyclic kept := late.acyclic (early.acyclic kept)
  cache kept := late.cache (early.cache kept)
  store kept := late.store (early.store kept)
  entries := early.entries.trans late.entries
  warnings := early.warnings.trans late.warnings

/-- Two states differ in nothing but what they report. -/
structure Alike (first second : State) : Prop where
  nextVar : second.nextVar = first.nextVar
  scope : second.scope = first.scope
  subst : second.subst = first.subst
  worklist : second.worklist = first.worklist
  store : second.store = first.store
  memo : second.memo = first.memo
  cache : second.cache = first.cache

theorem Alike.refl (state : State) : state.Alike state := ⟨rfl, rfl, rfl, rfl, rfl, rfl, rfl⟩

/-- The variables, the bindings, the names and the obligations of two states are the same. -/
structure Aside (first second : State) : Prop where
  nextVar : second.nextVar = first.nextVar
  scope : second.scope = first.scope
  subst : second.subst = first.subst
  worklist : second.worklist = first.worklist

theorem Alike.aside (alike : first.Alike second) : first.Aside second :=
  ⟨alike.nextVar, alike.scope, alike.subst, alike.worklist⟩

theorem Aside.trans (early : first.Aside second) (late : second.Aside third) : first.Aside third where
  nextVar := late.nextVar.trans early.nextVar
  scope := late.scope.trans early.scope
  subst := late.subst.trans early.subst
  worklist := late.worklist.trans early.worklist

theorem Alike.trans (early : first.Alike second) (late : second.Alike third) : first.Alike third where
  nextVar := late.nextVar.trans early.nextVar
  scope := late.scope.trans early.scope
  subst := late.subst.trans early.subst
  worklist := late.worklist.trans early.worklist
  store := late.store.trans early.store
  memo := late.memo.trans early.memo
  cache := late.cache.trans early.cache

end State

/-- What requests do to a session or ask of it, apart from what every step can see. -/
inductive Use
  | issue
  | bind
  | declare
  | defer
  | clear
  | enter
  | warn
  | warnings
  | consult
  | intern
  | memo
  | scope
deriving DecidableEq

def Use.all : List Use :=
  [.issue, .bind, .declare, .defer, .clear, .enter, .warn, .warnings, .consult, .intern, .memo, .scope]

theorem Use.mem_all (use : Use) : use ∈ all := by cases use <;> decide

namespace Request

variable {α : Type} {config : Config} {state : State} {uses : List Use}

def use? : {α : Type} → Request α → Option Use
  | _, .setup => none
  | _, .look _ => none
  | _, .report _ => none
  | _, .warnings => some .warnings
  | _, .issue _ => some .issue
  | _, .bind _ _ => some .bind
  | _, .declare _ _ => some .declare
  | _, .defer _ => some .defer
  | _, .clear => some .clear
  | _, .enter _ => some .enter
  | _, .warn _ _ => some .warn
  | _, .consult _ _ => some .consult
  | _, .intern _ => some .intern
  | _, .memorize _ _ => some .memo
  | _, .forget => some .memo

theorem answer_bind {var : Nat} {type : Ty} {after : State} :
    (Request.bind var type).answer config state = (.ok (), after) ↔
      state.subst.occurs var type = false ∧ state.subst.lookup var = none ∧
        after = { state with subst := state.subst.insert var type } := by
  simp only [answer, Subst.bind?]
  cases state.subst.occurs var type with
  | true => simp
  | false =>
    cases state.subst.lookup var with
    | some bound => simp
    | none => simp [eq_comm]

theorem answer_bind_occurs {var : Nat} {type : Ty} (occurs : state.subst.occurs var type = true) :
    (Request.bind var type).answer config state =
      (.error (.refused ⟨.infinite var (state.subst.apply type), "", none⟩), state) := by
  simp only [answer, occurs, if_true]

private theorem answer_bind_failed {var : Nat} {type : Ty} {failure : Failure} {after : State}
    (failed : (Request.bind var type).answer config state = (.error failure, after)) : after = state := by
  simp only [answer] at failed
  split at failed
  next => cases failed; rfl
  next =>
    split at failed
    next => cases failed; rfl
    next => cases failed

private theorem answer_grows (asked : Request α) (config : Config) (state : State) :
    state.Grows (asked.answer config state).2 := by
  cases asked with
  | setup | look | warnings | declare | defer | clear | enter | memorize | forget =>
    exact .of_eq rfl rfl rfl rfl rfl
  | issue => exact { State.Grows.refl state with issued := Nat.le_succ _ }
  | warn => exact { State.Grows.refl state with warnings := List.prefix_append _ _ }
  | report line =>
    simp only [answer]
    split <;> exact .of_eq rfl rfl rfl rfl rfl
  | bind var type =>
    cases outcome : (Request.bind var type).answer config state with
    | mk result after =>
      cases result with
      | ok =>
        obtain ⟨absent, free, rfl⟩ := answer_bind.mp outcome
        refine { State.Grows.refl state with
          bindings := fun id other found => ?_
          distinct := fun kept => kept.insert free
          acyclic := fun kept => kept.insert absent }
        rw [Subst.lookup_insert, if_neg]
        · exact found
        · rintro rfl
          rw [free] at found
          cases found
      | error failure =>
        rw [answer_bind_failed outcome]
        exact .refl _
  | consult pattern text =>
    simp only [answer]
    split
    next => exact .of_eq rfl rfl rfl rfl rfl
    next => exact { State.Grows.refl state with cache := fun exact => exact.search_cache pattern text }
  | intern entry =>
    have grows : state.Grows { state with store := (state.store.intern entry).2 } :=
      { State.Grows.refl state with
        store := fun valid => Store.intern_valid valid entry
        entries := state.store.intern_grown entry }
    simp only [answer]
    split <;> exact grows

/-- A request is of one of the given kinds, if it is of any. -/
def Permitted (uses : List Use) (asked : Request α) : Prop := ∀ use ∈ asked.use?, use ∈ uses

end Request

/-- What requests of the given kinds leave of a state. -/
structure State.Untouched (uses : List Use) (before after : State) : Prop where
  nextVar : .issue ∉ uses → after.nextVar = before.nextVar
  scope : .declare ∉ uses → after.scope = before.scope
  subst : .bind ∉ uses → after.subst = before.subst
  worklist : .defer ∉ uses → .clear ∉ uses → after.worklist = before.worklist
  pending : .clear ∉ uses → before.worklist <+: after.worklist
  store : .intern ∉ uses → after.store = before.store
  memo : .memo ∉ uses → after.memo = before.memo
  decl : .enter ∉ uses → after.decl = before.decl
  warnings : .warn ∉ uses → after.warnings = before.warnings
  cache : .consult ∉ uses → after.cache = before.cache

namespace State.Untouched

variable {uses : List Use} {first second third : State}

theorem refl (state : State) : state.Untouched uses state where
  nextVar _ := rfl
  scope _ := rfl
  subst _ := rfl
  worklist _ _ := rfl
  pending _ := List.prefix_rfl
  store _ := rfl
  memo _ := rfl
  decl _ := rfl
  warnings _ := rfl
  cache _ := rfl

theorem trans (early : first.Untouched uses second) (late : second.Untouched uses third) :
    first.Untouched uses third where
  nextVar none := (late.nextVar none).trans (early.nextVar none)
  scope none := (late.scope none).trans (early.scope none)
  subst none := (late.subst none).trans (early.subst none)
  worklist none none' := (late.worklist none none').trans (early.worklist none none')
  pending none := (early.pending none).trans (late.pending none)
  store none := (late.store none).trans (early.store none)
  memo none := (late.memo none).trans (early.memo none)
  decl none := (late.decl none).trans (early.decl none)
  warnings none := (late.warnings none).trans (early.warnings none)
  cache none := (late.cache none).trans (early.cache none)

end State.Untouched

namespace Request

private theorem answer_untouched {asked : Request α} (permitted : asked.Permitted uses) (config : Config)
    (state : State) : state.Untouched uses (asked.answer config state).2 := by
  have untouched : state.Untouched uses state := .refl state
  cases asked with
  | setup | look | warnings => exact untouched
  | issue => exact { untouched with nextVar := fun none => absurd (permitted _ rfl) none }
  | declare => exact { untouched with scope := fun none => absurd (permitted _ rfl) none }
  | defer =>
    exact { untouched with
      worklist := fun none => absurd (permitted _ rfl) none
      pending := fun _ => List.prefix_append _ _ }
  | clear =>
    exact { untouched with
      worklist := fun _ none => absurd (permitted _ rfl) none
      pending := fun none => absurd (permitted _ rfl) none }
  | enter => exact { untouched with decl := fun none => absurd (permitted _ rfl) none }
  | warn => exact { untouched with warnings := fun none => absurd (permitted _ rfl) none }
  | memorize | forget => exact { untouched with memo := fun none => absurd (permitted _ rfl) none }
  | report line =>
    simp only [answer]
    split <;> exact { untouched with }
  | bind var type =>
    simp only [answer]
    split
    next => exact untouched
    next =>
      split
      next => exact untouched
      next => exact { untouched with subst := fun none => absurd (permitted _ rfl) none }
  | consult pattern text =>
    simp only [answer]
    split <;> exact { untouched with cache := fun none => absurd (permitted _ rfl) none }
  | intern entry =>
    simp only [answer]
    split <;> exact { untouched with store := fun none => absurd (permitted _ rfl) none }

end Request

namespace Session

variable {α β : Type} {config : Config} {before after : State} {uses more : List Use}

theorem run_bind (step : Session α) (next : α → Session β) (config : Config) (before : State) :
    (step >>= next) config before =
      match step config before with
      | (.ok value, middle) => next value config middle
      | (.error failure, middle) => (.error failure, middle) := by
  change Session.run (Session.bind step next) config before = _
  rcases outcome : step config before with ⟨_ | _, _⟩ <;> simp only [run, outcome]

theorem run_mapError (change : View → TypeError → TypeError) (step : Session α) (config : Config) (before : State) :
    mapError change step config before =
      match step config before with
      | (.error (.refused error), after) => (.error (.refused (change after.toView error)), after)
      | result => result := rfl

theorem mapError_state (change : View → TypeError → TypeError) (step : Session α) (config : Config)
    (before : State) : (mapError change step config before).2 = (step config before).2 := by
  rw [run_mapError]
  split
  next error after run => rw [run]
  next => rfl

theorem mapError_returns {change : View → TypeError → TypeError} {step : Session α} {value : α} :
    (mapError change step config before).1 = .ok value ↔ (step config before).1 = .ok value := by
  rw [run_mapError]
  split
  next error after run => simp [run]
  next => rfl

theorem mapError_faults {change : View → TypeError → TypeError} {step : Session α} {cause : Fault} :
    (mapError change step config before).1 = .error (.fault cause) ↔
      (step config before).1 = .error (.fault cause) := by
  rw [run_mapError]
  split
  next error after run => simp [run]
  next => rfl

theorem mapError_ok {change : View → TypeError → TypeError} {step : Session α} {value : α}
    (run : mapError change step config before = (.ok value, after)) : step config before = (.ok value, after) := by
  rw [run_mapError] at run
  split at run
  next => cases run
  next => exact run

theorem run_keepingScope (step : Session α) (config : Config) (before : State) :
    keepingScope step config before =
      ((step config before).1, { (step config before).2 with scope := before.scope }) := rfl

theorem read_bind (see : View → α) (next : α → Session β) (config : Config) (before : State) :
    (read see >>= next) config before = next (see before.toView) config before := rfl

theorem bind_run {step : Session α} {next : α → Session β} {value : α}
    (run : step config before = (.ok value, after)) :
    (step >>= next) config before = next value config after := by
  rw [run_bind, run]

theorem bind_ok {step : Session α} {next : α → Session β} {result : β}
    (run : (step >>= next) config before = (.ok result, after)) :
    ∃ value middle, step config before = (.ok value, middle) ∧
      next value config middle = (.ok result, after) := by
  rw [run_bind] at run
  split at run
  next value middle first => exact ⟨value, middle, first, run⟩
  next => cases run

theorem bind_failed {step : Session α} {next : α → Session β} {failure : Failure}
    (failed : (step config before).1 = .error failure) :
    ((step >>= next) config before).1 = .error failure := by
  rw [run_bind]
  split
  next value middle run =>
    rw [run] at failed
    cases failed
  next other middle run =>
    rw [run] at failed
    cases failed
    rfl

theorem locatedAt_ok {expr : Expr} {step : Session α} {value : α}
    (run : locatedAt expr step config before = (.ok value, after)) :
    step config before = (.ok value, after) :=
  mapError_ok run

theorem keepingScope_ok {step : Session α} {value : α}
    (run : keepingScope step config before = (.ok value, after)) :
    ∃ inner, step config before = (.ok value, inner) ∧ after = { inner with scope := before.scope } := by
  rw [run_keepingScope] at run
  cases result : step config before with
  | mk outcome inner =>
    rw [result] at run
    cases run
    exact ⟨inner, rfl, rfl⟩

/-- However a step ends, it has done nothing but report; what it returns has a property. -/
def Quiet (step : Session α) (config : Config) (before : State) (good : α → Prop) : Prop :=
  before.Alike (step config before).2 ∧ ∀ value, (step config before).1 = .ok value → good value

namespace Quiet

variable {good : α → Prop} {better : β → Prop}

theorem result {step : Session α} {value : α} (quiet : Quiet step config before good)
    (run : step config before = (.ok value, after)) : before.Alike after ∧ good value := by
  obtain ⟨alike, returns⟩ := quiet
  rw [run] at alike returns
  exact ⟨alike, returns value rfl⟩

theorem pure {value : α} (holds : good value) : Quiet (Pure.pure value : Session α) config before good :=
  ⟨.refl _, fun _ same => by cases same; exact holds⟩

theorem fail {failure : Failure} : Quiet (Session.fail failure : Session α) config before good :=
  ⟨.refl _, fun _ same => by cases same⟩

theorem bind {step : Session α} {next : α → Session β} (first : Quiet step config before good)
    (rest : ∀ value after, good value → Quiet (next value) config after better) :
    Quiet (step >>= next) config before better := by
  obtain ⟨alike, returns⟩ := first
  unfold Quiet
  rw [run_bind]
  generalize step config before = outcome at alike returns
  obtain ⟨outcome, middle⟩ := outcome
  cases outcome with
  | error failure => exact ⟨alike, fun _ same => by cases same⟩
  | ok value =>
    obtain ⟨alike', returns'⟩ := rest value middle (returns value rfl)
    exact ⟨alike.trans alike', returns'⟩

theorem asking {next : Config → Session β} (rest : Quiet (next config) config before better) :
    Quiet (Session.config >>= next) config before better := rest

theorem trace (line : View → String) : Quiet (Session.trace line) config before fun _ => True := by
  refine ⟨?_, fun _ _ => trivial⟩
  simp only [Session.trace, Session.run, Request.answer]
  split
  next => exact ⟨rfl, rfl, rfl, rfl, rfl, rfl, rfl⟩
  next => exact .refl _

end Quiet

theorem trace_run (line : View → String) (config : Config) (before : State) :
    ∃ after, trace line config before = (.ok (), after) ∧ before.Alike after := by
  refine ⟨(trace line config before).2, rfl, ?_⟩
  exact (Quiet.trace line).1

theorem trace_lines (line : View → String) (config : Config) (before : State) :
    ∃ lines, trace line config before = (.ok (), { before with trace := lines }) := by
  cases tracing : config.tracing with
  | true => exact ⟨_, by simp [trace, run, Request.answer, tracing]; rfl⟩
  | false => exact ⟨before.trace, by simp [trace, run, Request.answer, tracing]⟩

theorem normalize_quiet (name : String) :
    Quiet (normalize name) config before fun result => result = config.normalize name :=
  ⟨.refl _, fun _ same => by cases same; rfl⟩

theorem lookup_quiet (name : String) :
    Quiet (lookup name) config before fun template =>
      template = before.scope.find? (config.normalize name) :=
  ⟨.refl _, fun _ same => by cases same; rfl⟩

/-- All requests that a step may make are of the given kinds. Names may be declared where the scope is put
back afterwards. -/
def Uses : {α : Type} → List Use → Session α → Prop
  | _, _, .pure _ => True
  | _, uses, .bind step next => step.Uses uses ∧ ∀ value, (next value).Uses uses
  | _, _, .fail _ => True
  | _, uses, .request asked => asked.Permitted uses
  | _, uses, .mapError _ step => step.Uses uses
  | _, uses, .keepingScope step => .scope ∈ uses ∧ step.Uses (.declare :: uses)

theorem uses_all {step : Session α} (all : ∀ use, use ∈ uses) : step.Uses uses := by
  induction step generalizing uses with
  | pure | fail => trivial
  | bind step next first rest => exact ⟨first all, fun value => rest value all⟩
  | request asked => exact fun use _ => all use
  | mapError change step ih => exact ih all
  | keepingScope step ih => exact ⟨all _, ih fun use => List.mem_cons_of_mem _ (all use)⟩

/-- What every request keeps a step keeps, however it ends. -/
theorem Uses.related {step : Session α} {related : List Use → State → State → Prop}
    (refl : ∀ uses state, related uses state state)
    (trans : ∀ {uses first second third}, related uses first second → related uses second third →
      related uses first third)
    (answers : ∀ {α : Type} {uses} {asked : Request α}, asked.Permitted uses → ∀ state,
      related uses state (asked.answer config state).2)
    (scope : ∀ {uses before after}, related (.declare :: uses) before after →
      related uses before { after with scope := before.scope })
    (step_uses : step.Uses uses) (before : State) : related uses before (step config before).2 := by
  induction step generalizing uses before with
  | pure | fail => exact refl uses before
  | bind step next first rest =>
    have early := first step_uses.1 before
    unfold run
    split
    next value middle run =>
      rw [run] at early
      exact trans early (rest value (step_uses.2 value) middle)
    next failure middle run =>
      rw [run] at early
      exact early
  | request asked => exact answers step_uses before
  | mapError change step ih =>
    have inner := ih step_uses before
    unfold run
    split
    next error middle run =>
      rw [run] at inner
      exact inner
    next => exact inner
  | keepingScope step ih => exact scope (ih step_uses.2 before)

/-- What a step does not use stays as it is, however the step ends. -/
theorem Uses.untouched {step : Session α} (step_uses : step.Uses uses) (config : Config) (before : State) :
    before.Untouched uses (step config before).2 := by
  refine step_uses.related (fun _ => .refl) .trans
    (fun permitted => Request.answer_untouched permitted config) ?_ before
  intro uses before after inner
  have outside {use : Use} (none : use ∉ uses) (other : use ≠ .declare) : use ∉ Use.declare :: uses :=
    fun member => (List.mem_cons.mp member).elim other none
  exact {
    nextVar := fun none => inner.nextVar (outside none (by decide))
    scope := fun _ => rfl
    subst := fun none => inner.subst (outside none (by decide))
    worklist := fun none none' => inner.worklist (outside none (by decide)) (outside none' (by decide))
    pending := fun none => inner.pending (outside none (by decide))
    store := fun none => inner.store (outside none (by decide))
    memo := fun none => inner.memo (outside none (by decide))
    decl := fun none => inner.decl (outside none (by decide))
    warnings := fun none => inner.warnings (outside none (by decide))
    cache := fun none => inner.cache (outside none (by decide)) }

/-- No step takes back what has been settled. -/
theorem run_grows (step : Session α) (config : Config) (before : State) : before.Grows (step config before).2 := by
  refine (uses_all Use.mem_all).related (fun _ => .refl) .trans
    (fun {_ _ asked} _ => asked.answer_grows config) ?_ before
  exact fun inner => { inner with }

theorem Uses.leaves {step : Session α} {result : Except Failure α} (step_uses : step.Uses uses)
    (run : step config before = (result, after)) : before.Untouched uses after := by
  have untouched := step_uses.untouched config before
  rw [run] at untouched
  exact untouched

theorem grows_of_run {step : Session α} {result : Except Failure α} (run : step config before = (result, after)) :
    before.Grows after := by
  have grows := step.run_grows config before
  rw [run] at grows
  exact grows

theorem run_bind_assoc {γ : Type} (step : Session α) (next : α → Session β) (last : β → Session γ) (config : Config)
    (before : State) :
    ((step >>= next) >>= last) config before = (step >>= fun value => next value >>= last) config before := by
  simp only [run_bind]
  generalize step config before = outcome
  obtain ⟨result, middle⟩ := outcome
  cases result <;> simp only

theorem run_bind_congr {step : Session α} {next other : α → Session β}
    (same : ∀ value middle, next value config middle = other value config middle) :
    (step >>= next) config before = (step >>= other) config before := by
  rw [run_bind, run_bind]
  split
  next => exact same _ _
  next => rfl

/-- The states that a run passes, in order. -/
def passed : {α : Type} → Session α → Config → State → List State
  | _, .pure _, _, _ => []
  | _, .bind step next, config, state =>
    step.passed config state ++
      match step.run config state with
      | (.ok value, middle) => (next value).passed config middle
      | (.error _, _) => []
  | _, .fail _, _, _ => []
  | _, .request asked, config, state => [(asked.answer config state).2]
  | _, .mapError _ step, config, state => step.passed config state
  | _, .keepingScope step, config, state =>
    step.passed config state ++ [{ (step.run config state).2 with scope := state.scope }]

theorem passed_bind (step : Session α) (next : α → Session β) (config : Config) (before : State) :
    (step >>= next).passed config before = step.passed config before ++
      match step config before with
      | (.ok value, middle) => (next value).passed config middle
      | (.error _, _) => [] := by
  change (Session.bind step next).passed config before = _
  rw [passed]

theorem run_mem_passed (step : Session α) (config : Config) (before : State) :
    (step config before).2 ∈ before :: step.passed config before := by
  induction step generalizing before with
  | pure | fail => exact List.mem_cons_self
  | bind step next first rest =>
    have early := first before
    change ((step >>= next) config before).2 ∈ before :: (step >>= next).passed config before
    rw [run_bind, passed_bind]
    cases outcome : step config before with
    | mk result middle =>
      rw [outcome] at early
      cases result with
      | error failure => simpa using early
      | ok value =>
        rcases List.mem_cons.mp (rest value middle) with same | later
        · rcases List.mem_cons.mp early with first | member <;> simp_all
        · simp [later]
  | request asked => exact List.mem_cons_of_mem _ List.mem_cons_self
  | mapError change step ih =>
    have inner := ih before
    rw [run_mapError]
    split
    next error middle run =>
      rw [run] at inner
      exact inner
    next => exact inner
  | keepingScope step ih =>
    exact List.mem_cons_of_mem _ (List.mem_append_right _ List.mem_cons_self)

/-- What a run keeps it keeps in every state that it passes. -/
theorem passed_grows (step : Session α) (config : Config) (before : State) :
    ∀ state ∈ step.passed config before, before.Grows state := by
  induction step generalizing before with
  | pure | fail => exact fun _ member => by cases member
  | bind step next first rest =>
    change ∀ state ∈ (step >>= next).passed config before, _
    rw [passed_bind]
    refine List.forall_mem_append.mpr ⟨first before, ?_⟩
    split
    next value middle run => exact fun state member => (grows_of_run run).trans (rest value middle state member)
    next => exact fun _ member => by cases member
  | request asked => exact List.forall_mem_singleton.mpr (run_grows (.request asked) config before)
  | mapError change step ih => exact ih before
  | keepingScope step ih =>
    exact List.forall_mem_append.mpr
      ⟨ih before, List.forall_mem_singleton.mpr (run_grows (.keepingScope step) config before)⟩

/-- A step runs as another one does, and all states that it passes besides are the one it begins with. -/
structure AmountsTo (step other : Session α) (config : Config) (before : State) : Prop where
  run : step config before = other config before
  passed : ∀ state ∈ step.passed config before, state = before ∨ state ∈ other.passed config before

theorem AmountsTo.refl (step : Session α) : AmountsTo step step config before := ⟨rfl, fun _ => .inr⟩

theorem AmountsTo.read {see : View → α} {next : α → Session β} {other : Session β}
    (rest : AmountsTo (next (see before.toView)) other config before) :
    AmountsTo (Session.read see >>= next) other config before where
  run := rest.run
  passed state member := (List.mem_cons.mp member).elim .inl (rest.passed state)

theorem AmountsTo.asking {next : Config → Session β} {other : Session β}
    (rest : AmountsTo (next config) other config before) :
    AmountsTo (Session.config >>= next) other config before where
  run := rest.run
  passed state member := (List.mem_cons.mp member).elim .inl (rest.passed state)

end Session

end RefinementTypes.Checking
