import RefinementTypes.Proofs.Renumbering
import RefinementTypes.Proofs.Quiescence

/-! One session inside another. The outer session has gone through more: its variables have other numbers, some of
its bindings, obligations and warnings belong to a frame, and it knows more names. As long as no name of the frame
is referred to, a step does the same in both, and the obligations of the frame stay where they are. -/

namespace RefinementTypes.Checking

/-- What a session finds that runs inside another one. The obligations of the frame are blocked by variables of the
frame, so they stay blocked whatever the session binds. -/
structure Frame where
  rename : Nat → Nat
  injective : Function.Injective rename
  bindings : Nat → Option Ty
  bound : Nat
  pending : List Obligation
  warnings : List TypeError
  blocked : ∀ obligation ∈ pending, ∀ s : Subst,
    (∀ id, (∀ own, rename own ≠ id) → s.lookup id = bindings id) → obligation.Blocked s

/-- What a session has read of patterns and issued of types is in order. -/
structure Intact (cache : Regex.Cache) (store : Store) : Prop where
  cache : cache.Exact
  store : store.Valid

namespace Frame

/-- The outer state is the inner one set into a frame. The two need not agree on names that are hidden. -/
structure Encloses (frame : Frame) (hidden : String → Prop) (inner outer : State) : Prop where
  nextVar : outer.nextVar = frame.rename inner.nextVar
  steady : ∀ id, inner.nextVar ≤ id → frame.rename (id + 1) = frame.rename id + 1
  bindings : Subst.Matches frame.rename (fun _ => True) inner.subst outer.subst
  others : ∀ id, (∀ own, frame.rename own ≠ id) → outer.subst.lookup id = frame.bindings id
  size : outer.subst.size = frame.bound + inner.subst.size
  worklist : outer.worklist = frame.pending ++ inner.worklist.map (Obligation.renumber frame.rename)
  scope : ∀ name, ¬ hidden name →
    outer.scope.find? name = (inner.scope.find? name).map (Template.renumber frame.rename)
  warnings : outer.warnings = frame.warnings ++ inner.warnings
  decl : outer.decl = inner.decl
  intact : Intact inner.cache inner.store
  intact' : Intact outer.cache outer.store

namespace Encloses

variable {frame : Frame} {hidden fewer : String → Prop} {inner outer inner' outer' : State}

theorem blocked (encloses : frame.Encloses hidden inner outer) :
    ∀ obligation ∈ frame.pending, obligation.Blocked outer.subst :=
  fun obligation member => frame.blocked obligation member outer.subst encloses.others

theorem traced (encloses : frame.Encloses hidden inner outer) (first second : Array String) :
    frame.Encloses hidden { inner with trace := first } { outer with trace := second } :=
  ⟨encloses.nextVar, encloses.steady, encloses.bindings, encloses.others, encloses.size, encloses.worklist,
    encloses.scope, encloses.warnings, encloses.decl, encloses.intact, encloses.intact'⟩

theorem mono (encloses : frame.Encloses hidden inner outer) (sooner : ∀ name, hidden name → fewer name) :
    frame.Encloses fewer inner outer :=
  { encloses with scope := fun name known => encloses.scope name fun away => known (sooner name away) }

theorem warn (encloses : frame.Encloses hidden inner outer) (cause : Cause) (expr : Option Expr) :
    frame.Encloses hidden { inner with warnings := inner.warnings ++ [⟨cause, inner.decl, expr⟩] }
      { outer with warnings := outer.warnings ++ [⟨cause, outer.decl, expr⟩] } := by
  refine ⟨encloses.nextVar, encloses.steady, encloses.bindings, encloses.others, encloses.size, encloses.worklist,
    encloses.scope, ?_, encloses.decl, encloses.intact, encloses.intact'⟩
  simp [encloses.warnings, encloses.decl]

theorem rename_decl (encloses : frame.Encloses hidden inner outer) (name : String) :
    frame.Encloses hidden { inner with decl := name } { outer with decl := name } :=
  ⟨encloses.nextVar, encloses.steady, encloses.bindings, encloses.others, encloses.size, encloses.worklist,
    encloses.scope, encloses.warnings, rfl, encloses.intact, encloses.intact'⟩

private theorem rescope (encloses : frame.Encloses fewer inner' outer') (before : frame.Encloses hidden inner outer) :
    frame.Encloses hidden { inner' with scope := inner.scope } { outer' with scope := outer.scope } :=
  ⟨encloses.nextVar, encloses.steady, encloses.bindings, encloses.others, encloses.size, encloses.worklist,
    before.scope, encloses.warnings, encloses.decl, encloses.intact, encloses.intact'⟩

theorem issue (encloses : frame.Encloses hidden inner outer) (count : Nat) :
    frame.Encloses hidden { inner with nextVar := inner.nextVar + count }
      { outer with nextVar := outer.nextVar + count } := by
  refine ⟨?_, ?_, encloses.bindings, encloses.others, encloses.size, encloses.worklist, encloses.scope,
    encloses.warnings, encloses.decl, encloses.intact, encloses.intact'⟩
  · dsimp only
    rw [rename_add encloses.steady, encloses.nextVar]
  · intro id least
    dsimp only at least
    exact encloses.steady id (by omega)

theorem defer (encloses : frame.Encloses hidden inner outer) (obligations : List Obligation) :
    frame.Encloses hidden { inner with worklist := inner.worklist ++ obligations }
      { outer with worklist := outer.worklist ++ obligations.map (Obligation.renumber frame.rename) } := by
  refine ⟨encloses.nextVar, encloses.steady, encloses.bindings, encloses.others, encloses.size, ?_, encloses.scope,
    encloses.warnings, encloses.decl, encloses.intact, encloses.intact'⟩
  simp [encloses.worklist]

private theorem bind (encloses : frame.Encloses hidden inner outer) {id : Nat} {type : Ty}
    (absent : inner.subst.occurs id type = false) :
    frame.Encloses hidden { inner with subst := inner.subst.insert id type }
      { outer with subst := outer.subst.insert (frame.rename id) (type.renumber frame.rename) } := by
  have absent' : outer.subst.occurs (frame.rename id) (type.renumber frame.rename) = false := by
    rw [encloses.bindings.occurs frame.injective, absent]
  refine ⟨encloses.nextVar, encloses.steady, ⟨?_, fun _ _ _ _ _ _ => trivial, ?_, ?_⟩, ?_, ?_, encloses.worklist,
    encloses.scope, encloses.warnings, encloses.decl, encloses.intact, encloses.intact'⟩
  · intro other _
    simp only [Subst.lookup_insert, frame.injective.eq_iff, encloses.bindings.lookup other trivial]
    split <;> rfl
  · exact encloses.bindings.acyclic.insert absent
  · exact encloses.bindings.acyclic'.insert absent'
  · intro other foreign
    have unlike := foreign id
    rw [Subst.lookup_insert, if_neg (Ne.symm unlike)]
    exact encloses.others other foreign
  · have size := encloses.size
    simp only [Subst.size, Subst.insert, List.length_cons] at size ⊢
    omega

/-- Where obligations are taken up, those of the frame are put off first. -/
theorem take (encloses : frame.Encloses hidden inner outer) (lines : Array String) :
    frame.Encloses hidden { inner with worklist := [] }
      { outer with worklist := frame.pending, trace := lines } := by
  refine ⟨encloses.nextVar, encloses.steady, encloses.bindings, encloses.others, encloses.size, ?_, encloses.scope,
    encloses.warnings, encloses.decl, encloses.intact, encloses.intact'⟩
  simp

private theorem enter (encloses : frame.Encloses hidden inner outer) {name : String} {template : Template}
    (sooner : ∀ other, other ≠ name → hidden other → fewer other) :
    frame.Encloses fewer { inner with scope := inner.scope.insert name template }
      { outer with scope := outer.scope.insert name (template.renumber frame.rename) } := by
  refine ⟨encloses.nextVar, encloses.steady, encloses.bindings, encloses.others, encloses.size, encloses.worklist, ?_,
    encloses.warnings, encloses.decl, encloses.intact, encloses.intact'⟩
  intro other known
  simp only [NameMap.find?_insert]
  by_cases same : other = name
  · simp [same]
  · simp only [if_neg same]
    exact encloses.scope other fun away => known (sooner other same away)

end Encloses

/-- The frame that a state is for what is yet to come: its bindings, obligations and warnings. -/
def around (rename : Nat → Nat) (injective : Function.Injective rename) (state : State)
    (blocked : ∀ obligation ∈ state.worklist, ∀ s : Subst,
      (∀ id, (∀ own, rename own ≠ id) → s.lookup id = state.subst.lookup id) → obligation.Blocked s) : Frame :=
  ⟨rename, injective, state.subst.lookup, state.subst.size, state.worklist, state.warnings, blocked⟩

/-- A session that has not bound anything yet may go on inside another one if its variables are unbound there. -/
theorem around_encloses {rename : Nat → Nat} {injective : Function.Injective rename} {hidden : String → Prop}
    {inner outer : State} {blocked : ∀ obligation ∈ outer.worklist, ∀ s : Subst,
      (∀ id, (∀ own, rename own ≠ id) → s.lookup id = outer.subst.lookup id) → obligation.Blocked s}
    (nextVar : outer.nextVar = rename inner.nextVar)
    (steady : ∀ id, inner.nextVar ≤ id → rename (id + 1) = rename id + 1)
    (subst : inner.subst = .empty) (worklist : inner.worklist = []) (warnings : inner.warnings = [])
    (unbound : ∀ id, outer.subst.lookup (rename id) = none) (acyclic : outer.subst.Acyclic)
    (scope : ∀ name, ¬ hidden name → outer.scope.find? name = (inner.scope.find? name).map (Template.renumber rename))
    (decl : outer.decl = inner.decl) (intact : Intact inner.cache inner.store)
    (intact' : Intact outer.cache outer.store) :
    (around rename injective outer blocked).Encloses hidden inner outer where
  nextVar := nextVar
  steady := steady
  bindings := by
    rw [subst]
    exact ⟨fun id _ => unbound id, fun _ _ _ _ _ _ => trivial, Subst.acyclic_empty, acyclic⟩
  others _ _ := rfl
  size := by
    rw [subst]
    rfl
  worklist := by
    rw [worklist]
    exact (List.append_nil _).symm
  scope := scope
  warnings := by
    rw [warnings]
    exact (List.append_nil _).symm
  decl := decl
  intact := intact
  intact' := intact'

/-- Where nothing has been bound and nothing is pending, there is a frame with nothing in it but warnings. -/
theorem exists_encloses {rename : Nat → Nat} (injective : Function.Injective rename) {hidden : String → Prop}
    {inner outer : State} (nextVar : outer.nextVar = rename inner.nextVar)
    (steady : ∀ id, inner.nextVar ≤ id → rename (id + 1) = rename id + 1)
    (subst : inner.subst = .empty) (worklist : inner.worklist = []) (warnings : inner.warnings = [])
    (subst' : outer.subst = .empty) (worklist' : outer.worklist = [])
    (scope : ∀ name, ¬ hidden name → outer.scope.find? name = (inner.scope.find? name).map (Template.renumber rename))
    (decl : outer.decl = inner.decl) (intact : Intact inner.cache inner.store)
    (intact' : Intact outer.cache outer.store) :
    ∃ frame : Frame, frame.rename = rename ∧ frame.pending = [] ∧ frame.warnings = outer.warnings ∧
      (∀ id, frame.bindings id = none) ∧ frame.Encloses hidden inner outer := by
  have none : ∀ id, outer.subst.lookup id = none := by
    rw [subst']
    exact fun _ => rfl
  have blocked : ∀ obligation ∈ outer.worklist, ∀ s : Subst,
      (∀ id, (∀ own, rename own ≠ id) → s.lookup id = outer.subst.lookup id) → obligation.Blocked s := by
    intro obligation member
    rw [worklist'] at member
    cases member
  exact ⟨around rename injective outer blocked, rfl, worklist', rfl, none, around_encloses nextVar steady subst worklist
    warnings (fun id => none _) (subst' ▸ Subst.acyclic_empty) scope decl intact intact'⟩

end Frame

namespace Session

variable {α α' β β' : Type} {frame : Frame} {hidden fewer : String → Prop} {config : Config}
  {inner outer : State} {same : α → α' → Prop} {alike : β → β' → Prop}

/-- A step of the inner session and one of the outer session do the same: where the outer one succeeds, so does the
inner one, and where nothing is pending in the frame the other way round as well. -/
structure Mirrors (frame : Frame) (hidden : String → Prop) (step : Session α) (step' : Session α') (config : Config)
    (inner outer : State) (same : α → α' → Prop) : Prop where
  back : ∀ value' after', step' config outer = (.ok value', after') →
    ∃ value after, step config inner = (.ok value, after) ∧ same value value' ∧ frame.Encloses hidden after after'
  forth : frame.pending = [] → ∀ value after, step config inner = (.ok value, after) →
    ∃ value' after', step' config outer = (.ok value', after')

namespace Mirrors

theorem of_ok {step : Session α} {step' : Session α'} {value : α} {value' : α'} {after after' : State}
    (run : step config inner = (.ok value, after)) (run' : step' config outer = (.ok value', after'))
    (holds : same value value') (encloses : frame.Encloses hidden after after') :
    Mirrors frame hidden step step' config inner outer same where
  back _ _ again := by
    cases run'.symm.trans again
    exact ⟨value, after, run, holds, encloses⟩
  forth _ _ _ _ := ⟨value', after', run'⟩

theorem pure {value : α} {value' : α'} (encloses : frame.Encloses hidden inner outer) (holds : same value value') :
    Mirrors frame hidden (Pure.pure value) (Pure.pure value') config inner outer same :=
  .of_ok rfl rfl holds encloses

theorem fail {failure failure' : Failure} :
    Mirrors frame hidden (Session.fail failure) (Session.fail failure') config inner outer same where
  back _ _ run := by cases run
  forth _ _ _ run := by cases run

/-- A step of the outer session may fail because of what is pending in the frame. -/
theorem stop {step : Session α} {step' : Session α'} (pending : frame.pending ≠ [])
    (fails : ∀ value' after', step' config outer ≠ (.ok value', after')) :
    Mirrors frame hidden step step' config inner outer same where
  back value' after' run := absurd run (fails value' after')
  forth none := absurd none pending

theorem of_run {step first : Session α} {step' first' : Session α'} (run : step config inner = first config inner)
    (run' : step' config outer = first' config outer)
    (mirrors : Mirrors frame hidden first first' config inner outer same) :
    Mirrors frame hidden step step' config inner outer same where
  back value' after' again := by
    rw [run]
    exact mirrors.back value' after' (run'.symm.trans again)
  forth none value after again := by
    rw [run']
    exact mirrors.forth none value after (run.symm.trans again)

theorem thread {step : Session α} {step' : Session α'} {next : α → Session β} {next' : α' → Session β'}
    (first : Mirrors frame fewer step step' config inner outer same)
    (rest : ∀ value value' after after', step config inner = (.ok value, after) →
      step' config outer = (.ok value', after') → same value value' → frame.Encloses fewer after after' →
      Mirrors frame hidden (next value) (next' value') config after after' alike) :
    Mirrors frame hidden (step >>= next) (step' >>= next') config inner outer alike where
  back result' last' run := by
    obtain ⟨value', after', run', later'⟩ := bind_ok run
    obtain ⟨value, after, run, holds, encloses⟩ := first.back value' after' run'
    obtain ⟨result, last, later, holds, encloses⟩ := (rest _ _ _ _ run run' holds encloses).back _ _ later'
    exact ⟨result, last, by rw [bind_run run, later], holds, encloses⟩
  forth none result last run := by
    obtain ⟨value, after, run, later⟩ := bind_ok run
    obtain ⟨value', after', run'⟩ := first.forth none value after run
    -- What the inner step returned is what it had to return for the outer one.
    obtain ⟨_, _, again, holds, encloses⟩ := first.back value' after' run'
    cases run.symm.trans again
    obtain ⟨result', last', later'⟩ := (rest _ _ _ _ run run' holds encloses).forth none _ _ later
    exact ⟨result', last', by rw [bind_run run', later']⟩

theorem bind {step : Session α} {step' : Session α'} {next : α → Session β} {next' : α' → Session β'}
    (first : Mirrors frame fewer step step' config inner outer same)
    (rest : ∀ value value' after after', same value value' → frame.Encloses fewer after after' →
      Mirrors frame hidden (next value) (next' value') config after after' alike) :
    Mirrors frame hidden (step >>= next) (step' >>= next') config inner outer alike :=
  .thread first fun value value' after after' _ _ => rest value value' after after'

theorem read {see : View → α} {see' : View → α'} {next : α → Session β} {next' : α' → Session β'}
    (rest : Mirrors frame hidden (next (see inner.toView)) (next' (see' outer.toView)) config inner outer alike) :
    Mirrors frame hidden (Session.read see >>= next) (Session.read see' >>= next') config inner outer alike :=
  .of_run (read_bind _ _ _ _) (read_bind _ _ _ _) rest

theorem asking {next : Config → Session β} {next' : Config → Session β'}
    (rest : Mirrors frame hidden (next config) (next' config) config inner outer alike) :
    Mirrors frame hidden (Session.config >>= next) (Session.config >>= next') config inner outer alike :=
  ⟨rest.back, rest.forth⟩

theorem ite {condition : Prop} [Decidable condition] {first second : Session α} {first' second' : Session α'}
    (yes : condition → Mirrors frame hidden first first' config inner outer same)
    (no : ¬ condition → Mirrors frame hidden second second' config inner outer same) :
    Mirrors frame hidden (if condition then first else second) (if condition then first' else second') config inner
      outer same := by
  by_cases holds : condition
  · simp only [if_pos holds]
    exact yes holds
  · simp only [if_neg holds]
    exact no holds

theorem trace {line line' : View → String} (encloses : frame.Encloses hidden inner outer) :
    Mirrors frame hidden (Session.trace line) (Session.trace line') config inner outer fun _ _ => True := by
  refine .of_ok rfl rfl trivial ?_
  split
  next => exact encloses.traced _ _
  next => exact encloses

theorem mapError {change change' : View → TypeError → TypeError} {step : Session α} {step' : Session α'}
    (mirrors : Mirrors frame hidden step step' config inner outer same) :
    Mirrors frame hidden (Session.mapError change step) (Session.mapError change' step') config inner outer same where
  back value' after' run := by
    obtain ⟨value, after, run, rest⟩ := mirrors.back value' after' (mapError_ok run)
    exact ⟨value, after, by rw [run_mapError, run], rest⟩
  forth none value after run := by
    obtain ⟨value', after', run'⟩ := mirrors.forth none value after (mapError_ok run)
    exact ⟨value', after', by rw [run_mapError, run']⟩

/-- Names that a step brings into scope are forgotten with it. -/
theorem keepingScope {step : Session α} {step' : Session α'} (encloses : frame.Encloses hidden inner outer)
    (mirrors : Mirrors frame fewer step step' config inner outer same) :
    Mirrors frame hidden (Session.keepingScope step) (Session.keepingScope step') config inner outer same where
  back value' after' run := by
    obtain ⟨middle', run', rfl⟩ := keepingScope_ok run
    obtain ⟨value, middle, run, holds, encloses'⟩ := mirrors.back value' middle' run'
    exact ⟨value, _, by rw [run_keepingScope, run], holds, encloses'.rescope encloses⟩
  forth none value after run := by
    obtain ⟨middle, inside, _⟩ := keepingScope_ok run
    obtain ⟨value', middle', run'⟩ := mirrors.forth none value middle inside
    exact ⟨value', _, by rw [run_keepingScope, run']⟩

end Mirrors

theorem freshVar_mirrors (encloses : frame.Encloses hidden inner outer) (mutability : Mutability) :
    Mirrors frame hidden (freshVar mutability) (freshVar mutability) config inner outer fun v v' =>
      v' = { v with id := frame.rename v.id } := by
  refine .of_ok rfl rfl ?_ (encloses.issue 1)
  simp [encloses.nextVar]

theorem postpone_mirrors (encloses : frame.Encloses hidden inner outer) (obligation : Obligation) :
    Mirrors frame hidden (postpone obligation) (postpone (obligation.renumber frame.rename)) config inner outer
      fun _ _ => True := by
  have deferred : Mirrors frame hidden (request (.defer obligation))
      (request (.defer (obligation.renumber frame.rename))) config inner outer fun _ _ => True :=
        .of_ok rfl rfl trivial (encloses.defer [obligation])
  exact .bind deferred fun _ _ _ _ _ encloses => .trace encloses

theorem solveVar_mirrors (encloses : frame.Encloses hidden inner outer) (v : TyVar) (type : Ty) :
    Mirrors frame hidden (solveVar v type) (solveVar { v with id := frame.rename v.id } (type.renumber frame.rename))
      config inner outer fun _ _ => True := by
  have bound : Mirrors frame hidden (request (.bind v.id type))
      (request (.bind (frame.rename v.id) (type.renumber frame.rename))) config inner outer fun _ _ => True := by
    have lookup := encloses.bindings.lookup v.id trivial
    have occurs := encloses.bindings.occurs frame.injective v.id type
    cases absent : inner.subst.occurs v.id type with
    | true =>
      rw [absent] at occurs
      constructor <;> simp [Session.run, Request.answer, absent, occurs]
    | false =>
      rw [absent] at occurs
      cases known : inner.subst.lookup v.id with
      | some bound =>
        -- Both sessions fail, since the variable is bound in both.
        rw [known] at lookup
        constructor <;> simp [Session.run, Request.answer, Subst.bind?, absent, occurs, known, lookup]
      | none =>
        rw [known] at lookup
        have run : request (.bind v.id type) config inner =
            (.ok (), { inner with subst := inner.subst.insert v.id type }) := by
          simp [Session.run, Request.answer, Subst.bind?, absent, known]
        have run' : request (.bind (frame.rename v.id) (type.renumber frame.rename)) config outer = (.ok (),
            { outer with subst := outer.subst.insert (frame.rename v.id) (type.renumber frame.rename) }) := by
          simp [Session.run, Request.answer, Subst.bind?, occurs, lookup]
        exact .of_ok run run' trivial (encloses.bind absent)
  exact .bind bound fun _ _ _ _ _ encloses => .trace encloses

theorem consult_mirrors (encloses : frame.Encloses hidden inner outer) (pattern text : String) :
    Mirrors frame hidden (consult pattern text) (consult pattern text) config inner outer Eq := by
  cases matcher : config.matcher with
  | custom decide =>
    refine .of_ok (by simp only [consult, Session.run, Request.answer, matcher]; rfl)
      (by simp only [consult, Session.run, Request.answer, matcher]; rfl) rfl ?_
    exact ⟨encloses.nextVar, encloses.steady, encloses.bindings, encloses.others, encloses.size, encloses.worklist,
      encloses.scope, encloses.warnings, encloses.decl, encloses.intact, encloses.intact'⟩
  | regular =>
    refine .of_ok (by simp only [consult, Session.run, Request.answer, matcher]; rfl)
      (by simp only [consult, Session.run, Request.answer, matcher]; rfl) ?_ ?_
    · rw [encloses.intact.cache.search_result, encloses.intact'.cache.search_result]
    · exact ⟨encloses.nextVar, encloses.steady, encloses.bindings, encloses.others, encloses.size, encloses.worklist,
        encloses.scope, encloses.warnings, encloses.decl,
        ⟨encloses.intact.cache.search_cache pattern text, encloses.intact.store⟩,
        ⟨encloses.intact'.cache.search_cache pattern text, encloses.intact'.store⟩⟩

theorem declare_mirrors (encloses : frame.Encloses hidden inner outer) (name : String) (template : Template)
    (sooner : ∀ other, other ≠ config.normalize name → hidden other → fewer other) :
    Mirrors frame fewer (declare name template) (declare name (template.renumber frame.rename)) config inner outer
      fun _ _ => True :=
  .of_ok rfl rfl trivial (encloses.enter sooner)

end Session

end RefinementTypes.Checking
