import RefinementTypes.Proofs.Declarations

/-! Runs along worlds. A world says something of every variable, such as what it stands for. What it says
of variables that have been issued is kept for good, and of those that are still to come it may be
chosen as they are issued. A step runs along worlds if it takes a state and a world that fit to a
state and a later world that fit, or fails in a way that is foreseen. -/

namespace RefinementTypes.Checking

/-- What a failure comes down to, wherever it was noted. -/
def Failure.reason : Failure → Cause ⊕ Fault
  | refused error => .inl error.cause
  | fault cause => .inr cause

/-- Which worlds fit which states, and which failures are foreseen. -/
structure Worlds (ξ : Type) where
  fits : (Nat → ξ) → State → Prop
  foreseen : Cause ⊕ Fault → Prop

namespace Session

variable {ξ α β : Type}

/-- The later world says the same of the variables below a number. -/
def Later (limit : Nat) (early later : Nat → ξ) : Prop := ∀ id, id < limit → later id = early id

theorem Later.refl (limit : Nat) (world : Nat → ξ) : Later limit world world := fun _ _ => rfl

theorem Later.trans {limit limit' : Nat} {first second third : Nat → ξ} (early : Later limit first second)
    (late : Later limit' second third) (le : limit ≤ limit') : Later limit first third :=
  fun id less => (late id (Nat.lt_of_lt_of_le less le)).trans (early id less)

/-- A step ends in a state that a later world fits, or fails as foreseen. -/
structure Runs (worlds : Worlds ξ) (step : Session α) (config : Config) (world : Nat → ξ) (before : State)
    (good : (Nat → ξ) → α → Prop) : Prop where
  ends : ∀ value after, step config before = (.ok value, after) → before.nextVar ≤ after.nextVar ∧
    ∃ later, Later before.nextVar world later ∧ worlds.fits later after ∧ good later value
  fails : ∀ failure after, step config before = (.error failure, after) → worlds.foreseen failure.reason

namespace Runs

variable {worlds : Worlds ξ} {config : Config} {world : Nat → ξ} {before after : State}
  {good : (Nat → ξ) → α → Prop} {better : (Nat → ξ) → β → Prop}

theorem of_run {step other : Session α} (same : step config before = other config before)
    (runs : Runs worlds other config world before good) : Runs worlds step config world before good :=
  ⟨same ▸ runs.ends, same ▸ runs.fails⟩

theorem of_ok {step : Session α} {value : α} {later : Nat → ξ} (run : step config before = (.ok value, after))
    (issued : before.nextVar ≤ after.nextVar) (kept : Later before.nextVar world later)
    (fits : worlds.fits later after) (holds : good later value) :
    Runs worlds step config world before good where
  ends _ _ run' := by
    cases run.symm.trans run'
    exact ⟨issued, later, kept, fits, holds⟩
  fails _ _ run' := by cases run.symm.trans run'

theorem pure {value : α} (fits : worlds.fits world before) (holds : good world value) :
    Runs worlds (Pure.pure value : Session α) config world before good :=
  of_ok rfl (Nat.le_refl _) (.refl _ _) fits holds

theorem refuse {cause : Cause} (foreseen : worlds.foreseen (.inl cause)) :
    Runs worlds (Session.refuse cause : Session α) config world before good :=
  ⟨fun _ _ run => (by cases run), fun _ _ run => (by cases run; exact foreseen)⟩

theorem fault {cause : Fault} (foreseen : worlds.foreseen (.inr cause)) :
    Runs worlds (Session.fault cause : Session α) config world before good :=
  ⟨fun _ _ run => (by cases run), fun _ _ run => (by cases run; exact foreseen)⟩

/-- What follows a step may rest on how it ran. -/
theorem bind {step : Session α} {next : α → Session β} (first : Runs worlds step config world before good)
    (rest : ∀ value middle later, step config before = (.ok value, middle) → before.nextVar ≤ middle.nextVar →
      Later before.nextVar world later → worlds.fits later middle → good later value →
      Runs worlds (next value) config later middle better) :
    Runs worlds (step >>= next) config world before better where
  ends result after run := by
    obtain ⟨value, middle, early, late⟩ := bind_ok run
    obtain ⟨issued, later, kept, fits, holds⟩ := first.ends value middle early
    obtain ⟨issued', latest, kept', fits', holds'⟩ :=
      (rest value middle later early issued kept fits holds).ends result after late
    exact ⟨Nat.le_trans issued issued', latest, kept.trans kept' issued, fits', holds'⟩
  fails failure after run := by
    rw [run_bind] at run
    split at run
    next value middle early =>
      obtain ⟨issued, later, kept, fits, holds⟩ := first.ends value middle early
      exact (rest value middle later early issued kept fits holds).fails failure after run
    next other middle early =>
      cases run
      exact first.fails failure after early

theorem read {see : View → α} {next : α → Session β}
    (rest : Runs worlds (next (see before.toView)) config world before better) :
    Runs worlds (Session.read see >>= next) config world before better :=
  ⟨rest.ends, rest.fails⟩

theorem asking {next : Config → Session β} (rest : Runs worlds (next config) config world before better) :
    Runs worlds (Session.config >>= next) config world before better :=
  ⟨rest.ends, rest.fails⟩

theorem imp {other : (Nat → ξ) → α → Prop} {step : Session α} (runs : Runs worlds step config world before good)
    (implies : ∀ later value, Later before.nextVar world later → good later value → other later value) :
    Runs worlds step config world before other where
  ends value after run := by
    obtain ⟨issued, later, kept, fits, holds⟩ := runs.ends value after run
    exact ⟨issued, later, kept, fits, implies later value kept holds⟩
  fails := runs.fails

private theorem mapError {change : View → TypeError → TypeError} {step : Session α}
    (kept : ∀ view error, (change view error).cause = error.cause) (runs : Runs worlds step config world before good) :
    Runs worlds (Session.mapError change step) config world before good where
  ends value after run := runs.ends value after (mapError_ok run)
  fails failure after run := by
    rw [run_mapError] at run
    split at run
    next error middle refused =>
      cases run
      have foreseen := runs.fails (.refused error) _ refused
      rw [Failure.reason, ← kept] at foreseen
      exact foreseen
    next => exact runs.fails failure after run

theorem locatedAt {expr : Expr} {step : Session α} (runs : Runs worlds step config world before good) :
    Runs worlds (Session.locatedAt expr step) config world before good := .mapError (fun _ _ => rfl) runs

theorem withinDecl {step : Session α} (runs : Runs worlds step config world before good) :
    Runs worlds (Session.withinDecl step) config world before good := .mapError (fun _ _ => rfl) runs

theorem keepingScope {step : Session α} (runs : Runs worlds step config world before good)
    (back : ∀ later inner, before.nextVar ≤ inner.nextVar → Later before.nextVar world later →
      worlds.fits later inner → worlds.fits later { inner with scope := before.scope }) :
    Runs worlds (Session.keepingScope step) config world before good where
  ends value after run := by
    obtain ⟨inner, inside, rfl⟩ := keepingScope_ok run
    obtain ⟨issued, later, kept, fits, holds⟩ := runs.ends value inner inside
    exact ⟨issued, later, kept, back later inner issued kept fits, holds⟩
  fails failure after run := by
    rw [run_keepingScope] at run
    cases result : step config before with
    | mk outcome inner =>
      rw [result] at run
      cases run
      exact runs.fails failure inner result

end Runs

/-- What it takes for the solver to run along worlds: obligations that wait in a state that fits are held,
they are held later on, and one that is held can be taken up. -/
structure Solvable (worlds : Worlds ξ) (config : Config) (held : (Nat → ξ) → State → Obligation → Prop) :
    Prop where
  pending : ∀ world state, worlds.fits world state → ∀ obligation ∈ state.worklist, held world state obligation
  lasts : ∀ world later first second obligation, worlds.fits later second → first.nextVar ≤ second.nextVar →
    Later first.nextVar world later → held world first obligation → held later second obligation
  emptied : ∀ world state, worlds.fits world state → worlds.fits world { state with worklist := [] }
  alike : ∀ world first second, worlds.fits world first → first.Alike second → worlds.fits world second
  discharge : ∀ world before obligation, worlds.fits world before → held world before obligation →
    Runs worlds (discharge obligation) config world before fun _ _ => True
  rounds : worlds.foreseen (.inr .roundLimit)
  unsolved : ∀ pending, worlds.foreseen (.inl (.unsolved pending))

namespace Solvable

variable {worlds : Worlds ξ} {config : Config} {held : (Nat → ξ) → State → Obligation → Prop} {world : Nat → ξ}
  {before : State} (solvable : Solvable worlds config held)
include solvable

private theorem dischargeAll (fits : worlds.fits world before) {obligations : List Obligation}
    (hold : ∀ obligation ∈ obligations, held world before obligation) :
    Runs worlds (dischargeAll obligations) config world before fun _ _ => True := by
  induction obligations generalizing before world with
  | nil => exact .pure fits trivial
  | cons obligation rest ih =>
    obtain ⟨first, others⟩ := List.forall_mem_cons.mp hold
    refine .read (.bind (solvable.discharge _ _ _ fits first) fun _ middle later _ more kept fits' _ => .read ?_)
    have others' := fun other member => solvable.lasts _ _ _ _ other fits' more kept (others other member)
    exact .bind (ih fits' others') fun _ _ _ _ _ _ fits _ => .pure fits trivial

private theorem solveFrom (fits : worlds.fits world before) (final : Bool) (limit round : Nat) :
    Runs worlds (solveFrom final limit round) config world before fun _ _ => True := by
  induction limit generalizing before world round with
  | zero =>
    unfold Session.solveFrom
    apply Runs.read
    split
    next => exact .pure fits trivial
    next => exact .fault solvable.rounds
  | succ limit ih =>
    unfold Session.solveFrom
    apply Runs.read
    split
    next => exact .pure fits trivial
    next =>
      have taken : Runs worlds (request .clear) config world before fun _ _ => True :=
        .of_ok rfl (Nat.le_refl _) (.refl _ _) (solvable.emptied _ _ fits) trivial
      refine .read (.bind taken fun _ _ _ run more kept fits' _ => ?_)
      cases run
      -- What waited before the round is held although it does not wait any more.
      have pending := fun obligation member =>
        solvable.lasts _ _ _ _ obligation fits' more kept (solvable.pending _ _ fits obligation member)
      refine .bind (solvable.dischargeAll fits' pending) fun settled ended later _ _ _ fits _ => .read ?_
      have noted (line : View → String) : Runs worlds (trace line) config later ended fun _ _ => True := by
        obtain ⟨after, run, alike⟩ := trace_run line config ended
        exact .of_ok run (Nat.le_of_eq alike.nextVar.symm) (.refl _ _) (solvable.alike _ _ _ fits alike) trivial
      refine .bind (noted _) fun _ _ _ _ _ _ fits _ => ?_
      split
      next =>
        unfold stuck
        split
        next => exact .read (.read (.refuse (solvable.unsolved _)))
        next => exact .pure fits trivial
      next => exact ih fits _

theorem solve (fits : worlds.fits world before) (final : Bool) :
    Runs worlds (solve final) config world before fun _ _ => True :=
  .asking (solvable.solveFrom fits final config.roundLimit 1)

end Solvable

end Session

end RefinementTypes.Checking
