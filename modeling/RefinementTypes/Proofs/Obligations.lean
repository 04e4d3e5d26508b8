import RefinementTypes.Proofs.Assignability
import RefinementTypes.Proofs.Instances

/-! What steps that succeed have made sure of. Variables are given trees once and for all; a state is
solved by them when they agree with its bindings and meet its obligations. Trees that solve the state
after a step solve the state before it, so whatever a step put off is met in the end: the solver never
drops an obligation without meeting it or putting it off again. -/

namespace RefinementTypes.Checking

private theorem Conforms.image {assigned : Assignment} {accepts : String → String → Prop} {literal : Option Literal}
    {type : Ty} (conforms : Conforms accepts literal type) : Conforms accepts literal (type.image assigned) := by
  cases conforms with
  | error literal => exact .error literal
  | bool value => exact .bool value
  | regex source => exact .regex source
  | range least less => exact .range least less
  | string accepted => exact .string accepted

/-- A type that is not a variable is as fit for a literal as its tree. -/
theorem Conforms.of_image {assigned : Assignment} {accepts : String → String → Prop} {literal : Option Literal}
    {type : Ty} (conforms : Conforms accepts literal (type.image assigned)) (known : ∀ v, type ≠ .var v) :
    Conforms accepts literal type := by
  cases type with
  | var v => exact absurd rfl (known v)
  | arrow => cases conforms
  | atom | missing => exact conforms

/-- The trees that variables stand for are as an obligation asks, where `tied` is what is asked of the
variable that stands for part of an instance. -/
def Obligation.HoldsIf (tied : List (String × Ty) → TyVar → TyVar → Prop) (accepts : String → String → Prop)
    (assigned : Assignment) : Obligation → Prop
  | conforms literal type => Conforms accepts literal (type.image assigned)
  | assignable expected found => (expected.image assigned).Admits (found.image assigned)
  | instantiated params fresh generic => tied params fresh generic

/-- How trees are read as a solution: what they ask of instances, and what is known of the states in which
they are read. Whatever is known outlasts all steps, and an instance that is made and compared with its
variable is as asked. -/
structure Reading where
  trees : Assignment
  tied : List (String × Ty) → TyVar → TyVar → Prop
  steady : State → Prop
  exact : ∀ state, steady state → state.cache.Exact
  grows : ∀ before after, State.Grows before after → steady before → steady after
  instances : ∀ config before after params (fresh : TyVar) (generic : TyVar) bound, steady before →
    before.subst.lookup generic.id = some bound →
    (Session.instanceOf params bound >>= Session.assign (.var fresh)) config before = (.ok (), after) →
    after.subst.Agrees trees →
    (∀ obligation ∈ after.worklist, obligation.HoldsIf tied config.matcher.Accepts trees) →
    tied params fresh generic

@[reducible] def Reading.loose (trees : Assignment) : Reading where
  trees := trees
  tied _ _ _ := True
  steady state := state.cache.Exact
  exact _ := id
  grows _ _ grows := grows.cache
  instances _ _ _ _ _ _ _ _ _ _ _ _ := trivial

instance : Coe Assignment Reading := ⟨Reading.loose⟩

/-- The trees that variables stand for are as an obligation asks. -/
def Obligation.Holds (accepts : String → String → Prop) (reading : Reading) (obligation : Obligation) : Prop :=
  obligation.HoldsIf reading.tied accepts reading.trees

/-- The trees that variables stand for agree with the bindings and meet every obligation. -/
structure State.Solves (config : Config) (reading : Reading) (state : State) : Prop where
  agrees : state.subst.Agrees reading.trees
  worklist : ∀ obligation ∈ state.worklist, obligation.Holds config.matcher.Accepts reading

namespace Session

variable {α β : Type} {reading : Reading} {config : Config} {before after : State}

/-- If a step succeeds, trees that solve its state solve the state before it and bear out a claim. -/
def Establishes (reading : Reading) (step : Session α) (config : Config) (before : State)
    (claim : α → Prop) : Prop :=
  reading.steady before → ∀ value after, step config before = (.ok value, after) →
    reading.steady after ∧ (after.Solves config reading → before.Solves config reading ∧ claim value)

theorem Quiet.establishes {step : Session α} {good : α → Prop} (quiet : Quiet step config before good) :
    Establishes reading step config before good := by
  intro steady value after run
  obtain ⟨alike, holds⟩ := quiet.result run
  refine ⟨reading.grows _ _ (grows_of_run run) steady, fun solves => ⟨⟨?_, ?_⟩, holds⟩⟩
  · rw [← alike.subst]; exact solves.agrees
  · rw [← alike.worklist]; exact solves.worklist

namespace Establishes

variable {claim : α → Prop} {goal : β → Prop}

theorem of_run {step other : Session α} (same : step config before = other config before)
    (establishes : Establishes reading other config before claim) :
    Establishes reading step config before claim := by
  unfold Establishes
  rw [same]
  exact establishes

theorem of_uses {uses : List Use} {step : Session α} (step_uses : step.Uses uses) (kept : .clear ∉ uses)
    (holds : ∀ value after, step config before = (.ok value, after) → before.cache.Exact →
      after.Solves config reading → claim value) :
    Establishes reading step config before claim := by
  intro steady value after run
  have grows := grows_of_run run
  refine ⟨reading.grows _ _ grows steady, fun solves => ⟨⟨grows.agrees solves.agrees, ?_⟩, ?_⟩⟩
  · exact fun obligation member => solves.worklist obligation (((step_uses.leaves run).pending kept).subset member)
  · exact holds value after run (reading.exact _ steady) solves

theorem kept {uses : List Use} {step : Session α} (step_uses : step.Uses uses) (kept : .clear ∉ uses) :
    Establishes reading step config before fun _ => True :=
  .of_uses step_uses kept fun _ _ _ _ _ => trivial

theorem pure {value : α} (holds : claim value) :
    Establishes reading (Pure.pure value : Session α) config before claim := by
  intro steady value after run
  cases run
  exact ⟨steady, fun solves => ⟨solves, holds⟩⟩

theorem refuse {cause : Cause} : Establishes reading (Session.refuse cause) config before claim := by
  intro _ value after run
  cases run

theorem fault {cause : Fault} : Establishes reading (Session.fault cause) config before claim := by
  intro _ value after run
  cases run

/-- What the first step claims is known only once the second has succeeded. -/
theorem bind {step : Session α} {next : α → Session β} (first : Establishes reading step config before claim)
    (rest : ∀ value middle, step config before = (.ok value, middle) →
      Establishes reading (next value) config middle fun result => claim value → goal result) :
    Establishes reading (step >>= next) config before goal := by
  intro steady result after run
  obtain ⟨value, middle, early, late⟩ := bind_ok run
  obtain ⟨steady', back⟩ := first steady value middle early
  obtain ⟨steady'', back'⟩ := rest value middle early steady' result after late
  refine ⟨steady'', fun solves => ?_⟩
  obtain ⟨solves', goal⟩ := back' solves
  obtain ⟨solves'', holds⟩ := back solves'
  exact ⟨solves'', goal holds⟩

private theorem read {see : View → α} {next : α → Session β}
    (rest : Establishes reading (next (see before.toView)) config before goal) :
    Establishes reading (Session.read see >>= next) config before goal := rest

theorem imp {other : α → Prop} {step : Session α} (establishes : Establishes reading step config before claim)
    (implies : ∀ value, claim value → other value) : Establishes reading step config before other := by
  intro steady value after run
  obtain ⟨steady', back⟩ := establishes steady value after run
  exact ⟨steady', fun solves => ⟨(back solves).1, implies value (back solves).2⟩⟩

/-- What can be read off the state after the step may be added. -/
theorem learn {fact : α → Prop} {step : Session α} (establishes : Establishes reading step config before claim)
    (known : ∀ value after, reading.steady before → step config before = (.ok value, after) →
      after.Solves config reading → fact value) :
    Establishes reading step config before fun value => claim value ∧ fact value := by
  intro steady value after run
  obtain ⟨steady', back⟩ := establishes steady value after run
  exact ⟨steady', fun solves => ⟨(back solves).1, (back solves).2, known value after steady run solves⟩⟩

/-- A claim may rest on the state before the step. -/
theorem given {step : Session α}
    (establishes : Establishes reading step config before fun value =>
      before.Solves config reading → claim value) : Establishes reading step config before claim := by
  intro steady value after run
  obtain ⟨steady', back⟩ := establishes steady value after run
  exact ⟨steady', fun solves => ⟨(back solves).1, (back solves).2 (back solves).1⟩⟩

theorem locatedAt {expr : Expr} {step : Session α} (establishes : Establishes reading step config before claim) :
    Establishes reading (Session.locatedAt expr step) config before claim :=
  fun steady value after run => establishes steady value after (locatedAt_ok run)

theorem keepingScope {step : Session α} (establishes : Establishes reading step config before claim) :
    Establishes reading (Session.keepingScope step) config before claim := by
  intro steady value after run
  obtain ⟨inner, inside, rfl⟩ := keepingScope_ok run
  obtain ⟨steady', back⟩ := establishes steady value inner inside
  refine ⟨reading.grows _ _ ?_ steady', fun solves => back ⟨solves.agrees, solves.worklist⟩⟩
  exact .of_eq rfl rfl rfl rfl rfl

theorem trace {line : View → String} : Establishes reading (Session.trace line) config before fun _ => True :=
  .kept (trace_uses line : Session.Uses [] _) (by decide)

/-- The obligations that are taken up are met if taking them up succeeds. -/
theorem taking {next : Session α}
    (rest : Establishes reading next config { before with worklist := [] } fun value =>
      (∀ obligation ∈ before.worklist, obligation.Holds config.matcher.Accepts reading) ∧ claim value) :
    Establishes reading (do Session.request .clear; next) config before claim := by
  intro steady value after run
  obtain ⟨_, middle, first, last⟩ := bind_ok run
  cases first
  have emptied : before.Grows { before with worklist := [] } := .of_eq rfl rfl rfl rfl rfl
  obtain ⟨steady', back⟩ := rest (reading.grows _ _ emptied steady) value after last
  refine ⟨steady', fun solves => ?_⟩
  obtain ⟨emptied, met, holds⟩ := back solves
  exact ⟨⟨emptied.agrees, met⟩, holds⟩

end Establishes

private theorem postpone_establishes (obligation : Obligation) :
    Establishes reading (postpone obligation) config before fun _ =>
      obligation.Holds config.matcher.Accepts reading := by
  refine .of_uses (postpone_uses (.refl _) obligation) (by decide) fun _ after run _ solves => ?_
  apply solves.worklist
  rw [postpone_worklist run]
  exact List.mem_append_right _ List.mem_cons_self

theorem assign_establishes (expected found : Ty) :
    Establishes reading (assign expected found) config before fun _ =>
      (expected.image reading.trees).Admits (found.image reading.trees) := by
  refine .of_uses (assign_uses (.refl _) expected found) (by decide) fun _ after run _ solves => ?_
  obtain ⟨deferred, grown, admits⟩ := assignN_defers run
  refine admits reading.trees solves.agrees fun pair member => ?_
  apply solves.worklist (.assignable pair.1 pair.2)
  rw [grown]
  exact List.mem_append_right _ (List.mem_map_of_mem member)

/-- The type can be used where a function between its parts is expected. -/
theorem splitFunction_establishes (type : Ty) :
    Establishes reading (splitFunction type) config before fun parts =>
      (Ty.arrow (parts.1.image reading.trees) (parts.2.image reading.trees)).Admits (type.image reading.trees) := by
  have same (solves : before.Solves config reading) := solves.agrees.shallow type
  refine .given (.read ?_)
  split
  next domain codomain shape =>
    refine .pure fun solves => ?_
    rw [← same solves, shape]
    exact .refl _
  next v shape =>
    have fresh (state : State) : Establishes reading (freshVar .mutable) config state fun _ => True :=
      .kept (freshVar_uses (.refl _) _) (by decide)
    refine .bind (fresh _) fun _ _ _ => .bind (fresh _) fun _ _ _ => ?_
    refine .bind (assign_establishes _ _) fun _ _ _ => .pure fun admits _ _ solves => ?_
    rw [← same solves, shape]
    exact admits
  next shape =>
    refine .pure fun solves => ?_
    rw [← same solves, shape]
    exact .errorFound _
  next => exact .refuse

private theorem consult_establishes (pattern text : String) :
    Establishes reading (consult pattern text) config before fun answer =>
      answer = .ok true → config.matcher.Accepts pattern text := by
  refine .of_uses (consult_uses (.refl _) pattern text) (by decide) ?_
  rintro _ after run exact _ rfl
  exact consult_accepts exact run

private theorem judgeText_establishes (pattern text : String) :
    Establishes reading (judgeText pattern text) config before fun _ =>
      config.matcher.Accepts pattern text := by
  refine .bind (consult_establishes pattern text) fun answer _ _ => ?_
  split
  next => exact .refuse
  next => exact .pure fun accepted => accepted rfl
  next => exact .refuse

/-- A literal that was accepted or put off belongs to the type. -/
theorem conform_establishes (literal : Option Literal) (type : Ty) :
    Establishes reading (conform literal type) config before fun _ =>
      Conforms config.matcher.Accepts literal (type.image reading.trees) := by
  have same (solves : before.Solves config reading) := solves.agrees.shallow type
  obtain ⟨step, rule, run⟩ := conform_judgement literal type config before
  refine .of_run run.run (.given ?_)
  cases rule with
  | defer unknown =>
    refine (postpone_establishes _).imp fun _ holds solves => ?_
    rw [← same solves, unknown]
    exact holds
  | accept belongs =>
    refine .pure fun solves => ?_
    rw [← same solves]
    exact (belongs _).image
  | text strings given =>
    refine (judgeText_establishes _ _).imp fun _ accepted solves => ?_
    rw [← same solves, strings, given]
    exact .string accepted
  | reject => exact .refuse
  | lack => exact .fault

private theorem discharge_establishes (obligation : Obligation) :
    Establishes reading (discharge obligation) config before fun _ =>
      obligation.Holds config.matcher.Accepts reading := by
  cases obligation with
  | conforms literal type => exact conform_establishes literal type
  | assignable expected found => exact assign_establishes expected found
  | instantiated params fresh generic =>
    apply Establishes.read
    split
    next => exact postpone_establishes _
    next bound known =>
      have made : Establishes reading (instanceOf params bound >>= assign (.var fresh)) config before fun _ => True :=
        .kept (by simp : Session.Uses [.issue, .bind, .defer] _) (by decide)
      refine (made.learn fun _ after steady run solves => ?_).imp fun _ => And.right
      exact reading.instances config before after params fresh generic bound steady known run solves.agrees
        solves.worklist

private theorem dischargeAll_establishes (obligations : List Obligation) :
    Establishes reading (dischargeAll obligations) config before fun _ =>
      ∀ obligation ∈ obligations, obligation.Holds config.matcher.Accepts reading := by
  induction obligations generalizing before with
  | nil => exact .pure fun _ member => by cases member
  | cons obligation rest ih =>
    refine .read (.bind (discharge_establishes obligation) fun _ _ _ => .read (.bind ih fun _ _ _ => ?_))
    exact .pure fun others first => List.forall_mem_cons.mpr ⟨first, others⟩

private theorem solveFrom_establishes (final : Bool) (limit round : Nat) :
    Establishes reading (solveFrom final limit round) config before fun _ => True := by
  induction limit generalizing round before with
  | zero =>
    unfold solveFrom
    apply Establishes.read
    split
    next => exact .pure trivial
    next => exact .fault
  | succ limit ih =>
    unfold solveFrom
    apply Establishes.read
    split
    next => exact .pure trivial
    next =>
      -- The worklist is emptied first; what it held is met by what each round ends with.
      refine .read (.taking (.bind (dischargeAll_establishes _) fun settled _ _ => ?_))
      refine .read (.bind .trace fun _ _ _ => ?_)
      split
      next =>
        unfold stuck
        split
        next => exact .read (.read .refuse)
        next => exact .pure fun _ met => ⟨met, trivial⟩
      next => exact (ih _).imp fun _ _ _ met => ⟨met, trivial⟩

theorem solve_establishes (final : Bool) :
    Establishes reading (solve final) config before fun _ => True :=
  solveFrom_establishes final config.roundLimit 1

theorem solve_worklist (run : solve true config before = (.ok (), after)) : after.worklist = [] := by
  change solveFrom true config.roundLimit 1 config before = _ at run
  generalize config.roundLimit = limit at run
  generalize 1 = round at run
  induction limit generalizing round before with
  | zero =>
    unfold solveFrom at run
    rw [read_bind] at run
    split at run
    next empty =>
      cases run
      exact List.isEmpty_iff.mp empty
    next => cases run
  | succ limit ih =>
    unfold solveFrom at run
    rw [read_bind] at run
    split at run
    next empty =>
      cases run
      exact List.isEmpty_iff.mp empty
    next =>
      obtain ⟨bound, _, _, run⟩ := bind_ok run
      obtain ⟨_, _, _, run⟩ := bind_ok run
      obtain ⟨settled, _, _, run⟩ := bind_ok run
      obtain ⟨bound', _, _, run⟩ := bind_ok run
      obtain ⟨_, _, _, run⟩ := bind_ok run
      split at run
      next => cases run
      next => exact ih _ run

end Session

end RefinementTypes.Checking
