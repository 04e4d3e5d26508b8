import RefinementTypes.Proofs.Typing
import RefinementTypes.Proofs.Worlds

/-! Checking finds every type that there is. Take trees that meet the state of a session, and an
expression with its types by the typing rules. Checking the expression succeeds, and the variables that
it issues can be given trees that still meet the state, so that the types found stand for those that
the rules give. Only the solver may stop short: it gives up on obligations that wait for variables of
others, and it may run out of rounds. -/

namespace RefinementTypes

theorem Ty.image_later {leaf : Ty → Prop} {limit : Nat} {early later : Assignment} {type : Ty}
    (allowed : type.Over leaf limit) (kept : Checking.Session.Later limit early later) :
    type.image later = type.image early := by
  induction type with
  | arrow domain codomain left right => simp only [image, left allowed.1, right allowed.2]
  | var v => exact kept v.id allowed
  | atom | missing => rfl

theorem Checking.Typed.All.map_later {leaf : Ty → Prop} {limit : Nat} {early later : Assignment}
    {typed : Checking.Typed Ty} (all : typed.All (·.Over leaf limit))
    (kept : Checking.Session.Later limit early later) :
    typed.map (·.image later) = typed.map (·.image early) := by
  induction typed with
  | lam type pat body ih => simp only [map, Ty.image_later all.1 kept, ih all.2]
  | letElse type pat bound thenBranch elseBranch first second third =>
    simp only [map, Ty.image_later all.1 kept, first all.2.1, second all.2.2.1, third all.2.2.2]
  | call type func arg first second => simp only [map, Ty.image_later all.1 kept, first all.2.1, second all.2.2]
  | lit type | name type | impossible type | invalid type => simp only [map, Ty.image_later all kept]

private theorem Ty.replacement_later {leaf : Ty → Prop} {limit : Nat} {early later : Assignment}
    {params : List (String × Ty)} (allowed : ∀ param ∈ params, param.2.Over leaf limit)
    (kept : Checking.Session.Later limit early later) : replacement params later = replacement params early := by
  funext name
  unfold replacement
  cases found : params.lookup name with
  | none => rfl
  | some type => exact Ty.image_later (allowed (name, type) (mem_of_lookup_eq found)) kept

namespace Checking

/-- How checking may fail where there are types: what waits for variables of others may be given up, and
rounds may run out. -/
inductive Undecided : Cause ⊕ Fault → Prop
  | unsolved (pending : List Obligation) : Undecided (.inl (.unsolved pending))
  | rounds : Undecided (.inr .roundLimit)

/-- Trees meet a state in which nothing has been reported. -/
structure State.Meets (config : Config) (assigned : Assignment) (state : State) : Prop where
  definite : ∀ id, (assigned id).Definite
  allowed : state.Over Ty.Solid
  exact : state.cache.Exact
  acyclic : state.subst.Acyclic
  solves : state.Solves config (.exactly assigned definite)

def solutions (config : Config) : Worlds Ty := ⟨State.Meets config, Undecided⟩

private theorem Obligation.Holds.later {accepts : String → String → Prop} {early later : Assignment} {limit : Nat}
    {definite : ∀ id, (early id).Definite} {obligation : Obligation}
    (holds : obligation.Holds accepts (.exactly early definite)) (valid : obligation.Over Ty.Solid limit)
    (kept : Session.Later limit early later) (definite' : ∀ id, (later id).Definite) :
    obligation.Holds accepts (.exactly later definite') := by
  cases obligation with
  | conforms literal type =>
    change Conforms _ literal (type.image later)
    rw [Ty.image_later valid kept]
    exact holds
  | assignable expected found =>
    change (expected.image later).Admits (found.image later)
    rw [Ty.image_later valid.1 kept, Ty.image_later valid.2 kept]
    exact holds
  | instantiated params fresh generic =>
    intro replaced
    rw [kept fresh.id valid.2.1, kept generic.id valid.2.2, Ty.replacement_later valid.1 kept]
    exact holds replaced

private theorem State.Solves.later {config : Config} {state : State} {early later : Assignment}
    {definite : ∀ id, (early id).Definite} (solves : state.Solves config (.exactly early definite))
    (allowed : state.Over Ty.Solid) (kept : Session.Later state.nextVar early later)
    (definite' : ∀ id, (later id).Definite) : state.Solves config (.exactly later definite') where
  agrees id type found := by
    obtain ⟨issued, valid⟩ := allowed.bindings _ (Subst.mem_of_lookup found)
    change later id = type.image later
    rw [kept id issued, Ty.image_later valid kept]
    exact solves.agrees id type found
  worklist obligation member :=
    (solves.worklist obligation member).later (allowed.worklist obligation member) kept definite'

/-- Trees that solve the state after a step meet it. -/
theorem State.Meets.next {α : Type} {config : Config} {before after : State} {early later : Assignment}
    {step : Session α} {value : α} {cost : Nat} {good : α → Nat → Prop} (meets : before.Meets config early)
    (follows : Session.Follows (.over Ty.Solid) cost step config before good fun _ _ => True)
    (run : step config before = (.ok value, after)) (definite : ∀ id, (later id).Definite)
    (solves : after.Solves config (.exactly later definite)) : after.Meets config later :=
  have grows := Session.grows_of_run run
  ⟨definite, (meets.allowed.keeps follows run).2.1, grows.cache meets.exact, grows.acyclic meets.acyclic, solves⟩

theorem State.Meets.agrees {config : Config} {state : State} {assigned : Assignment}
    (meets : state.Meets config assigned) : state.subst.Agrees assigned := meets.solves.agrees

private theorem State.Meets.alike {config : Config} {first second : State} {assigned : Assignment}
    (meets : first.Meets config assigned) (alike : first.Alike second) : second.Meets config assigned := by
  have solves : second.Solves config (.exactly assigned meets.definite) := by
    refine ⟨?_, ?_⟩
    · rw [alike.subst]
      exact meets.solves.agrees
    · rw [alike.worklist]
      exact meets.solves.worklist
  exact ⟨meets.definite, meets.allowed.alike alike, alike.cache ▸ meets.exact, alike.subst ▸ meets.acyclic, solves⟩

theorem State.Meets.rescope {config : Config} {outer inner : State} {assigned : Assignment}
    (meets : inner.Meets config assigned) (allowed : outer.Over Ty.Solid) (more : outer.nextVar ≤ inner.nextVar) :
    State.Meets config assigned { inner with scope := outer.scope } where
  definite := meets.definite
  allowed := ⟨meets.allowed.bindings, meets.allowed.worklist, fun entry member =>
    (allowed.scope entry member).mono more⟩
  exact := meets.exact
  acyclic := meets.acyclic
  solves := ⟨meets.solves.agrees, meets.solves.worklist⟩

theorem Env.of_later {leaf : Ty → Prop} {state : State} {early later : Assignment} (allowed : state.Over leaf)
    (kept : Session.Later state.nextVar early later) : Env.of later state.scope = Env.of early state.scope := by
  funext key
  unfold Env.of
  cases found : state.scope.find? key with
  | none => rfl
  | some template =>
    have valid := allowed.scope _ (NameMap.mem_of_find? found)
    simp only [Option.map_some, Ty.image_later valid kept]

namespace Session

variable {α : Type} {config : Config} {before after : State} {assigned : Assignment}

theorem Quiet.runs {step : Session α} {good : α → Prop} {value : α} (quiet : Quiet step config before good)
    (meets : before.Meets config assigned) (run : step config before = (.ok value, after)) :
    Runs (solutions config) step config assigned before fun _ value => good value := by
  obtain ⟨alike, holds⟩ := quiet.result run
  exact .of_ok run (Nat.le_of_eq alike.nextVar.symm) (.refl _ _) (meets.alike alike) holds

theorem trace_runs (meets : before.Meets config assigned) (line : View → String) :
    Runs (solutions config) (trace line) config assigned before fun _ _ => True :=
  (Quiet.trace line).runs meets rfl

private theorem freshVar_runs (meets : before.Meets config assigned) (mutability : Mutability) {tree : Ty}
    (definite : tree.Definite) :
    Runs (solutions config) (freshVar mutability) config assigned before fun later v => later v.id = tree := by
  let later : Assignment := fun id => if id = before.nextVar then tree else assigned id
  have kept : Later before.nextVar assigned later := by
    intro id less
    exact if_neg (Nat.ne_of_lt less)
  have definite' : ∀ id, (later id).Definite := by
    intro id
    by_cases new : id = before.nextVar
    · simpa [later, new] using definite
    · simpa [later, new] using meets.definite id
  have solves := meets.solves.later meets.allowed kept definite'
  refine .of_ok rfl (Nat.le_succ _) kept ?_ (if_pos rfl)
  exact meets.next (freshVar_follows mutability) rfl definite' ⟨solves.agrees, solves.worklist⟩

private theorem postpone_runs (meets : before.Meets config assigned) {obligation : Obligation}
    (valid : obligation.Over Ty.Solid before.nextVar)
    (holds : obligation.Holds config.matcher.Accepts (.exactly assigned meets.definite)) :
    Runs (solutions config) (postpone obligation) config assigned before fun _ _ => True := by
  obtain ⟨after, run, alike⟩ := postpone_run obligation config before
  refine .of_ok run (Nat.le_of_eq alike.nextVar.symm) (.refl _ _) ?_ trivial
  refine meets.next (postpone_follows (permits_over.mpr valid)) run meets.definite ⟨?_, ?_⟩
  · rw [alike.subst]
    exact meets.solves.agrees
  · rw [alike.worklist]
    exact List.forall_mem_append.mpr ⟨meets.solves.worklist, List.forall_mem_singleton.mpr holds⟩

private theorem assign_runs (meets : before.Meets config assigned) {expected found : Ty}
    (left : expected.Over Ty.Solid before.nextVar) (right : found.Over Ty.Solid before.nextVar)
    (same : expected.image assigned = found.image assigned) :
    Runs (solutions config) (assign expected found) config assigned before fun _ _ => True := by
  obtain ⟨after, run, _, agrees, deferred, grown, equal⟩ := assign_equates config meets.acyclic
    meets.agrees (fun _ _ found => (meets.allowed.lookup found).definite) left.definite right.definite same
  refine .of_ok run (grows_of_run run).issued (.refl _ _) ?_ trivial
  refine meets.next (assign_follows left right) run meets.definite ⟨agrees, ?_⟩
  rw [grown, List.forall_mem_append]
  refine ⟨meets.solves.worklist, fun obligation member => ?_⟩
  obtain ⟨pair, inside, rfl⟩ := List.mem_map.mp member
  change (pair.1.image assigned).Admits (pair.2.image assigned)
  rw [equal pair inside]
  exact .refl _

private theorem splitFunction_runs (meets : before.Meets config assigned) {type domain codomain : Ty}
    (valid : type.Over Ty.Solid before.nextVar) (same : type.image assigned = .arrow domain codomain) :
    Runs (solutions config) (splitFunction type) config assigned before fun later parts =>
      parts.1.image later = domain ∧ parts.2.image later = codomain := by
  have shape := meets.allowed.shallow valid
  have tree : (before.subst.shallow type).image assigned = .arrow domain codomain :=
    (meets.agrees.shallow type).trans same
  have definite : (Ty.arrow domain codomain).Definite := same ▸ valid.definite.image meets.definite
  apply Runs.read
  split
  next first second resolved =>
    rw [resolved] at tree
    cases tree
    exact .pure meets ⟨rfl, rfl⟩
  next v resolved =>
    rw [resolved] at tree shape
    refine .bind (freshVar_runs meets .mutable definite.1) fun first middle later run issued kept meets stands => ?_
    cases run
    refine .bind (freshVar_runs meets .mutable definite.2) fun second inner latest run issued' kept' meets stands' => ?_
    cases run
    have stands'' := (kept' _ (Nat.lt_succ_self _)).trans stands
    have left : (Ty.arrow (.var ⟨before.nextVar, .mutable⟩) (.var ⟨before.nextVar + 1, .mutable⟩)).Over Ty.Solid
        (before.nextVar + 1 + 1) := by
      constructor <;> simp only [Ty.Over] <;> omega
    refine .bind (assign_runs meets left ((shape.mono issued).mono issued') ?_) ?_
    · rw [Ty.image_later shape (kept.trans kept' issued), tree]
      simp only [Ty.image, stands', stands'']
    · intro _ final last run _ kept'' meets _
      refine .pure meets ⟨?_, ?_⟩
      · exact (kept'' _ (by simp only; omega)).trans stands''
      · exact (kept'' _ (Nat.lt_succ_self _)).trans stands'
  next resolved =>
    rw [resolved] at tree
    cases tree
  next notArrow notVar notError =>
    exfalso
    cases resolved : before.subst.shallow type with
    | arrow first second => exact notArrow first second resolved
    | var v => exact notVar v resolved
    | atom | missing =>
      rw [resolved] at tree
      cases tree

private theorem freshParams_runs (meets : before.Meets config assigned) (params : List String) {replace : String → Ty}
    (definite : ∀ name, (replace name).Definite) :
    Runs (solutions config) (freshParams params) config assigned before fun later result =>
      ∀ param ∈ result, param.2.image later = replace param.1 := by
  induction params generalizing before assigned with
  | nil => exact .pure meets fun _ member => by cases member
  | cons param rest ih =>
    refine .bind (freshVar_runs meets .mutable (definite param)) fun v middle later run issued kept meets stands => ?_
    cases run
    refine .bind (ih meets) fun others inner latest run issued' kept' meets paired => .pure meets ?_
    split
    next => exact paired
    next => exact List.forall_mem_cons.mpr ⟨(kept' _ (Nat.lt_succ_self _)).trans stands, paired⟩

/-- The variables of a copy can be given the trees that they are tied to. -/
theorem copies_later {limit next : Nat} {params : List (String × Ty)} {type : Ty}
    (definite : ∀ id, (assigned id).Definite) (valid : type.Over Ty.Solid limit)
    (replaced : ∀ param ∈ params, param.2.Over Ty.Solid limit) (less : limit ≤ next) :
    ∃ later : Assignment, Later next assigned later ∧ (∀ id, (later id).Definite) ∧
      ∀ fresh generic, Obligation.instantiated params fresh generic ∈ copies params next type →
        later fresh.id = (later generic.id).rename (Ty.replacement params later) := by
  induction type generalizing next assigned with
  | arrow domain codomain left right =>
    obtain ⟨middle, kept, definite', tied⟩ := left definite valid.1 less
    obtain ⟨later, kept', definite'', tied'⟩ :=
      right definite' valid.2 (Nat.le_trans less (Nat.le_add_right next domain.vars.length))
    refine ⟨later, kept.trans kept' (Nat.le_add_right _ _), definite'', fun fresh generic member => ?_⟩
    rcases List.mem_append.mp member with first | second
    · -- The first part is tied by the trees in between, which the later ones keep.
      obtain ⟨fresh', generic', same, _, below, inside⟩ := mem_copies first
      cases same
      have old : generic.id < limit := valid.1.below inside
      have stays : Later limit middle later := fun id less' => kept' id (by omega)
      rw [kept' fresh.id below, stays generic.id old, Ty.replacement_later replaced stays]
      exact tied fresh generic first
    · exact tied' fresh generic second
  | var v =>
    let tree := (assigned v.id).rename (Ty.replacement params assigned)
    let later : Assignment := fun id => if id = next then tree else assigned id
    have kept : Later next assigned later := fun id less => if_neg (Nat.ne_of_lt less)
    have tree_definite : tree.Definite :=
      (definite v.id).rename (Ty.replacement_definite definite fun param member => (replaced param member).definite)
    refine ⟨later, kept, fun id => ?_, fun fresh generic member => ?_⟩
    · by_cases new : id = next
      · simpa [later, new] using tree_definite
      · simpa [later, new] using definite id
    · cases List.mem_singleton.mp member
      have stays : Later limit assigned later := fun id less' => kept id (by omega)
      rw [stays v.id valid, Ty.replacement_later replaced stays]
      exact if_pos rfl
  | atom | missing => exact ⟨assigned, .refl _ _, definite, fun _ _ member => by cases member⟩

private theorem instanceOf_runs (meets : before.Meets config assigned) {params : List (String × Ty)} {type : Ty}
    (valid : type.Over Ty.Solid before.nextVar)
    (replaced : ∀ param ∈ params, param.2.Over Ty.Solid before.nextVar) :
    Runs (solutions config) (instanceOf params type) config assigned before fun later result =>
      result.image later = (type.image assigned).rename (Ty.replacement params assigned) := by
  have applied : (before.subst.apply type).Over Ty.Solid before.nextVar :=
    Subst.apply_over (fun _ _ found => meets.allowed.lookup found) valid
  obtain ⟨later, kept, definite, tied⟩ := copies_later meets.definite applied replaced (Nat.le_refl _)
  obtain ⟨after, run, alike⟩ := instanceOf_copies meets.acyclic params type
  have solves := meets.solves.later meets.allowed kept definite
  refine .of_ok run ?_ kept ?_ ?_
  · rw [alike.nextVar]
    exact Nat.le_add_right _ _
  · refine meets.next (instanceOf_follows (.inl trivial) valid replaced) run definite ⟨?_, ?_⟩
    · rw [alike.subst]
      exact solves.agrees
    · rw [alike.worklist]
      refine List.forall_mem_append.mpr ⟨solves.worklist, fun obligation member => ?_⟩
      obtain ⟨fresh, generic, rfl, _⟩ := mem_copies member
      exact fun _ => tied fresh generic member
  · rw [image_copy tied, Ty.image_later applied kept, meets.agrees.apply, Ty.replacement_later replaced kept]

private theorem instantiate_runs (meets : before.Meets config assigned) (name : String) {template : Template}
    {type : Ty} (valid : template.type.Over Ty.Solid before.nextVar)
    (yields : Template.Yields ⟨template.params, template.type.image assigned⟩ type) :
    Runs (solutions config) (instantiate name template) config assigned before fun later result =>
      result.image later = type := by
  obtain ⟨replace, definite, rfl⟩ := yields
  unfold instantiate
  split
  next none =>
    refine .pure meets ?_
    rw [List.isEmpty_iff.mp none, Ty.specialize_nil]
  next =>
    refine .bind (freshParams_runs meets template.params definite) ?_
    intro params paired later fresh issued kept meets' stands
    obtain ⟨_, _, replaced⟩ := meets.allowed.keeps (freshParams_follows template.params) fresh
    have made := instanceOf_runs meets' (valid.mono issued) replaced
    refine .bind made fun result middle latest run _ _ meets same => ?_
    have fits := (meets'.allowed.keeps (instanceOf_follows (.inl trivial) (valid.mono issued) replaced) run).2.2
    refine .bind (trace_runs meets _) fun _ _ last run _ kept' meets _ => .pure meets ?_
    rw [Ty.image_later fits kept', same, Ty.image_later valid kept]
    -- Each parameter is replaced by the tree that its variable was given, and other names are kept.
    have listed := freshParams_lookup fresh
    rw [Ty.rename_eq_specialize template.params]
    · refine Ty.specialize_congr _ fun name inside => ?_
      obtain ⟨v, found⟩ := (listed name).1 inside
      simp only [Ty.replacement, found, Option.getD_some]
      exact stands (name, .var v) (mem_of_lookup_eq found)
    · intro name outside
      simp [Ty.replacement, (listed name).2 outside]

private theorem judgeText_runs (meets : before.Meets config assigned) {pattern text : String}
    (accepted : config.matcher.Accepts pattern text) :
    Runs (solutions config) (judgeText pattern text) config assigned before fun _ _ => True := by
  have run : consult pattern text config before = (.ok (.ok true), (consult pattern text config before).2) :=
    Prod.ext (consult_of_accepts meets.exact accepted) rfl
  have untouched := (consult_uses (.refl _) pattern text).leaves run
  have meets' : State.Meets config assigned (consult pattern text config before).2 := by
    refine meets.next (consult_follows pattern text) run meets.definite ⟨?_, ?_⟩
    · rw [untouched.subst (by decide)]
      exact meets.agrees
    · rw [untouched.worklist (by decide) (by decide)]
      exact meets.solves.worklist
  have ends : judgeText pattern text config before = (.ok (), (consult pattern text config before).2) := by
    unfold judgeText
    rw [bind_run run]
    rfl
  exact .of_ok ends (grows_of_run run).issued (.refl _ _) meets' trivial

private theorem conform_runs (meets : before.Meets config assigned) {literal : Option Literal} {type : Ty}
    (valid : type.Over Ty.Solid before.nextVar)
    (conforms : Conforms config.matcher.Accepts literal (type.image assigned)) :
    Runs (solutions config) (conform literal type) config assigned before fun _ _ => True := by
  have shape := meets.allowed.shallow valid
  have conforms' : Conforms config.matcher.Accepts literal ((before.subst.shallow type).image assigned) :=
    (meets.agrees.shallow type).symm ▸ conforms
  obtain ⟨step, rule, run⟩ := conform_judgement literal type config before
  refine .of_run run.run ?_
  cases rule with
  | defer unknown =>
    rw [unknown] at shape conforms'
    exact postpone_runs meets shape conforms'
  | accept => exact .pure meets trivial
  | text strings given =>
    rw [strings, given] at conforms'
    cases conforms' with
    | string accepted => exact judgeText_runs meets accepted
  | reject cause known unfit => exact absurd (conforms'.of_image known) (unfit _)
  | lack absent known unfit => exact absurd (conforms'.of_image known) (unfit _)

private theorem discharge_runs (meets : before.Meets config assigned) {obligation : Obligation}
    (valid : obligation.Over Ty.Solid before.nextVar)
    (holds : obligation.Holds config.matcher.Accepts (.exactly assigned meets.definite)) :
    Runs (solutions config) (discharge obligation) config assigned before fun _ _ => True := by
  cases obligation with
  | conforms literal type => exact conform_runs meets valid holds
  | assignable expected found =>
    have same : expected.image assigned = found.image assigned :=
      Ty.Admits.eq holds (valid.1.definite.image meets.definite) (valid.2.definite.image meets.definite)
    exact assign_runs meets valid.1 valid.2 same
  | instantiated params fresh generic =>
    apply Runs.read
    split
    next => exact postpone_runs meets valid holds
    next bound known =>
      obtain ⟨replaced, issued, _⟩ := valid
      have fits := meets.allowed.lookup known
      refine .bind (instanceOf_runs meets fits replaced) fun type middle later run more kept meets' same => ?_
      have fits' := (meets.allowed.keeps (instanceOf_follows (.inl trivial) fits replaced) run).2.2
      refine assign_runs meets' (Nat.lt_of_lt_of_le issued more) fits' ?_
      have tied := holds fun param member => (replaced param member).definite
      change later fresh.id = _
      rw [kept fresh.id issued, same, ← meets.agrees _ _ known]
      exact tied

private theorem solutions_solvable : Solvable (solutions config) config fun assigned state obligation =>
    obligation.Over Ty.Solid state.nextVar ∧
      ∃ definite, obligation.Holds config.matcher.Accepts (.exactly assigned definite) where
  pending _ _ meets obligation member :=
    ⟨meets.allowed.worklist obligation member, meets.definite, meets.solves.worklist obligation member⟩
  lasts _ _ _ _ _ meets more kept held := by
    obtain ⟨valid, _, holds⟩ := held
    exact ⟨valid.mono more, meets.definite, holds.later valid kept meets.definite⟩
  emptied _ _ meets := by
    refine ⟨meets.definite, ⟨meets.allowed.bindings, ?_, meets.allowed.scope⟩, meets.exact, meets.acyclic,
      meets.agrees, ?_⟩ <;> exact fun _ member => by cases member
  alike _ _ _ meets alike := meets.alike alike
  discharge _ _ _ meets held := by
    obtain ⟨valid, _, holds⟩ := held
    exact discharge_runs meets valid holds
  rounds := .rounds
  unsolved := .unsolved

/-- Where trees meet the state, the solver fails only by giving up. -/
theorem solve_runs (meets : before.Meets config assigned) (final : Bool) :
    Runs (solutions config) (solve final) config assigned before fun _ _ => True :=
  solutions_solvable.solve meets final

theorem lower_runs (meets : before.Meets config assigned) (mutability : Mutability) {written : TypeExpr} {type : Ty}
    (definite : type.Definite) (denotes : written.Denotes config.normalize type) :
    Runs (solutions config) (lower mutability written) config assigned before fun later result =>
      result.image later = type := by
  induction written generalizing before assigned type with
  | arrow domain codomain left right =>
    obtain ⟨first, second, rfl, denotes, denotes'⟩ := denotes
    refine .bind (left meets definite.1 denotes) fun domain' middle later run more kept meets' same => ?_
    have fits := (meets.allowed.keeps (lower_follows (fun _ _ _ _ => trivial) _ denotes.within (.inl trivial)) run).2.2
    refine .bind (right meets' definite.2 denotes') fun codomain' _ latest _ _ kept' meets same' => .pure meets ?_
    simp only [Ty.image, same', Ty.image_later fits kept', same]
  | named name => exact .of_ok rfl (Nat.le_refl _) (.refl _ _) meets denotes.symm
  | wildcard | missing =>
    exact .bind (freshVar_runs meets mutability definite) fun _ _ _ _ _ _ meets stands => .pure meets stands
  | invalid | foreign => exact denotes.elim
  | bool | regex | range | string => exact .pure meets denotes.symm

theorem declare_runs (meets : before.Meets config assigned) (name : String) {template : Template}
    (valid : template.type.Over Ty.Solid before.nextVar) :
    Runs (solutions config) (declare name template) config assigned before fun _ _ => True := by
  refine .of_ok rfl (Nat.le_refl _) (.refl _ _) ?_ trivial
  exact meets.next (declare_follows name ⟨valid, fun _ => .inl trivial⟩) rfl meets.definite
    ⟨meets.agrees, meets.solves.worklist⟩

private theorem bindPat_runs (meets : before.Meets config assigned) {pat : Pat} {type : Ty}
    (valid : type.Over Ty.Solid before.nextVar) (fits : Fits config.matcher.Accepts pat (type.image assigned)) :
    Runs (solutions config) (bindPat pat type) config assigned before fun _ _ => True := by
  cases fits with
  | wildcard => exact .pure meets trivial
  | bind label =>
    refine .bind ((normalize_quiet label).runs meets rfl) fun name _ _ _ more _ meets _ => ?_
    refine .bind (declare_runs meets name (valid.mono more)) fun _ _ _ _ _ _ meets _ => ?_
    exact .bind (trace_runs meets _) fun _ _ _ _ _ _ meets _ => .pure meets trivial
  | lit conforms =>
    exact .bind (conform_runs meets valid conforms) fun _ _ _ _ _ _ meets _ => .pure meets trivial

private theorem settle_runs {step : Session (Typed Ty)} {expr : Expr} {expected : Option Ty} {tree : Typed Ty}
    (valid : ∀ other ∈ expected, other.Over Ty.Solid before.nextVar)
    (wanted : ∀ other ∈ expected, other.image assigned = tree.type)
    (keeps : ∀ typed after, settle expr none step config before = (.ok typed, after) →
      typed.All (·.Over Ty.Solid after.nextVar))
    (runs : Runs (solutions config) step config assigned before fun later typed =>
      typed.map (·.image later) = tree) :
    Runs (solutions config) (settle expr expected step) config assigned before fun later typed =>
      typed.map (·.image later) = tree := by
  refine .bind runs fun typed middle later run more kept meets same => ?_
  have all := keeps _ _ (bind_run run)
  cases expected with
  | none => exact .pure meets same
  | some other =>
    have equal : other.image later = typed.type.image later := by
      rw [Ty.image_later (valid other rfl) kept, wanted other rfl, ← same, Typed.type_map]
    refine .bind (.locatedAt (assign_runs meets ((valid other rfl).mono more) all.type equal)) ?_
    intro _ _ last _ _ kept' meets _
    exact .pure meets ((all.map_later kept').trans same)

private theorem reference_runs (meets : before.Meets config assigned) {label : String} {template : Template} {type : Ty}
    (declared : Env.of assigned before.scope (config.key label) = some template) (yields : template.Yields type) :
    Runs (solutions config) (reference label) config assigned before fun later typed =>
      typed.map (·.image later) = .name type (config.normalize label) := by
  obtain ⟨source, found, rfl⟩ := Option.map_eq_some_iff.mp declared
  have normal : normalize label config before = (.ok (config.normalize label), before) := rfl
  have known : lookup (config.normalize label) config before = (.ok (some source), before) :=
    Prod.ext (congrArg Except.ok found) rfl
  have run : reference label config before = (instantiate (config.normalize label) source >>= fun type =>
      pure (.name type (config.normalize label))) config before := by
    unfold reference
    rw [bind_run normal, bind_run known]
  have valid := meets.allowed.scope _ (NameMap.mem_of_find? found)
  refine .of_run run (.bind (instantiate_runs meets _ valid yields) fun _ _ _ _ _ _ meets same => .pure meets ?_)
  rw [Typed.map, same]

private theorem elaborate_finds (meets : before.Meets config assigned) (expr : Expr) (within : expr.Within Ty.Solid)
    (known : Known Ty.Solid before.scope (expr.freeNames config.key)) (typed : Typed Ty) (after : State)
    (run : elaborate expr none config before = (.ok typed, after)) : typed.All (·.Over Ty.Solid after.nextVar) :=
  (meets.allowed.elaborate within known (by rintro _ ⟨⟩) run).2.2

/-- Checking an expression for which there is a tree by the rules succeeds and finds that tree. -/
theorem elaborate_runs (meets : before.Meets config assigned) (expr : Expr) (expected : Option Ty) {tree : Typed Ty}
    (valid : ∀ other ∈ expected, other.Over Ty.Solid before.nextVar)
    (wanted : ∀ other ∈ expected, other.image assigned = tree.type)
    (within : expr.Within Ty.Solid) (known : Known Ty.Solid before.scope (expr.freeNames config.key))
    (typing : Elaborates config (.of assigned before.scope) expected.isSome expr tree) :
    Runs (solutions config) (elaborate expr expected) config assigned before fun later typed =>
      typed.map (·.image later) = tree := by
  have found {limit : Nat} : ∀ other ∈ (none : Option Ty), other.Over Ty.Solid limit := by rintro _ ⟨⟩
  have one {other : Ty} {limit : Nat} (fits : other.Over Ty.Solid limit) :
      ∀ type ∈ some other, type.Over Ty.Solid limit := by
    rintro _ ⟨⟩
    exact fits
  have node {assigned : Assignment} {typed tree : Typed Ty} (same : typed.map (·.image assigned) = tree) :
      typed.type.image assigned = tree.type := by
    rw [← same, Typed.type_map]
  induction expr, expected using elaborate_induction generalizing before assigned tree with
  | anno expr written expected ih =>
    have keeps := elaborate_finds meets (.anno expr written) within known
    rw [elaborate] at keeps ⊢
    generalize expected.isSome = shown at typing
    cases typing with
    | anno definite denotes inside =>
      refine settle_runs valid wanted keeps (.bind (lower_runs meets .mutable definite denotes) ?_)
      intro other middle later run more kept meets' same
      have fits := (meets.allowed.keeps (lower_follows (fun _ _ _ _ => trivial) _ within.2 (.inl trivial)) run).2.2
      have scope := ((lower_uses (.refl _) _ _).leaves run).scope (by decide)
      refine ih other meets' (one fits) (by rintro _ ⟨⟩; exact same) within.1 (known.same scope) ?_
      rw [scope, Env.of_later meets.allowed kept]
      exact inside
  | lam pat body expected ih =>
    rw [elaborate]
    cases typing with
    | lam fits inside =>
      have split := splitFunction_runs meets (valid expected rfl) (wanted expected rfl)
      refine .bind (.locatedAt split) ?_
      rintro ⟨domain, codomain⟩ middle later run more kept meets' ⟨rfl, result⟩
      replace run := locatedAt_ok run
      obtain ⟨_, _, left, right⟩ := meets.allowed.keeps (splitFunction_follows (valid expected rfl)) run
      have scope := ((splitFunction_uses (.refl _) expected).leaves run).scope (by decide)
      refine .keepingScope (.bind (.locatedAt (bindPat_runs meets' left fits)) ?_) fun _ _ more' _ inner =>
        inner.rescope meets'.allowed more'
      intro pat' inner latest bound more' kept' meets'' _
      replace bound := locatedAt_ok bound
      have known' := (known.same scope).inside bound (.inr rfl)
      have env : Env.of latest inner.scope =
          (Env.of assigned before.scope).extend config.key pat (domain.image later) := by
        rw [bindPat_env latest bound, Env.of_later meets'.allowed kept', Ty.image_later left kept', scope,
          Env.of_later meets.allowed kept]
      have result' := (Ty.image_later right kept').trans result
      refine .bind (.locatedAt (ih codomain meets'' (one (right.mono more')) (by rintro _ ⟨⟩; exact result') within
        known' (by rw [env]; exact inside))) ?_
      intro body' final last _ _ kept'' meets same
      have kept := (kept.trans kept' more).trans kept'' (Nat.le_trans more more')
      refine .pure meets ?_
      rw [Typed.map, same, Ty.image_later (valid expected rfl) kept, wanted expected rfl, bindPat_normalized bound]
      rfl
  | letElse pat bound thenBranch elseBranch expected first second third =>
    rw [elaborate]
    generalize shape : expected.isSome = shown at typing
    cases typing with
    | letElse definite head fits left right equal =>
      subst shape
      simp only [Typed.type] at wanted
      refine .bind (.locatedAt (first meets found (by rintro _ ⟨⟩) within.1 known.left head)) ?_
      rintro bound' middle later run more kept meets' rfl
      replace run := locatedAt_ok run
      have all := (meets.allowed.elaborate within.1 known.left found run).2.2
      have scope := ((elaborate_uses (.refl _) bound none).leaves run).scope (by decide)
      rw [Typed.type_map] at fits left right
      refine .keepingScope (.bind (.locatedAt (bindPat_runs meets' all.type fits)) ?_) fun _ _ more' _ inner =>
        inner.rescope meets'.allowed more'
      intro pat' inner latest compared more' kept' meets'' _
      replace compared := locatedAt_ok compared
      have known' := (known.right.same scope).inside compared (.inr rfl)
      have env : Env.of latest inner.scope =
          (Env.of assigned before.scope).extend config.key pat (bound'.type.image later) := by
        rw [bindPat_env latest compared, Env.of_later meets'.allowed kept', Ty.image_later all.type kept', scope,
          Env.of_later meets.allowed kept]
      have kept'' := kept.trans kept' more
      have valid' := fun other member => ((valid other member).mono more).mono more'
      have wanted' := fun other member => (Ty.image_later (valid other member) kept'').trans (wanted other member)
      refine .bind (.locatedAt (second meets'' valid' wanted' within.2.1 known'.left (by rw [env]; exact left))) ?_
      rintro then' between last run' more'' stays meets rfl
      replace run' := locatedAt_ok run'
      have all' := (meets''.allowed.elaborate within.2.1 known'.left valid' run').2.2
      have scope' := ((elaborate_uses (.refl _) thenBranch expected).leaves run').scope (by decide)
      have valid'' := getD_holds (fun other member => (valid' other member).mono more'') all'.type
      have result : (expected.getD then'.type).image last = (then'.map (·.image last)).type := by
        cases expected with
        | none => exact node rfl
        | some other => exact (Ty.image_later (valid' other rfl) stays).trans (wanted' other rfl)
      rw [← env, ← Env.of_later meets''.allowed stays, ← scope'] at right
      refine .bind (.locatedAt (third then' meets (one valid'') (by rintro _ ⟨⟩; exact result.trans equal.symm)
        within.2.2 (known'.right.same scope') right)) ?_
      rintro else' _ end' _ _ stays' meets rfl
      refine .pure meets ?_
      rw [Typed.map, Ty.image_later valid'' stays', result, all'.map_later stays', bindPat_normalized compared,
        (all.imp fun _ fits => fits.mono more').map_later (stays.trans stays' more''), all.map_later kept']
  | call func arg expected first second =>
    have keeps := elaborate_finds meets (.call func arg) within known
    rw [elaborate] at keeps ⊢
    generalize expected.isSome = shown at typing
    cases typing with
    | call definite head function last =>
      refine settle_runs valid wanted keeps ?_
      refine .bind (.locatedAt (first meets found (by rintro _ ⟨⟩) within.1 known.left head)) ?_
      rintro func' middle later run more kept meets' rfl
      replace run := locatedAt_ok run
      have all := (meets.allowed.elaborate within.1 known.left found run).2.2
      have scope := ((elaborate_uses (.refl _) func none).leaves run).scope (by decide)
      rw [Typed.type_map] at function
      refine .bind (.locatedAt (splitFunction_runs meets' all.type function)) ?_
      rintro ⟨domain, codomain⟩ parts latest split more' kept' meets'' ⟨result, rfl⟩
      replace split := locatedAt_ok split
      obtain ⟨_, _, left, right⟩ := meets'.allowed.keeps (splitFunction_follows all.type) split
      have scope' := ((splitFunction_uses (.refl _) func'.type).leaves split).scope (by decide)
      rw [← Env.of_later meets.allowed kept, ← scope, ← Env.of_later meets'.allowed kept', ← scope'] at last
      refine .bind (.locatedAt (second domain meets'' (one left) (by rintro _ ⟨⟩; exact result) within.2
        (known.right.same (scope'.trans scope)) last)) ?_
      intro arg' _ end' _ _ kept'' meets same
      refine .pure meets ?_
      rw [Typed.map, same, Ty.image_later right kept'', all.map_later (kept'.trans kept'' more')]
  | literal value other notBool notRegex =>
    rw [elaborate_literal other notBool notRegex]
    cases typing with
    | bool _ _ truth => exact absurd rfl (notBool truth)
    | regex _ _ source => exact absurd rfl (notRegex source)
    | lit _ _ belongs =>
      simp only [Typed.type] at wanted
      obtain rfl := wanted other rfl
      refine .bind (.locatedAt (conform_runs meets (valid other rfl) belongs)) fun _ _ _ _ _ kept meets _ => ?_
      refine .pure meets ?_
      rw [Typed.map, Ty.image_later (valid other rfl) kept]
  | literalFound value notBool notRegex =>
    cases typing with
    | bool _ _ truth => exact absurd rfl (notBool truth)
    | regex _ _ source => exact absurd rfl (notRegex source)
  | bool value expected =>
    have keeps := elaborate_finds meets (.lit (some (.bool value))) within known
    rw [elaborate] at keeps ⊢
    refine settle_runs valid wanted keeps (.pure meets ?_)
    generalize expected.isSome = shown at typing
    cases typing with
    | bool => rfl
    | lit notBool => exact absurd rfl (notBool value)
  | regex source expected =>
    have keeps := elaborate_finds meets (.lit (some (.regex source))) within known
    rw [elaborate] at keeps ⊢
    refine settle_runs valid wanted keeps (.pure meets ?_)
    generalize expected.isSome = shown at typing
    cases typing with
    | regex => rfl
    | lit _ notRegex => exact absurd rfl (notRegex source)
  | name label expected =>
    have keeps := elaborate_finds meets (.name label) within known
    rw [elaborate] at keeps ⊢
    generalize expected.isSome = shown at typing
    cases typing with
    | name declared yields => exact settle_runs valid wanted keeps (reference_runs meets declared yields)
  | lamFound => cases typing
  | absent expected | op _ _ expected | impossible expected | invalid expected | foreign _ expected
  | missing expected =>
    generalize expected.isSome = shown at typing
    cases typing

end Session

end Checking

end RefinementTypes
