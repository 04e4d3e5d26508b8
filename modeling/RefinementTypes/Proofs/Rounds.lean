import RefinementTypes.Proofs.Solving
import RefinementTypes.Proofs.Policies

/-! The rounds of the solver. A round that binds no variable leaves only obligations that are blocked:
they wait for a variable that has no binding and may not be bound here. Another round leaves such
obligations as they are, and the solver stops. So apart from two rounds at the end every round binds a
variable, and without obligations about instances no more variables are issued meanwhile. -/

namespace RefinementTypes.Checking

/-- An obligation that cannot be settled, and that nothing can be bound for, under these bindings. -/
def Obligation.Blocked (s : Subst) : Obligation → Prop
  | conforms _ type => ∃ v, type = .var v ∧ s.lookup v.id = none
  | assignable expected found =>
    expected.sameVar found = false ∧ found ≠ .atom .bottom ∧ (∃ v, expected = .var v ∨ found = .var v) ∧
      ∀ v, expected = .var v ∨ found = .var v → s.lookup v.id = none ∧ v.isMutable = false
  | instantiated _ _ generic => s.lookup generic.id = none

/-- Between two states a variable has been bound, or obligations that are blocked have been left. -/
def State.Stalls (before after : State) : Prop :=
  before.subst.size < after.subst.size ∨ after.subst = before.subst ∧
    ∃ left, after.worklist = before.worklist ++ left ∧ ∀ obligation ∈ left, obligation.Blocked before.subst

namespace State.Stalls

variable {first second third : State}

private theorem still (subst : second.subst = first.subst) (worklist : second.worklist = first.worklist) :
    first.Stalls second :=
  .inr ⟨subst, [], by simpa using worklist, fun _ member => by cases member⟩

private theorem size_le (stalls : first.Stalls second) : first.subst.size ≤ second.subst.size := by
  rcases stalls with bound | ⟨same, _⟩
  · exact Nat.le_of_lt bound
  · exact Nat.le_of_eq (congrArg Subst.size same.symm)

theorem trans (early : first.Stalls second) (late : second.Stalls third) : first.Stalls third := by
  rcases early with bound | ⟨same, left, grown, blocked⟩
  · exact .inl (Nat.lt_of_lt_of_le bound late.size_le)
  · rcases late with bound | ⟨same', left', grown', blocked'⟩
    · rw [same] at bound
      exact .inl bound
    · rw [same] at same' blocked'
      refine .inr ⟨same', left ++ left', ?_, List.forall_mem_append.mpr ⟨blocked, blocked'⟩⟩
      rw [grown', grown, List.append_assoc]

end State.Stalls

namespace Session

variable {config : Config} {before after : State}

private theorem postpone_stalls {obligation : Obligation} (run : postpone obligation config before = (.ok (), after))
    (blocked : obligation.Blocked before.subst) : before.Stalls after := by
  obtain ⟨_, run', alike⟩ := postpone_run obligation config before
  rw [run] at run'
  cases run'
  exact .inr ⟨alike.subst, [obligation], alike.worklist, List.forall_mem_singleton.mpr blocked⟩

private theorem solveVar_stalls {v : TyVar} {type : Ty} (free : before.subst.lookup v.id = none)
    (run : solveVar v type config before = (.ok (), after)) : before.Stalls after := by
  rcases solveVar_run free type config with ⟨_, refused⟩ | ⟨_, after', run', alike⟩
  · cases refused.symm.trans run
  · cases run'.symm.trans run
    refine .inl ?_
    rw [alike.subst]
    exact Nat.lt_succ_self _

private theorem assignN_stalls {depth : Nat} {expected found : Ty}
    (run : assignN depth expected found config before = (.ok (), after)) : before.Stalls after := by
  induction depth generalizing expected found before after with
  | zero => cases run
  | succ depth ih =>
    -- What is impossible fits everywhere, so no obligation is left for it.
    by_cases impossible : found = .atom .bottom
    · simp only [assignN, impossible, or_true, if_true] at run
      cases run
      exact .still rfl rfl
    obtain ⟨step, rule, taken⟩ := assignN_comparison depth expected found config before
    rw [taken.run] at run
    cases rule with
    | alike | bottom | reported =>
      cases run
      exact .still rfl rfl
    | expectedBound | foundBound => exact ih run
    | bindExpected _ free => exact solveVar_stalls free run
    | bindFound _ free => exact solveVar_stalls free run
    | defer unlike unknown waits => exact postpone_stalls run ⟨unlike, impossible, unknown, waits⟩
    | arrows =>
      obtain ⟨_, middle, first, last⟩ := bind_ok run
      exact (ih first).trans (ih last)
    | clash => cases run

private theorem assign_stalls {expected found : Ty} (run : assign expected found config before = (.ok (), after)) :
    before.Stalls after :=
  assignN_stalls run

private theorem conform_stalls (acyclic : before.subst.Acyclic) {literal : Option Literal} {type : Ty}
    (run : conform literal type config before = (.ok (), after)) : before.Stalls after := by
  obtain ⟨step, rule, taken⟩ := conform_judgement literal type config before
  rw [taken.run] at run
  cases rule with
  | defer unknown => exact postpone_stalls run ⟨_, rfl, Subst.unbound_of_shallow acyclic unknown⟩
  | accept =>
    cases run
    exact .still rfl rfl
  | @text pattern text =>
    obtain ⟨answer, middle, asked, judged⟩ := bind_ok run
    have untouched := (consult_uses (.refl _) pattern text).leaves asked
    split at judged
    next => cases judged
    next =>
      cases judged
      exact .still (untouched.subst (by decide)) (untouched.worklist (by decide) (by decide))
    next => cases judged
  | reject => cases run
  | lack => cases run

private theorem instanceOf_stalls (acyclic : before.subst.Acyclic) {params : List (String × Ty)} {type result : Ty}
    (run : instanceOf params type config before = (.ok result, after)) : before.Stalls after := by
  obtain ⟨_, run', alike⟩ : Copies params (instanceOf params type) config before (before.subst.apply type) :=
    instanceOf_copies acyclic params type
  rw [run] at run'
  cases run'
  refine .inr ⟨alike.subst, _, alike.worklist, fun obligation member => ?_⟩
  obtain ⟨fresh, generic, rfl, _, _, inside⟩ := mem_copies member
  exact Subst.unbound_of_apply acyclic inside

private theorem discharge_stalls (acyclic : before.subst.Acyclic) {obligation : Obligation}
    (run : discharge obligation config before = (.ok (), after)) : before.Stalls after := by
  cases obligation with
  | conforms literal type => exact conform_stalls acyclic run
  | assignable expected found => exact assign_stalls run
  | instantiated params fresh generic =>
    cases found : before.subst.lookup generic.id with
    | none =>
      simp only [discharge, read_bind, found] at run
      exact postpone_stalls run found
    | some bound =>
      simp only [discharge, read_bind, found] at run
      obtain ⟨type, middle, made, run⟩ := bind_ok run
      exact (instanceOf_stalls acyclic made).trans (assign_stalls run)

theorem dischargeAll_stalls (acyclic : before.subst.Acyclic) {obligations : List Obligation} {settled : Nat}
    (run : dischargeAll obligations config before = (.ok settled, after)) : before.Stalls after := by
  induction obligations generalizing before settled with
  | nil =>
    cases run
    exact .still rfl rfl
  | cons obligation rest ih =>
    unfold dischargeAll at run
    rw [read_bind] at run
    obtain ⟨_, middle, taken, run⟩ := bind_ok run
    rw [read_bind] at run
    obtain ⟨count, last, later, run⟩ := bind_ok run
    cases run
    exact (discharge_stalls acyclic taken).trans (ih ((grows_of_run taken).acyclic acyclic) later)

private theorem assignN_blocked (depth : Nat) {expected found : Ty}
    (blocked : (Obligation.assignable expected found).Blocked before.subst) :
    assignN (depth + 1) expected found config before = postpone (.assignable expected found) config before := by
  obtain ⟨unlike, possible, ⟨v, side⟩, waits⟩ := blocked
  have different : ¬ (expected = found ∨ expected.sameVar found = true ∨ found = .atom .bottom) := by
    rintro (rfl | same | impossible)
    · rcases side with rfl | rfl <;> simp [Ty.sameVar] at unlike
    · simp [unlike] at same
    · exact possible impossible
  have free : before.subst.target expected = none := by
    cases expected with
    | var w => exact (waits w (.inl rfl)).1
    | atom | arrow | missing => rfl
  have free' : before.subst.target found = none := by
    cases found with
    | var w => exact (waits w (.inr rfl)).1
    | atom | arrow | missing => rfl
  -- No binding is followed, and of the sides that are variables none may be bound.
  simp only [assignN, if_neg different, boundTo_eq, read_bind, free, free']
  rcases side with rfl | rfl
  · cases found with
    | var w => simp [assignUnbound, (waits v (.inl rfl)).2, (waits w (.inr rfl)).2]
    | atom | arrow | missing => simp [assignUnbound, (waits v (.inl rfl)).2]
  · cases expected with
    | var w => simp [assignUnbound, (waits w (.inl rfl)).2, (waits v (.inr rfl)).2]
    | atom | arrow | missing => simp [assignUnbound, (waits v (.inr rfl)).2]

private theorem discharge_blocked {obligation : Obligation} (blocked : obligation.Blocked before.subst) :
    discharge obligation config before = postpone obligation config before := by
  cases obligation with
  | conforms literal type =>
    obtain ⟨v, rfl, free⟩ := blocked
    simp only [discharge, conform, read_bind, Subst.shallow_unbound free]
  | assignable expected found =>
    obtain ⟨depth, same⟩ : ∃ depth, assignDepth before.subst expected found = depth + 1 := ⟨_, rfl⟩
    simp only [discharge, assign, read_bind, same]
    exact assignN_blocked depth blocked
  | instantiated params fresh generic =>
    have free : before.subst.lookup generic.id = none := blocked
    simp only [discharge, read_bind, free]

/-- Obligations that are blocked are put off once more before others are taken up. -/
theorem dischargeAll_pending (config : Config) {pending : List Obligation}
    (blocked : ∀ obligation ∈ pending, obligation.Blocked before.subst) (later : List Obligation) :
    ∃ lines, dischargeAll (pending ++ later) config before =
      dischargeAll later config { before with worklist := before.worklist ++ pending, trace := lines } := by
  induction pending generalizing before with
  | nil => exact ⟨before.trace, by simp⟩
  | cons obligation rest ih =>
    obtain ⟨first, others⟩ := List.forall_mem_cons.mp blocked
    obtain ⟨lines, put⟩ := trace_lines (fun state => "defer " ++ (obligation.apply state.subst).render) config
      { before with worklist := before.worklist ++ [obligation] }
    have taken := (discharge_blocked first).trans put
    obtain ⟨lines', run⟩ := @ih { before with worklist := before.worklist ++ [obligation], trace := lines } others
    refine ⟨lines', ?_⟩
    have longer : (before.worklist ++ [obligation]).length ≠ before.worklist.length := by simp
    rw [List.cons_append, dischargeAll, read_bind, bind_run taken, read_bind]
    simp only [if_neg longer]
    rw [List.append_assoc, List.singleton_append] at run
    rw [run_bind, run]
    generalize dischargeAll later config _ = outcome
    obtain ⟨result, last⟩ := outcome
    cases result <;> rfl

theorem dischargeAll_blocked (config : Config) {obligations : List Obligation}
    (blocked : ∀ obligation ∈ obligations, obligation.Blocked before.subst) :
    ∃ lines, dischargeAll obligations config before =
      (.ok 0, { before with worklist := before.worklist ++ obligations, trace := lines }) := by
  obtain ⟨lines, run⟩ := dischargeAll_pending config blocked []
  rw [List.append_nil] at run
  exact ⟨lines, run⟩

end Session

/-- Types have variables that were issued, each of them is bound once at most, and none is tied to an
instance. -/
def Policy.counting (width : Nat) : Policy where
  leaf _ := True
  admits limit type := type.Over (fun _ => True) limit
  ties := False
  width := width
  foreign := True
  knows limit s := s.Distinct ∧ ∀ binding ∈ s.bindings, binding.1 < limit
  mono le valid := valid.mono le
  proper _ _ := trivial
  atom _ _ _ := trivial
  arrow := Iff.rfl
  lend held := held
  issue known := by
    refine ⟨⟨known.1, fun binding member => ?_⟩, fun _ => Nat.lt_succ_self _⟩
    exact Nat.lt_succ_of_lt (known.2 binding member)
  bind known held _ free := ⟨known.1.insert free, List.forall_mem_cons.mpr ⟨held, known.2⟩⟩

private theorem Policy.size_le {width limit : Nat} {s : Subst} (known : (Policy.counting width).knows limit s) :
    s.size ≤ limit := by
  have inside : s.bindings.map Prod.fst ⊆ List.range limit := by
    intro id member
    obtain ⟨binding, listed, rfl⟩ := List.mem_map.mp member
    exact List.mem_range.mpr (known.2 binding listed)
  simpa [Subst.size] using known.1.length_le_of_subset inside

variable {width : Nat} {config : Config} {before after : State}

theorem State.Under.plain {state : State} (under : state.Under (.counting width)) : state.Plain := by
  intro obligation member
  have permits := under.worklist obligation member
  cases obligation with
  | conforms | assignable => trivial
  | instantiated => exact permits.1.elim

/-- So many rounds are enough: one for each variable that may still be bound and two more, or one if
everything is blocked. -/
def State.Affords (limit : Nat) (state : State) : Prop :=
  state.nextVar - state.subst.size + 2 ≤ limit ∨
    1 ≤ limit ∧ ∀ obligation ∈ state.worklist, obligation.Blocked state.subst

private theorem State.Affords.alike {limit : Nat} (affords : before.Affords limit) (alike : before.Alike after) :
    after.Affords limit := by
  unfold State.Affords
  rw [alike.nextVar, alike.subst, alike.worklist]
  exact affords

namespace Session

private theorem round_follows (under : before.Under (.counting width)) :
    Follows (.counting width) 0 (dischargeAll before.worklist) config { before with worklist := [] }
      (fun _ _ => True) fun cause _ => cause.Proper :=
  dischargeAll_follows (fun _ _ _ => Fault.Unknown.proper) under.worklist

private theorem round_affords {limit settled : Nat} (under : before.Under (.counting width))
    (acyclic : before.subst.Acyclic) (enough : before.Affords (limit + 1))
    (run : dischargeAll before.worklist config { before with worklist := [] } = (.ok settled, after)) :
    after.Affords limit ∨ settled = 0 ∧ after.subst.size = before.subst.size := by
  rcases enough with many | ⟨_, blocked⟩
  · obtain ⟨_, under', _⟩ := (round_follows under).reached under.take run
    have issued : (dischargeAll before.worklist config { before with worklist := [] }).2.nextVar ≤ before.nextVar :=
      (round_follows under under.take).spent.resolve_left id
    rw [run] at issued
    dsimp only at issued
    have few := Policy.size_le under'.knows
    left
    -- The round has bound one of the variables that were left, or has blocked whatever it leaves.
    have acyclic : { before with worklist := [] }.subst.Acyclic := acyclic
    rcases dischargeAll_stalls acyclic run with bound | ⟨same, left, grown, blocked⟩
    · left
      dsimp only at bound
      omega
    · right
      refine ⟨by omega, ?_⟩
      rw [grown, same]
      exact blocked
  · right
    have blocked : ∀ obligation ∈ before.worklist, obligation.Blocked { before with worklist := [] }.subst := blocked
    obtain ⟨_, run'⟩ := dischargeAll_blocked config blocked
    rw [run] at run'
    cases run'
    exact ⟨rfl, rfl⟩

theorem solveFrom_affords {limit : Nat} (acyclic : before.subst.Acyclic) (enough : before.Affords limit)
    (final : Bool) (round : Nat) :
    Follows (.counting width) 0 (solveFrom final limit round) config before (fun _ _ => True)
      fun cause _ => cause.Proper := by
  induction limit generalizing before round with
  | zero => rcases enough with many | ⟨one, _⟩ <;> omega
  | succ limit ih =>
    refine .given fun under => ?_
    unfold solveFrom
    apply Follows.read
    split
    next => exact .pure trivial
    next =>
      have emptied : Follows (.counting width) 0 (request .clear) config before (fun _ _ => True)
          fun cause _ => cause.Proper := .ask rfl (·.take) (Nat.le_refl _) trivial
      refine .read (.chain emptied fun _ _ run _ _ => ?_)
      cases run
      refine .chain (round_follows under) fun settled middle run _ _ => .read (.chain .trace ?_)
      intro _ traced reported _ _
      have alike := ((Quiet.trace _).result reported).1
      split
      next => exact stuck_follows final
      next moved =>
        refine ih ?_ (((round_affords under acyclic enough run).resolve_right moved).alike alike) _
        rw [alike.subst]
        exact (grows_of_run run).acyclic acyclic

theorem bind_congr_run {α β : Type} {step : Session α} {next other : α → Session β}
    (same : ∀ value middle, step config before = (.ok value, middle) →
      next value config middle = other value config middle) :
    (step >>= next) config before = (step >>= other) config before := by
  rw [run_bind, run_bind]
  split
  next value middle run => exact same value middle run
  next => rfl

/-- Where rounds are enough, more of them change nothing. -/
theorem solveFrom_stable {limit more : Nat} (under : before.Under (.counting width)) (acyclic : before.subst.Acyclic)
    (enough : before.Affords limit) (le : limit ≤ more) (final : Bool) (round : Nat) :
    solveFrom final more round config before = solveFrom final limit round config before := by
  induction limit generalizing before round more with
  | zero => rcases enough with many | ⟨one, _⟩ <;> omega
  | succ limit ih =>
    cases more with
    | zero => omega
    | succ more =>
      unfold solveFrom
      simp only [read_bind]
      split
      next => rfl
      next =>
        simp only [read_bind]
        refine bind_congr_run fun _ _ run => ?_
        cases run
        refine bind_congr_run fun settled middle run => ?_
        simp only [read_bind]
        refine bind_congr_run fun _ traced reported => ?_
        have alike := ((Quiet.trace _).result reported).1
        split
        next => rfl
        next moved =>
          obtain ⟨_, under', _⟩ := (round_follows under).reached under.take run
          refine ih (under'.aside alike.aside) ?_
            (((round_affords under acyclic enough run).resolve_right moved).alike alike) (Nat.le_of_succ_le_succ le) _
          rw [alike.subst]
          exact (grows_of_run run).acyclic acyclic

end Session

end RefinementTypes.Checking
