import RefinementTypes.Proofs.Additions
import RefinementTypes.Proofs.Quiescence

/-! The solver stops at a fixpoint. It gives up after a round that settles nothing and binds nothing, even though
obligations may have been split and instances made in that round; what it leaves is blocked all the same, and solving
once more leaves it as it is. A final run is a partial one, after which it is refused that anything is left. -/

namespace RefinementTypes.Checking.Session

variable {config : Config} {before after : State} {final : Bool} {limit round : Nat}

/-- A round that settles none of the obligations leaves some. -/
theorem takeUp_unsettled (some : before.worklist ≠ []) (run : takeUp config before = (.ok 0, after)) :
    after.worklist ≠ [] := by
  obtain ⟨obligation, rest, pending⟩ := List.exists_cons_of_ne_nil some
  change dischargeAll before.worklist config { before with worklist := [] } = _ at run
  rw [pending, dischargeAll, read_bind] at run
  obtain ⟨_, middle, first, run⟩ := bind_ok run
  rw [read_bind] at run
  obtain ⟨settled, last, later, run⟩ := bind_ok run
  split at run
  next => cases run
  next longer =>
    cases run
    have kept := ((dischargeAll_uses (.refl _) rest).leaves later).pending (by decide)
    intro none
    have empty : middle.worklist = [] := List.prefix_nil.mp (none ▸ kept)
    exact longer (congrArg List.length empty)

private theorem bind_of_run {α β : Type} {step step' : Session α} {next : α → Session β}
    (same : step config before = step' config before) :
    (step >>= next) config before = (step' >>= next) config before := by
  rw [run_bind, run_bind, same]

def refuseLeft : Session Unit := do
  let pending ← read View.worklist
  if pending.isEmpty then return
  stuck true

private theorem refuseLeft_run (config : Config) (before : State) :
    refuseLeft config before =
      (if before.worklist = [] then .ok () else
        .error (.refused ⟨.unsolved (before.worklist.map (Obligation.apply before.subst)), "", none⟩), before) := by
  unfold refuseLeft
  rw [read_bind]
  by_cases none : before.worklist = []
  · simp only [none]
    rfl
  · simp only [none, List.isEmpty_iff]
    rfl

/-- A final run does what a partial one does, and then refuses what is left. -/
theorem solveFrom_final (config : Config) (before : State) (limit round : Nat) :
    solveFrom true limit round config before = (do solveFrom false limit round; refuseLeft) config before := by
  induction limit generalizing before round with
  | zero =>
    by_cases none : before.worklist = []
    · rw [bind_run (solveFrom_nil none), solveFrom_nil none, refuseLeft_run, if_pos none]
    · rw [bind_of_run (solveFrom_zero none), solveFrom_zero none]
      rfl
  | succ limit ih =>
    by_cases none : before.worklist = []
    · rw [bind_run (solveFrom_nil none), solveFrom_nil none, refuseLeft_run, if_pos none]
    obtain ⟨line, stage⟩ := @solveFrom_succ config before limit round none
    rw [stage true, bind_of_run (stage false), run_bind_assoc]
    refine bind_congr_run fun settled middle taken => ?_
    rw [run_bind_assoc, read_bind, read_bind, run_bind_assoc]
    refine bind_congr_run fun _ traced reported => ?_
    have alike := ((Quiet.trace _).result reported).1
    by_cases stop : settled = 0 ∧ middle.subst.size = before.subst.size
    · rw [if_pos stop, if_pos stop]
      -- The solver gives up with something left, which a final run refuses.
      obtain ⟨rfl, _⟩ := stop
      have left : traced.worklist ≠ [] := by
        rw [alike.worklist]
        exact takeUp_unsettled none taken
      change _ = refuseLeft config traced
      rw [refuseLeft_run, if_neg left]
      rfl
    · rw [if_neg stop, if_neg stop]
      exact ih traced (round + 1)

/-- Where everything that is left is blocked, solving changes nothing but what is reported. -/
theorem solve_quiescent (quiescent : before.Quiescent) (rounds : before.worklist ≠ [] → 0 < config.roundLimit) :
    ∃ lines, solve false config before = (.ok (), { before with trace := lines }) := by
  change ∃ lines, solveFrom false config.roundLimit 1 config before = _
  by_cases none : before.worklist = []
  · exact ⟨before.trace, solveFrom_nil none⟩
  obtain ⟨limit, limited⟩ := Nat.exists_eq_succ_of_ne_zero (Nat.ne_of_gt (rounds none))
  obtain ⟨line, stage⟩ := @solveFrom_succ config before limit 1 none
  have blocked : ∀ obligation ∈ before.worklist, obligation.Blocked { before with worklist := [] }.subst := quiescent
  obtain ⟨lines, taken⟩ := dischargeAll_blocked config blocked
  replace taken : takeUp config before = (.ok 0, { before with trace := lines }) := taken
  obtain ⟨lines', reported⟩ := trace_lines (line 0 before.subst.size) config { before with trace := lines }
  refine ⟨lines', ?_⟩
  rw [limited, stage false, bind_run taken, read_bind, bind_run reported, if_pos ⟨rfl, rfl⟩]
  rfl

/-- A run that has left something was given a round at least. -/
theorem roundLimit_pos (run : solve final config before = (.ok (), after)) (some : after.worklist ≠ []) :
    0 < config.roundLimit := by
  by_contra none
  have limited : config.roundLimit = 0 := by omega
  change solveFrom final config.roundLimit 1 config before = _ at run
  rw [limited] at run
  by_cases empty : before.worklist = []
  · rw [solveFrom_nil empty] at run
    cases run
    exact some empty
  · rw [solveFrom_zero empty] at run
    cases run

/-- Under bindings without cycles, whatever the obligations are: what a partial run of the solver leaves is blocked, and
another one changes nothing about it. A final run binds the same variables, issues as many and leaves the same
obligations; it succeeds if there are none and refuses them otherwise. Where a partial run fails, a final one fails in
the same way. -/
theorem solve_reaches_fixpoint (config : Config) (before : State) (acyclic : before.subst.Acyclic) :
    (∀ after, solve false config before = (.ok (), after) →
      (∀ obligation ∈ after.worklist, obligation.Blocked after.subst) ∧
      (∃ again, solve false config after = (.ok (), again) ∧ again.subst = after.subst ∧
        again.worklist = after.worklist ∧ again.nextVar = after.nextVar) ∧
      solve true config before =
        (if after.worklist = [] then .ok ()
          else .error (.refused ⟨.unsolved (after.worklist.map (Obligation.apply after.subst)), "", none⟩), after)) ∧
    ∀ failure after, solve false config before = (.error failure, after) →
      solve true config before = (.error failure, after) := by
  have whole : solve true config before = (do solve false; refuseLeft) config before := by
    have partly : solve false config before = solveFrom false config.roundLimit 1 config before := rfl
    rw [bind_of_run partly]
    exact solveFrom_final config before config.roundLimit 1
  constructor
  · intro after run
    have quiescent : after.Quiescent := solveFrom_quiescent acyclic run
    obtain ⟨lines, again⟩ := solve_quiescent quiescent (roundLimit_pos run)
    refine ⟨quiescent, ⟨_, again, rfl, rfl, rfl⟩, ?_⟩
    rw [whole, bind_run run, refuseLeft_run]
  · intro failure after run
    rw [whole, run_bind, run]

/-- In the only round an instance is made and two functions are compared part by part. Neither settles anything, and
what they leave waits for the same variable as the literal does. -/
theorem solve_reaches_fixpoint_unsettled :
    let before : State :=
      { State.fresh .empty with
        nextVar := 4
        subst := Subst.empty.insert 3 (.arrow (.var ⟨0, .immutable⟩) (.atom .bool))
        worklist :=
          [.instantiated [("a", .var ⟨2, .mutable⟩)] ⟨1, .immutable⟩ ⟨3, .immutable⟩,
            .assignable (.arrow (.var ⟨0, .immutable⟩) (.atom .bool)) (.arrow (.atom .regex) (.atom .bool)),
            .conforms (some (.int 3)) (.var ⟨0, .immutable⟩)] }
    let left : List Obligation :=
      [.instantiated [("a", .var ⟨2, .mutable⟩)] ⟨4, .mutable⟩ ⟨0, .immutable⟩,
        .assignable (.var ⟨1, .immutable⟩) (.arrow (.var ⟨4, .mutable⟩) (.atom .bool)),
        .assignable (.atom .regex) (.var ⟨0, .immutable⟩), .conforms (some (.int 3)) (.var ⟨0, .immutable⟩)]
    let config : Config := ⟨id, .regular, true, false, 8⟩
    before.subst.Acyclic ∧ ∃ after, solve false config before = (.ok (), after) ∧ after.worklist = left ∧
      (∀ obligation ∈ left, obligation.Blocked after.subst) ∧
      (∃ again, solve false config after = (.ok (), again) ∧ again.worklist = left) ∧
      (solve true config before).1 =
        .error (.refused ⟨.unsolved (left.map (Obligation.apply after.subst)), "", none⟩) := by
  intro before left config
  have acyclic : before.subst.Acyclic := Subst.acyclic_empty.insert (by decide)
  have ends : (solve false config before).1.isOk = true := by decide +kernel
  have leaves : (solve false config before).2.worklist = left := by decide +kernel
  have run := run_of_isOk ends
  obtain ⟨blocked, ⟨again, rerun, _, kept, _⟩, final⟩ := (solve_reaches_fixpoint config before acyclic).1 _ run
  rw [leaves] at blocked kept final
  refine ⟨acyclic, _, run, leaves, blocked, ⟨again, rerun, kept⟩, ?_⟩
  rw [final]
  rfl

end RefinementTypes.Checking.Session
