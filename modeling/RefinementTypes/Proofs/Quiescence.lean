import RefinementTypes.Proofs.Rounds
import RefinementTypes.Proofs.Signatures

/-! What the solver leaves. When it stops without settling everything, each obligation that is left is blocked, and
remains so while no further body is checked. A final run gets nowhere with such obligations. -/

namespace RefinementTypes.Checking

/-- Nothing can be done about the obligations that are left. -/
def State.Quiescent (state : State) : Prop := ∀ obligation ∈ state.worklist, obligation.Blocked state.subst

theorem State.Quiescent.of_empty {state : State} (none : state.worklist = []) : state.Quiescent := by
  intro obligation member
  rw [none] at member
  cases member

namespace Session

variable {config : Config} {before after : State} {final : Bool} {limit round : Nat}

def takeUp : Session Nat := do
  let pending ← read View.worklist
  request .clear
  dischargeAll pending

theorem takeUp_nil (none : before.worklist = []) : takeUp config before = (.ok 0, before) := by
  obtain ⟨⟨nextVar, scope, subst, worklist, store⟩, warnings⟩ := before
  cases none
  rfl

theorem solveFrom_nil {final : Bool} {limit round : Nat} (none : before.worklist = []) :
    solveFrom final limit round config before = (.ok (), before) := by
  unfold solveFrom
  rw [read_bind, none]
  rfl

theorem solveFrom_zero {final : Bool} {round : Nat} (some : before.worklist ≠ []) :
    solveFrom final 0 round config before = fault .roundLimit config before := by
  unfold solveFrom
  rw [read_bind, if_neg (by simpa using some)]

theorem solveFrom_succ {limit round : Nat} (some : before.worklist ≠ []) :
    ∃ line : Nat → Nat → View → String, ∀ final, solveFrom final (limit + 1) round config before = (do
      let settled ← takeUp
      let bound ← read fun view => view.subst.size
      trace (line settled bound)
      if settled = 0 ∧ bound = before.subst.size then stuck final
      else solveFrom final limit (round + 1)) config before := by
  refine ⟨fun settled bound _ =>
    "solve round " ++ toString round ++ ": discharged " ++ toString settled ++ " of " ++
      toString before.worklist.length ++ ", bound " ++ toString (bound - before.subst.size), fun final => ?_⟩
  have cleared : request .clear config before = (.ok (), { before with worklist := [] }) := rfl
  have taken : takeUp config before = dischargeAll before.worklist config { before with worklist := [] } := rfl
  rw [solveFrom, read_bind, if_neg (by simpa using some)]
  dsimp only
  rw [read_bind, bind_run cleared, run_bind, run_bind, taken]

private theorem takeUp_acyclic (acyclic : before.subst.Acyclic) {settled : Nat}
    (run : takeUp config before = (.ok settled, after)) : after.subst.Acyclic :=
  (grows_of_run run).acyclic acyclic

private theorem takeUp_quiescent (acyclic : before.subst.Acyclic) {settled : Nat}
    (run : takeUp config before = (.ok settled, after)) (still : after.subst.size = before.subst.size) :
    after.Quiescent := by
  have acyclic : { before with worklist := [] }.subst.Acyclic := acyclic
  rcases dischargeAll_stalls acyclic run with bound | ⟨same, left, grown, blocked⟩
  · exact absurd still (Nat.ne_of_gt bound)
  · intro obligation member
    rw [grown] at member
    rw [same]
    exact blocked obligation member

theorem solveFrom_quiescent (acyclic : before.subst.Acyclic)
    (run : solveFrom final limit round config before = (.ok (), after)) : after.Quiescent := by
  induction limit generalizing before round with
  | zero =>
    by_cases none : before.worklist = []
    · rw [solveFrom_nil none] at run
      cases run
      exact .of_empty none
    · rw [solveFrom_zero none] at run
      cases run
  | succ limit ih =>
    by_cases none : before.worklist = []
    · rw [solveFrom_nil none] at run
      cases run
      exact .of_empty none
    obtain ⟨line, same⟩ := @solveFrom_succ config before limit round none
    rw [same] at run
    obtain ⟨settled, middle, taken, run⟩ := bind_ok run
    rw [read_bind] at run
    obtain ⟨_, traced, reported, run⟩ := bind_ok run
    have alike := ((Quiet.trace _).result reported).1
    split at run
    next still =>
      cases final with
      | true => cases run
      | false =>
        cases run
        have quiescent := takeUp_quiescent acyclic taken still.2
        unfold State.Quiescent
        rw [alike.worklist, alike.subst]
        exact quiescent
    next =>
      refine ih ?_ run
      rw [alike.subst]
      exact takeUp_acyclic acyclic taken

/-- A final run succeeds on blocked obligations only if there are none. -/
theorem solve_final_quiescent (quiescent : before.Quiescent) (run : solve true config before = (.ok (), after)) :
    before.worklist = [] := by
  by_cases some : before.worklist = []
  · exact some
  exfalso
  change solveFrom true config.roundLimit 1 config before = _ at run
  cases limited : config.roundLimit with
  | zero =>
    rw [limited, solveFrom_zero some] at run
    cases run
  | succ limit =>
    obtain ⟨line, same⟩ := @solveFrom_succ config before limit 1 some
    have blocked : ∀ obligation ∈ before.worklist, obligation.Blocked { before with worklist := [] }.subst := quiescent
    obtain ⟨lines, taken⟩ := dischargeAll_blocked config blocked
    replace taken : takeUp config before = _ := taken
    rw [limited, same, bind_run taken, read_bind] at run
    obtain ⟨_, traced, reported, run⟩ := bind_ok run
    rw [if_pos ⟨rfl, rfl⟩] at run
    cases run

private theorem define_quiescent (acyclic : before.subst.Acyclic) {declared : DeclaredDecl} {body : Typed Ty}
    (run : define declared config before = (.ok body, after)) : after.Quiescent := by
  obtain ⟨_, entered, first, run⟩ := bind_ok run
  obtain ⟨_, reported, second, run⟩ := bind_ok run
  obtain ⟨_, checked, third, run⟩ := bind_ok (withinDecl_ok run)
  obtain ⟨_, solved, fourth, run⟩ := bind_ok run
  cases run
  have alike := ((Quiet.enterDecl _).result first).1.trans ((Quiet.trace _).result second).1
  refine solveFrom_quiescent ((grows_of_run third).acyclic ?_) fourth
  rw [alike.subst]
  exact acyclic

/-- Between two bodies nothing can be done about what is left. -/
theorem defineAll_quiescent (acyclic : before.subst.Acyclic) (quiescent : before.Quiescent)
    {declared : List DeclaredDecl} {order : List Nat} {bodies : List (Nat × Typed Ty)}
    (run : defineAll declared order config before = (.ok bodies, after)) : after.Quiescent := by
  induction order generalizing bodies before with
  | nil =>
    cases run
    exact quiescent
  | cons index rest ih =>
    cases found : declared[index]? with
    | none =>
      simp only [defineAll, found] at run
      cases run
    | some decl =>
      simp only [defineAll, found] at run
      obtain ⟨body, middle, first, run⟩ := bind_ok run
      obtain ⟨others, _, again, run⟩ := bind_ok run
      cases run
      exact ih ((grows_of_run first).acyclic acyclic) (define_quiescent acyclic first) again

end Session

end RefinementTypes.Checking
