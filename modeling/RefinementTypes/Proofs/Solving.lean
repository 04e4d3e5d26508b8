import RefinementTypes.Proofs.Obligations

/-! The solver loses no obligation. Each round empties the worklist and fills it again while obligations
are taken up: some split, some are put off as they are, some bind variables that others wait for.
Whatever is left at the end vouches for all that was there at the start, and a final run leaves
nothing. -/

namespace RefinementTypes.Checking

/-- An obligation about a literal or about two types, and not about an instance. -/
def Obligation.Plain : Obligation → Prop
  | conforms _ _ | assignable _ _ => True
  | instantiated _ _ _ => False

def State.Plain (state : State) : Prop := ∀ obligation ∈ state.worklist, obligation.Plain

variable {before after : State}

private theorem State.Plain.same (plain : before.Plain) (same : after.worklist = before.worklist) : after.Plain := by
  unfold State.Plain
  rw [same]
  exact plain

namespace Session

variable {config : Config}

private theorem postpone_plain {obligation : Obligation} (plain : before.Plain) (kind : obligation.Plain)
    (run : postpone obligation config before = (.ok (), after)) : after.Plain := by
  intro other member
  rw [postpone_worklist run, List.mem_append, List.mem_singleton] at member
  rcases member with old | rfl
  · exact plain other old
  · exact kind

private theorem assign_plain {expected found : Ty} (plain : before.Plain)
    (run : assign expected found config before = (.ok (), after)) : after.Plain := by
  obtain ⟨deferred, grown, _⟩ := assignN_defers run
  intro other member
  rw [grown, List.mem_append, List.mem_map] at member
  rcases member with old | ⟨pair, _, rfl⟩
  · exact plain other old
  · trivial

private theorem conform_plain {literal : Option Literal} {type : Ty} (plain : before.Plain)
    (run : conform literal type config before = (.ok (), after)) : after.Plain := by
  obtain ⟨step, rule, taken⟩ := conform_judgement literal type config before
  rw [taken.run] at run
  cases rule with
  | defer =>
    have kind : ∀ type, (Obligation.conforms literal type).Plain := fun _ => trivial
    exact postpone_plain plain (kind _) run
  | accept =>
    cases run
    exact plain
  | @text pattern text =>
    obtain ⟨answer, middle, asked, judged⟩ := bind_ok run
    have same := ((consult_uses (.refl _) pattern text).leaves asked).worklist (by decide) (by decide)
    split at judged
    next => cases judged
    next =>
      cases judged
      exact plain.same same
    next => cases judged
  | reject => cases run
  | lack => cases run

private theorem discharge_plain {obligation : Obligation} (plain : before.Plain) (kind : obligation.Plain)
    (run : discharge obligation config before = (.ok (), after)) : after.Plain := by
  cases obligation with
  | conforms literal type => exact conform_plain plain run
  | assignable expected found => exact assign_plain plain run
  | instantiated => cases kind

private theorem dischargeAll_plain {obligations : List Obligation} {settled : Nat} (plain : before.Plain)
    (kinds : ∀ obligation ∈ obligations, obligation.Plain)
    (run : dischargeAll obligations config before = (.ok settled, after)) : after.Plain := by
  induction obligations generalizing before settled with
  | nil =>
    cases run
    exact plain
  | cons obligation rest ih =>
    obtain ⟨kind, others⟩ := List.forall_mem_cons.mp kinds
    unfold dischargeAll at run
    rw [read_bind] at run
    obtain ⟨_, middle, first, run⟩ := bind_ok run
    rw [read_bind] at run
    obtain ⟨count, last, later, run⟩ := bind_ok run
    cases run
    exact ih (discharge_plain plain kind first) others later

private theorem solveFrom_plain {final : Bool} {limit round : Nat} (plain : before.Plain)
    (run : solveFrom final limit round config before = (.ok (), after)) : after.Plain := by
  induction limit generalizing before round with
  | zero =>
    unfold solveFrom at run
    rw [read_bind] at run
    split at run
    next =>
      cases run
      exact plain
    next => cases run
  | succ limit ih =>
    unfold solveFrom at run
    rw [read_bind] at run
    split at run
    next =>
      cases run
      exact plain
    next =>
      dsimp only at run
      rw [read_bind] at run
      obtain ⟨_, emptied, taken, run⟩ := bind_ok run
      cases taken
      obtain ⟨settled, middle, round, run⟩ := bind_ok run
      rw [read_bind] at run
      obtain ⟨_, traced, reported, run⟩ := bind_ok run
      have left : middle.Plain := dischargeAll_plain (fun _ member => by cases member) plain round
      have plain' : traced.Plain := left.same ((Quiet.trace _).result reported).1.worklist
      split at run
      next =>
        unfold stuck at run
        split at run
        next => cases run
        next =>
          cases run
          exact plain'
      next => exact ih plain' run

/-- Trees that fit what a run of the solver leaves, its bindings and its obligations, meet every
obligation that there was before. A final run leaves none, so that what there was is met as soon as the
bindings are followed, whatever tree stands for the variables without one. -/
theorem solve_loses_no_obligation (config : Config) (before after : State) (final : Bool)
    (exact : before.cache.Exact) (acyclic : before.subst.Acyclic) (plain : before.Plain)
    (run : solve final config before = (.ok (), after)) :
    after.Plain ∧
    (∀ assigned : Assignment, after.Solves config assigned →
      ∀ obligation ∈ before.worklist, obligation.Holds config.matcher.Accepts assigned) ∧
    (final = true → after.worklist = [] ∧ ∀ (tree : Ty), ∀ obligation ∈ before.worklist,
      obligation.Holds config.matcher.Accepts (after.subst.solution tree)) := by
  have grows := grows_of_run run
  have meets : ∀ assigned : Assignment, after.Solves config assigned →
      ∀ obligation ∈ before.worklist, obligation.Holds config.matcher.Accepts assigned := by
    intro assigned solves
    have established : Establishes assigned (solve final) config before fun _ => True := solve_establishes final
    obtain ⟨_, back⟩ := established exact () after run
    exact (back solves).1.worklist
  refine ⟨solveFrom_plain plain run, meets, ?_⟩
  rintro rfl
  have empty := solve_worklist run
  refine ⟨empty, fun tree => meets _ ⟨(grows.acyclic acyclic).solution_agrees tree, ?_⟩⟩
  rw [empty]
  exact fun _ member => by cases member

theorem run_of_isOk {step : Session Unit} (ends : (step config before).1.isOk = true) :
    step config before = (.ok (), (step config before).2) := by
  cases result : (step config before).1 with
  | error failure =>
    rw [result] at ends
    cases ends
  | ok value => exact Prod.ext result rfl

/-- The literal waits for a variable that is settled later in the round. -/
theorem solve_loses_no_obligation_literal :
    let before : State :=
      { State.fresh .empty with
        nextVar := 2
        worklist :=
          [.conforms (some (.int 3)) (.var ⟨0, .immutable⟩),
            .assignable (.var ⟨0, .mutable⟩) (.var ⟨1, .immutable⟩),
            .assignable (.arrow (.atom (.range 0 8)) (.atom .bool)) (.arrow (.var ⟨1, .mutable⟩) (.atom .bool))] }
    let config : Config := ⟨id, .regular, true, false, 8⟩
    before.cache.Exact ∧ before.subst.Acyclic ∧ before.Plain ∧ (solve true config before).1.isOk = true ∧
      (solve true config before).2.worklist = [] ∧
      ∀ (tree : Ty), ∀ obligation ∈ before.worklist,
        obligation.Holds config.matcher.Accepts ((solve true config before).2.subst.solution tree) := by
  intro before config
  have exact : before.cache.Exact := Regex.Cache.exact_empty
  have acyclic : before.subst.Acyclic := Subst.acyclic_empty
  have plain : before.Plain := by simp [State.Plain, before, Obligation.Plain]
  have ends : (solve true config before).1.isOk = true := by decide +kernel
  refine ⟨exact, acyclic, plain, ends, ?_⟩
  exact (solve_loses_no_obligation config before _ true exact acyclic plain (run_of_isOk ends)).2.2 rfl

end Session

end RefinementTypes.Checking
