import RefinementTypes.Proofs.Footprints

/-! What no step looks at. Steps see a session only through its view and through the answers to their requests. Whatever
stands in place of the rest, a step does the same and ends in the same way. -/

namespace RefinementTypes.Checking

/-- A relation between states that steps cannot tell apart, as long as they make no request of the hidden kinds. -/
structure Unseen (config : Config) (hidden : List Use) (related : State → State → Prop) : Prop where
  view : ∀ {first second : State}, related first second → second.toView = first.toView
  answer : ∀ {α : Type} (asked : Request α) {first second : State}, (∀ use ∈ asked.use?, use ∉ hidden) →
    related first second → (asked.answer config second).1 = (asked.answer config first).1 ∧
      related (asked.answer config first).2 (asked.answer config second).2
  scope : ∀ {first second : State}, related first second → ∀ scope,
    related { first with scope } { second with scope }

namespace Session

variable {α : Type} {config : Config} {hidden uses : List Use} {related : State → State → Prop} {first second : State}

/-- A step ends alike from related states, and leaves related states. -/
theorem Uses.respects {step : Session α} (step_uses : step.Uses uses) (unseen : Unseen config hidden related)
    (aside : ∀ use ∈ hidden, use ∉ .declare :: uses) (rel : related first second) :
    (step config second).1 = (step config first).1 ∧ related (step config first).2 (step config second).2 := by
  induction step generalizing uses first second with
  | pure | fail => exact ⟨rfl, rel⟩
  | request asked =>
    refine unseen.answer asked (fun use kind => ?_) rel
    exact fun member => aside use member (List.mem_cons_of_mem _ (step_uses use kind))
  | bind step next early late =>
    obtain ⟨same, rel'⟩ := early step_uses.1 aside rel
    unfold run
    generalize step config first = outcome at same rel' ⊢
    generalize step config second = outcome' at same rel' ⊢
    obtain ⟨result, middle⟩ := outcome
    obtain ⟨result', middle'⟩ := outcome'
    cases same
    cases result with
    | ok value => exact late value (step_uses.2 value) aside rel'
    | error failure => exact ⟨rfl, rel'⟩
  | mapError change step ih =>
    obtain ⟨same, rel'⟩ := ih step_uses aside rel
    unfold run
    generalize step config first = outcome at same rel' ⊢
    generalize step config second = outcome' at same rel' ⊢
    obtain ⟨result, after⟩ := outcome
    obtain ⟨result', after'⟩ := outcome'
    cases same
    rcases result with (error | cause) | value
    · refine ⟨?_, rel'⟩
      dsimp only
      rw [unseen.view rel']
    · exact ⟨rfl, rel'⟩
    · exact ⟨rfl, rel'⟩
  | keepingScope step ih =>
    have inside : ∀ use ∈ hidden, use ∉ Use.declare :: .declare :: uses := fun use member given =>
      (List.mem_cons.mp given).elim (fun same => aside use member (same ▸ List.mem_cons_self)) (aside use member)
    obtain ⟨same, rel'⟩ := ih step_uses.2 inside rel
    have kept : second.scope = first.scope := congrArg View.scope (unseen.view rel)
    refine ⟨same, ?_⟩
    unfold run
    dsimp only
    rw [kept]
    exact unseen.scope rel' first.scope

end Session

/-- Warnings may be anything as long as none are given or asked for. -/
theorem Unseen.rewarned (config : Config) (warnings : List TypeError) :
    Unseen config [.warn, .warnings] fun first second => second = { first with warnings } where
  view same := by rw [same]
  scope same scope := by rw [same]
  answer asked first second other same := by
    subst same
    cases asked with
    | warn | warnings => exact absurd (by decide) (other _ rfl)
    | setup | look | issue | declare | defer | clear | enter | memorize | forget => exact ⟨rfl, rfl⟩
    | bind var type =>
      simp only [Request.answer]
      split
      next => exact ⟨rfl, rfl⟩
      next => split <;> exact ⟨rfl, rfl⟩
    | consult pattern text =>
      simp only [Request.answer]
      split <;> exact ⟨rfl, rfl⟩
    | intern entry =>
      simp only [Request.answer]
      split <;> exact ⟨rfl, rfl⟩
    | report line =>
      refine ⟨rfl, ?_⟩
      simp only [Request.answer]
      split <;> rfl

/-- A step that neither gives nor reads warnings does the same whatever warnings there are. -/
theorem Session.Uses.rewarned {α : Type} {step : Session α} {uses : List Use} (step_uses : step.Uses uses)
    (aside : ∀ use ∈ [Use.warn, .warnings], use ∉ .declare :: uses) (config : Config) (before : State)
    (warnings : List TypeError) :
    step config { before with warnings } = ((step config before).1, { (step config before).2 with warnings }) := by
  obtain ⟨same, left⟩ := step_uses.respects (Unseen.rewarned config warnings) aside rfl
  exact Prod.ext same left

end RefinementTypes.Checking
