import RefinementTypes.Proofs.Indifference
import RefinementTypes.Proofs.Soundness

/-! A checker can be used again. A session begins with nothing that earlier ones have left but the expressions that the
matcher has read, and as those are kept exactly they change no answer. So a checker that has been used for whatever came
before does with a program all that a new one does. -/

namespace RefinementTypes.Checking

/-- Two states differ in nothing but what the matcher has read, which is right in both. -/
inductive State.Reread (first : State) : State → Prop
  | mk {cache : Regex.Cache} (exact : first.cache.Exact) (exact' : cache.Exact) : Reread first { first with cache }

namespace State.Reread

/-- The matcher is a rule of its own, or what it has read does not change its answers. -/
theorem consult {first second : State} (config : Config) (pattern text : String) (reread : first.Reread second) :
    (Session.consult pattern text config second).1 = (Session.consult pattern text config first).1 ∧
      (Session.consult pattern text config first).2.Reread (Session.consult pattern text config second).2 := by
  cases reread with
  | @mk cache exact exact' =>
    simp only [Session.consult, Session.run, Request.answer]
    split
    next => exact ⟨rfl, .mk exact exact'⟩
    next =>
      have answer : (cache.search pattern text).1 = (first.cache.search pattern text).1 :=
        (exact'.search_result pattern text).trans (exact.search_result pattern text).symm
      dsimp only
      rw [answer]
      exact ⟨rfl, .mk (exact.search_cache pattern text) (exact'.search_cache pattern text)⟩

end State.Reread

/-- What the matcher has read is not shown to any step. -/
theorem Unseen.reread (config : Config) : Unseen config [] State.Reread where
  view reread := by
    cases reread with
    | mk => rfl
  scope reread scope := by
    cases reread with
    | mk exact exact' => exact .mk exact exact'
  answer asked first second _ reread := by
    cases asked with
    | consult pattern text => exact reread.consult config pattern text
    | setup | look | issue | declare | defer | clear | enter | warn | warnings | memorize | forget =>
      cases reread with
      | mk exact exact' => exact ⟨rfl, .mk exact exact'⟩
    | bind var type =>
      cases reread with
      | mk exact exact' =>
        simp only [Request.answer]
        split
        next => exact ⟨rfl, .mk exact exact'⟩
        next => split <;> exact ⟨rfl, .mk exact exact'⟩
    | intern entry =>
      cases reread with
      | mk exact exact' =>
        simp only [Request.answer]
        split <;> exact ⟨rfl, .mk exact exact'⟩
    | report line =>
      cases reread with
      | mk exact exact' =>
        refine ⟨rfl, ?_⟩
        simp only [Request.answer]
        split <;> exact .mk exact exact'

/-- Every step comes to the same whatever the matcher has read, if what it has read is right. -/
theorem Session.run_reread {α : Type} (step : Session α) (config : Config) {first second : State}
    (reread : first.Reread second) :
    ∃ result after after', step config first = (result, after) ∧ step config second = (result, after') ∧
      after.Reread after' := by
  obtain ⟨same, reread'⟩ := (uses_all Use.mem_all : step.Uses Use.all).respects (.reread config) (by simp) reread
  exact ⟨(step config first).1, (step config first).2, (step config second).2, rfl, Prod.ext same rfl, reread'⟩

namespace Checker

/-- Two checkers that were set up alike and have read rightly what they have read do the same with a program. -/
theorem check_reread {first second : Checker} (config : second.config = first.config)
    (exact : first.state.cache.Exact) (exact' : second.state.cache.Exact) (decls : List (Option Decl)) :
    (second.check decls).1 = (first.check decls).1 ∧
      (second.check decls).2.error? = (first.check decls).2.error? ∧
      (first.check decls).2.state.Reread (second.check decls).2.state := by
  have fresh : (State.fresh first.state.cache).Reread (.fresh second.state.cache) := .mk exact exact'
  obtain ⟨result, state, state', run, run', reread⟩ := (Session.checkDecls decls).run_reread first.config fresh
  unfold Checker.check reset
  dsimp only
  rw [config, run, run']
  cases result with
  | ok program => exact ⟨rfl, rfl, reread⟩
  | error failure =>
    cases failure with
    | fault cause => exact ⟨rfl, rfl, reread⟩
    | refused error =>
      obtain ⟨_, reported, reported', trace, trace', reread'⟩ :=
        (Session.trace fun _ => "failed: " ++ error.text).run_reread first.config reread
      refine ⟨rfl, rfl, ?_⟩
      dsimp only
      rw [trace, trace']
      exact reread'

private theorem check_sessions (checker : Checker) (decls : List (Option Decl)) :
    (checker.check decls).2.sessions = checker.sessions + 1 := by
  unfold Checker.check
  dsimp only
  split <;> rfl

private theorem afterAll_sessions (checker : Checker) (history : List (List (Option Decl))) :
    (checker.afterAll history).sessions = checker.sessions + history.length := by
  induction history generalizing checker with
  | nil => rfl
  | cons decls rest ih =>
    change ((checker.check decls).2.afterAll rest).sessions = _
    rw [ih, check_sessions, List.length_cons]
    omega

/-- Sessions are independent. Whatever a checker was used for before, and however that ended, it does with a program
what a new one does: it returns the same, reports the same error and leaves the same behind. Only the number of the
session and what the matcher has read are its own. -/
theorem check_afterAll_like_new (config : Config) (history : List (List (Option Decl))) (decls : List (Option Decl)) :
    let used := ((Checker.new config).afterAll history).check decls
    let new := (Checker.new config).check decls
    used.1 = new.1 ∧ used.2.error? = new.2.error? ∧ used.2.invalid? = new.2.invalid? ∧
      used.2 = { new.2 with
        sessions := new.2.sessions + history.length
        state := { new.2.state with cache := used.2.state.cache } } := by
  have ready := Ready.new config
  have ready' := ready.afterAll history
  generalize aged : (Checker.new config).afterAll history = checker at ready'
  intro used new
  obtain ⟨result, error, reread⟩ : used.1 = new.1 ∧ used.2.error? = new.2.error? ∧
      new.2.state.Reread used.2.state := check_reread ready'.config ready.exact ready'.exact decls
  have sessions : used.2.sessions = new.2.sessions + history.length := by
    have count := (Checker.new config).afterAll_sessions history
    rw [aged] at count
    rw [check_sessions, check_sessions, count]
    omega
  have setUp : used.2.config = new.2.config :=
    (ready'.check decls).config.trans (ready.check decls).config.symm
  have state : used.2.state = { new.2.state with cache := used.2.state.cache } := by
    generalize used.2.state = left at reread
    cases reread with
    | mk exact exact' => rfl
  refine ⟨result, error, by rw [invalid?, invalid?, error], ?_⟩
  rw [← state, ← sessions]
  dsimp only
  rw [← error, ← setUp]

end Checker

end RefinementTypes.Checking
