import RefinementTypes.Checking.Session
import RefinementTypes.Proofs.Trees

/-! Which literals belong to which types. Patterns are judged by a matcher; the one for regular
expressions keeps what it has read, and gives the answers of one that keeps nothing. -/

namespace RefinementTypes.Regex.Cache

/-- Every automaton that is kept is that of its expression. -/
def Exact (cache : Cache) : Prop :=
  ∀ entry ∈ cache.entries, ∃ node, parse entry.1 = .ok node ∧ entry.2 = Automaton.ofNode node

variable {cache : Cache}

theorem exact_empty : Cache.empty.Exact := by
  intro entry member
  cases member

private theorem automaton_kept {pattern : String} {automaton : Automaton} (exact : cache.Exact)
    (kept : cache.entries.lookup pattern = some automaton) :
    ∃ node, parse pattern = .ok node ∧ automaton = .ofNode node :=
  exact (pattern, automaton) (mem_of_lookup_eq kept)

theorem Exact.search_cache (exact : cache.Exact) (pattern text : String) :
    (cache.search pattern text).2.Exact := by
  unfold search automaton
  cases kept : cache.entries.lookup pattern with
  | some automaton => exact exact
  | none =>
    cases parsed : parse pattern with
    | error problem => exact exact
    | ok node =>
      intro entry member
      rcases List.mem_cons.mp member with rfl | old
      · exact ⟨node, parsed, rfl⟩
      · exact exact entry old

theorem Exact.search_result (exact : cache.Exact) (pattern text : String) :
    (cache.search pattern text).1 = (Cache.empty.search pattern text).1 := by
  unfold search automaton
  cases kept : cache.entries.lookup pattern with
  | some automaton =>
    obtain ⟨node, parsed, rfl⟩ := automaton_kept exact kept
    simp [empty, parsed]
  | none => cases parse pattern <;> simp [empty]

end RefinementTypes.Regex.Cache

namespace RefinementTypes.Checking

/-- A pattern has a match in a text, by the rule that the matcher stands for. -/
def Matcher.Accepts (matcher : Matcher) (pattern text : String) : Prop :=
  match matcher with
  | .custom decide => decide pattern text = .ok true
  | .regular => (Regex.Cache.empty.search pattern text).1 = .ok true

/-- A literal belongs to a type. Every literal belongs to the type of what has been reported. -/
inductive Conforms (accepts : String → String → Prop) : Option Literal → Ty → Prop
  | error (literal : Option Literal) : Conforms accepts literal (.atom .error)
  | bool (value : Bool) : Conforms accepts (some (.bool value)) (.atom .bool)
  | regex (source : String) : Conforms accepts (some (.regex source)) (.atom .regex)
  | range {low high value : Int} (least : low ≤ value) (less : value < high) :
      Conforms accepts (some (.int value)) (.atom (.range low high))
  | string {pattern text : String} (accepted : accepts pattern text) :
      Conforms accepts (some (.string text)) (.atom (.string pattern))

theorem Session.consult_accepts {config : Config} {before after : State} {pattern text : String}
    (exact : before.cache.Exact)
    (answer : Session.consult pattern text config before = (.ok (.ok true), after)) :
    config.matcher.Accepts pattern text := by
  unfold Session.consult at answer
  unfold Matcher.Accepts
  cases matcher : config.matcher with
  | custom decide =>
    simp only [Session.run, Request.answer, matcher, Prod.mk.injEq, Except.ok.injEq] at answer
    exact answer.1
  | regular =>
    simp only [Session.run, Request.answer, matcher, Prod.mk.injEq, Except.ok.injEq] at answer
    rw [← exact.search_result pattern text]
    cases result : (before.cache.search pattern text).1 with
    | error problem =>
      rw [result] at answer
      cases answer.1
    | ok found =>
      rw [result] at answer
      exact congrArg Except.ok (Except.ok.inj answer.1)

theorem Session.consult_of_accepts {config : Config} {before : State} {pattern text : String}
    (exact : before.cache.Exact) (accepted : config.matcher.Accepts pattern text) :
    (Session.consult pattern text config before).1 = .ok (.ok true) := by
  unfold Matcher.Accepts at accepted
  unfold Session.consult
  cases matcher : config.matcher with
  | custom decide =>
    rw [matcher] at accepted
    simp only [Session.run, Request.answer, matcher]
    exact congrArg Except.ok accepted
  | regular =>
    rw [matcher] at accepted
    simp only [Session.run, Request.answer, matcher]
    rw [exact.search_result pattern text, accepted]
    rfl

end RefinementTypes.Checking
