import RefinementTypes.Checking.Solve
import RefinementTypes.Proofs.Steps

/-! The rules by which an expected type is compared with a found one, and a literal with a type. They
are tried in a fixed order; here each stands by itself, with what makes it the rule that applies, so
that what comparisons keep is shown rule by rule. -/

namespace RefinementTypes

def Subst.target (s : Subst) : Ty → Option Ty
  | .var v => s.lookup v.id
  | .atom _ | .arrow _ _ | .missing => none

private theorem Subst.target_some {s : Subst} {type bound : Ty} (known : s.target type = some bound) :
    ∃ v, type = .var v ∧ s.lookup v.id = some bound := by
  cases type with
  | var v => exact ⟨v, rfl, known⟩
  | atom _ | arrow _ _ | missing => cases known

namespace Checking.Session

theorem boundTo_eq (type : Ty) : boundTo type = read fun view => view.subst.target type := by
  cases type <;> rfl

theorem postpone_run (obligation : Obligation) (config : Config) (before : State) :
    ∃ after, postpone obligation config before = (.ok (), after) ∧
      State.Alike { before with worklist := before.worklist ++ [obligation] } after := by
  obtain ⟨after, traced, alike⟩ := trace_run
    (fun view => "defer " ++ (obligation.apply view.subst).render) config
    { before with worklist := before.worklist ++ [obligation] }
  exact ⟨after, traced, alike⟩

theorem solveVar_ok {config : Config} {before after : State} {var : TyVar} {type : Ty}
    (run : solveVar var type config before = (.ok (), after)) :
    before.subst.occurs var.id type = false ∧ before.subst.lookup var.id = none ∧
      State.Alike { before with subst := before.subst.insert var.id type } after := by
  obtain ⟨_, middle, bound, traced⟩ := bind_ok run
  obtain ⟨absent, free, rfl⟩ := Request.answer_bind.mp bound
  exact ⟨absent, free, ((Quiet.trace _).result traced).1⟩

/-- A free variable is bound unless it occurs in the type. -/
theorem solveVar_run {var : TyVar} {before : State} (free : before.subst.lookup var.id = none) (type : Ty)
    (config : Config) :
    before.subst.occurs var.id type = true ∧ solveVar var type config before =
        (.error (.refused ⟨.infinite var.id (before.subst.apply type), "", none⟩), before) ∨
      before.subst.occurs var.id type = false ∧ ∃ after, solveVar var type config before = (.ok (), after) ∧
        State.Alike { before with subst := before.subst.insert var.id type } after := by
  unfold solveVar
  cases occurs : before.subst.occurs var.id type with
  | true =>
    have turned : request (.bind var.id type) config before = _ := Request.answer_bind_occurs occurs
    exact .inl ⟨rfl, by rw [run_bind, turned]⟩
  | false =>
    have bound : request (.bind var.id type) config before = _ := Request.answer_bind.mpr ⟨occurs, free, rfl⟩
    obtain ⟨after, traced, alike⟩ := trace_run
      (fun view => "bind " ++ var.label ++ " := " ++ (view.subst.apply type).render) config
      { before with subst := before.subst.insert var.id type }
    exact .inr ⟨rfl, after, (bind_run bound).trans traced, alike⟩

/-- The step that a comparison takes, where parts and bindings are compared by `again`. -/
inductive Comparison (s : Subst) (again : Ty → Ty → Session Unit) : Ty → Ty → Session Unit → Prop
  | alike {expected found : Ty} (same : expected = found ∨ expected.sameVar found = true) :
      Comparison s again expected found (pure ())
  | bottom (expected : Ty) : Comparison s again expected (.atom .bottom) (pure ())
  | expectedBound {v : TyVar} {found bound : Ty} (known : s.lookup v.id = some bound) :
      Comparison s again (.var v) found (again bound found)
  | foundBound {w : TyVar} {expected bound : Ty} (free : s.target expected = none)
      (known : s.lookup w.id = some bound) : Comparison s again expected (.var w) (again expected bound)
  | bindExpected {v : TyVar} {found : Ty} (unlike : (Ty.var v).sameVar found = false)
      (free : s.lookup v.id = none) (settled : s.target found = none) (owned : v.isMutable = true) :
      Comparison s again (.var v) found (solveVar v found)
  | bindFound {w : TyVar} {expected : Ty} (unlike : expected.sameVar (.var w) = false)
      (free : s.lookup w.id = none) (settled : s.target expected = none) (owned : w.isMutable = true)
      (foreign : ∀ v, expected = .var v → v.isMutable = false) :
      Comparison s again expected (.var w) (solveVar w expected)
  | defer {expected found : Ty} (unlike : expected.sameVar found = false)
      (unknown : ∃ v, expected = .var v ∨ found = .var v)
      (waits : ∀ v, expected = .var v ∨ found = .var v → s.lookup v.id = none ∧ v.isMutable = false) :
      Comparison s again expected found (postpone (.assignable expected found))
  | arrows (domain codomain domain' codomain' : Ty) :
      Comparison s again (.arrow domain codomain) (.arrow domain' codomain')
        (do again domain' domain; again codomain codomain')
  | reported {expected found : Ty} (either : expected = .atom .error ∨ found = .atom .error) :
      Comparison s again expected found (pure ())
  | clash {expected found : Ty} (unlike : expected ≠ found) (yields : found ≠ .atom .bottom)
      (known : ∀ v, expected ≠ .var v ∧ found ≠ .var v)
      (apart : ∀ a b c d, expected = .arrow a b → found ≠ .arrow c d)
      (unreported : expected ≠ .atom .error ∧ found ≠ .atom .error) :
      Comparison s again expected found (mismatch expected found)

private theorem assignUnbound_comparison {s : Subst} {again : Ty → Ty → Session Unit} {expected found : Ty}
    (unlike : expected ≠ found) (apart : expected.sameVar found = false)
    (yields : found ≠ .atom .bottom) (free : s.target expected = none) (free' : s.target found = none) :
    Comparison s again expected found (assignUnbound again expected found) := by
  unfold assignUnbound
  split
  next v w =>
    split
    next owned => exact .bindExpected apart free free' owned
    next foreign =>
      split
      next owned => exact .bindFound apart free' free owned (by rintro _ ⟨⟩; simpa using foreign)
      next foreign' =>
        refine .defer apart ⟨v, .inl rfl⟩ ?_
        rintro other (same | same) <;> cases same
        · exact ⟨free, by simpa using foreign⟩
        · exact ⟨free', by simpa using foreign'⟩
  next v other =>
    split
    next owned => exact .bindExpected apart free free' owned
    next foreign =>
      refine .defer apart ⟨v, .inl rfl⟩ ?_
      rintro w (same | same)
      · cases same
        exact ⟨free, by simpa using foreign⟩
      · exact absurd same (other w)
  next w other =>
    split
    next owned => exact .bindFound apart free' free owned fun v same => absurd same (other v)
    next foreign =>
      refine .defer apart ⟨w, .inr rfl⟩ ?_
      rintro v (same | same)
      · exact absurd same (other v)
      · cases same
        exact ⟨free', by simpa using foreign⟩
  next => exact .arrows _ _ _ _
  next known known' _ shapes =>
    split
    next either => exact .reported either
    next neither =>
      exact .clash unlike yields (fun v => ⟨known v, known' v⟩) shapes (by simpa using neither)

/-- Every comparison takes the step of one of the rules. -/
theorem assignN_comparison (depth : Nat) (expected found : Ty) (config : Config) (before : State) :
    ∃ step, Comparison before.subst (assignN depth) expected found step ∧
      AmountsTo (assignN (depth + 1) expected found) step config before := by
  by_cases trivial : expected = found ∨ expected.sameVar found = true ∨ found = .atom .bottom
  · refine ⟨pure (), ?_, by simp only [assignN, if_pos trivial]; exact .refl _⟩
    rcases trivial with same | same | rfl
    · exact .alike (.inl same)
    · exact .alike (.inr same)
    · exact .bottom expected
  · simp only [assignN, if_neg trivial, boundTo_eq]
    simp only [not_or, Bool.not_eq_true] at trivial
    obtain ⟨unlike, apart, yields⟩ := trivial
    cases known : before.subst.target expected with
    | some bound =>
      obtain ⟨v, rfl, found⟩ := Subst.target_some known
      exact ⟨_, .expectedBound found, .read (by rw [known]; exact .refl _)⟩
    | none =>
      cases known' : before.subst.target found with
      | some bound =>
        obtain ⟨w, rfl, found⟩ := Subst.target_some known'
        exact ⟨_, .foundBound known found, .read (by rw [known]; exact .read (by rw [known']; exact .refl _))⟩
      | none =>
        exact ⟨_, assignUnbound_comparison unlike apart yields known known',
          .read (by rw [known]; exact .read (by rw [known']; exact .refl _))⟩

def judgeText (pattern text : String) : Session Unit := do
  match ← consult pattern text with
  | .error problem => refuse (.badPattern pattern problem)
  | .ok true => return
  | .ok false => refuse (.noMatch (.string text) (.atom (.string pattern)))

inductive Judgement (s : Subst) (literal : Option Literal) (type : Ty) : Session Unit → Prop
  | defer {v : TyVar} (unknown : s.shallow type = .var v) :
      Judgement s literal type (postpone (.conforms literal (.var v)))
  | accept (belongs : ∀ accepts, Conforms accepts literal (s.shallow type)) :
      Judgement s literal type (pure ())
  | text {pattern text : String} (strings : s.shallow type = .atom (.string pattern))
      (given : literal = some (.string text)) : Judgement s literal type (judgeText pattern text)
  | reject (cause : Cause) (known : ∀ v, s.shallow type ≠ .var v)
      (unfit : ∀ accepts, ¬ Conforms accepts literal (s.shallow type)) :
      Judgement s literal type (refuse cause)
  | lack (absent : literal = none) (known : ∀ v, s.shallow type ≠ .var v)
      (unfit : ∀ accepts, ¬ Conforms accepts literal (s.shallow type)) :
      Judgement s literal type (fault .absent)

theorem conform_judgement (literal : Option Literal) (type : Ty) (config : Config) (before : State) :
    ∃ step, Judgement before.subst literal type step ∧
      AmountsTo (conform literal type) step config before := by
  refine ⟨_, ?_, .read (.refl _)⟩
  generalize shape : before.subst.shallow type = resolved
  split
  next v => exact .defer shape
  next => exact .accept fun _ => shape ▸ .error _
  next => exact .accept fun _ => shape ▸ .bool _
  next => exact .accept fun _ => shape ▸ .regex _
  next low high value =>
    split
    next inside => exact .accept fun _ => shape ▸ .range inside.1 inside.2
    next outside =>
      refine .reject _ (by simp [shape]) fun accepts conforms => ?_
      rw [shape] at conforms
      cases conforms with
      | range least less => exact outside ⟨least, less⟩
  next => exact .text shape rfl
  next unbound unreported notBool notRegex notRange notString =>
    have known : ∀ v, before.subst.shallow type ≠ .var v := by
      rw [shape]
      exact unbound
    have unfit : ∀ accepts, ¬ Conforms accepts literal (before.subst.shallow type) := by
      intro accepts conforms
      rw [shape] at conforms
      cases conforms with
      | error => exact unreported rfl
      | bool value => exact notBool value rfl rfl
      | regex source => exact notRegex source rfl rfl
      | range => exact notRange _ _ _ rfl rfl
      | string => exact notString _ _ rfl rfl
    cases literal with
    | some value => exact .reject _ known unfit
    | none => exact .lack rfl known unfit

end Checking.Session

end RefinementTypes
