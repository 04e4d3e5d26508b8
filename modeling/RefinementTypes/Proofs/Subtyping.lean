import RefinementTypes.Proofs.Assignability

/-! Comparison of types without variables. The rules of comparison are tried in a fixed order, while those of the
relation overlap and alternate sides at every arrow; still they agree, as no rule refuses what a later one would have
accepted. Nothing is bound or put off on the way, so a comparison decides the relation and leaves the session as it
was. -/

namespace RefinementTypes

namespace Ty

private theorem size_pos (type : Ty) : 0 < type.size := by
  cases type <;> simp [size]

private theorem admits_arrow_iff {domain codomain domain' codomain' : Ty} :
    (arrow domain codomain).Admits (arrow domain' codomain') ↔ domain'.Admits domain ∧ codomain.Admits codomain' := by
  constructor
  · intro admits
    cases admits with
    | refl => exact ⟨.refl _, .refl _⟩
    | arrow argument result => exact ⟨argument, result⟩
  · intro parts
    exact .arrow parts.1 parts.2

/-- Types of different forms are related only through what is impossible or reported. -/
theorem not_admits {expected found : Ty} (unlike : expected ≠ found) (yields : found ≠ .atom .bottom)
    (apart : ∀ a b c d, expected = .arrow a b → found ≠ .arrow c d)
    (unreported : expected ≠ .atom .error ∧ found ≠ .atom .error) : ¬ expected.Admits found := by
  intro admits
  cases admits with
  | refl => exact unlike rfl
  | bottom => exact yields rfl
  | errorExpected => exact unreported.1 rfl
  | errorFound => exact unreported.2 rfl
  | arrow => exact apart _ _ _ _ rfl rfl

end Ty

namespace Checking.Session

variable {config : Config} {before : State} {holds other : Prop}

/-- A step tells whether something holds. It succeeds or refuses a type in place of another, and leaves the state as
it was. -/
def Judges (step : Session Unit) (config : Config) (before : State) (holds : Prop) : Prop :=
  holds ∧ step config before = (.ok (), before) ∨
    ¬ holds ∧ ∃ expected found,
      step config before = (.error (.refused ⟨.mismatch expected found, "", none⟩), before)

namespace Judges

theorem of_run {step step' : Session Unit} (same : step config before = step' config before)
    (judges : Judges step' config before holds) : Judges step config before holds := by
  unfold Judges
  rw [same]
  exact judges

private theorem yes (met : holds) : Judges (pure ()) config before holds := .inl ⟨met, rfl⟩

private theorem both {step next : Session Unit} (first : Judges step config before holds)
    (second : Judges next config before other) :
    Judges (do step; next) config before (holds ∧ other) := by
  rcases first with ⟨met, run⟩ | ⟨unmet, expected, found, run⟩
  · have onward : (do step; next : Session Unit) config before = next config before := bind_run run
    refine .of_run onward ?_
    rcases second with ⟨met', run'⟩ | ⟨unmet', refused⟩
    · exact .inl ⟨⟨met, met'⟩, run'⟩
    · exact .inr ⟨fun parts => unmet' parts.2, refused⟩
  · refine .inr ⟨fun parts => unmet parts.1, expected, found, ?_⟩
    rw [run_bind, run]

end Judges

/-- A comparison to a depth that is no less than the nodes of both types decides whether one admits the other. -/
theorem assignN_judges {depth : Nat} {expected found : Ty} (closed : expected.vars = []) (closed' : found.vars = [])
    (enough : expected.size + found.size ≤ depth) :
    Judges (assignN depth expected found) config before (expected.Admits found) := by
  induction depth generalizing expected found with
  | zero =>
    have positive := expected.size_pos
    omega
  | succ depth ih =>
    obtain ⟨step, rule, run⟩ := assignN_comparison depth expected found config before
    refine .of_run run.run ?_
    cases rule with
    | alike same =>
      refine .yes ?_
      rcases same with rfl | same
      · exact .refl _
      · cases expected with
        | var v => cases closed
        | atom | arrow | missing => cases same
    | bottom => exact .yes (.bottom _)
    | reported either =>
      refine .yes ?_
      rcases either with rfl | rfl
      · exact .errorExpected _
      · exact .errorFound _
    | arrows domain codomain domain' codomain' =>
      obtain ⟨domainClosed, codomainClosed⟩ := List.append_eq_nil_iff.mp closed
      obtain ⟨domainClosed', codomainClosed'⟩ := List.append_eq_nil_iff.mp closed'
      simp only [Ty.size] at enough
      rw [Ty.admits_arrow_iff]
      refine .both (ih domainClosed' domainClosed ?_) (ih codomainClosed codomainClosed' ?_) <;> omega
    | clash unlike yields _ apart unreported =>
      exact .inr ⟨Ty.not_admits unlike yields apart unreported, _, _, rfl⟩
    -- The other rules are about variables.
    | expectedBound | bindExpected => cases closed
    | foundBound | bindFound => cases closed'
    | defer _ unknown =>
      obtain ⟨v, side⟩ := unknown
      rcases side with rfl | rfl
      · cases closed
      · cases closed'

private theorem assign_judges (config : Config) (before : State) {expected found : Ty} (closed : expected.vars = [])
    (closed' : found.vars = []) : Judges (assign expected found) config before (expected.Admits found) := by
  refine assignN_judges closed closed' ?_
  unfold assignDepth
  generalize total : expected.size + found.size + before.subst.weight = bulk
  have square : bulk + 1 ≤ (bulk + 1) * (bulk + 1) := Nat.le_mul_self _
  rw [Nat.mul_assoc]
  omega

/-- On types without variables, and in whatever state a session is, a comparison succeeds exactly if the expected type
admits the found one. Otherwise it is refused as a mismatch of types, and in either case nothing is bound, nothing put
off and no variable issued. -/
theorem assign_closed_iff (config : Config) (before : State) (expected found : Ty) (closed : expected.vars = [])
    (closed' : found.vars = []) :
    ((assign expected found config before).1 = .ok () ↔ expected.Admits found) ∧
      (¬ expected.Admits found → ∃ error, (assign expected found config before).1 = .error (.refused error) ∧
        error.kind = .typeMismatch) ∧
      (assign expected found config before).2 = before := by
  rcases assign_judges config before closed closed' with ⟨admits, run⟩ | ⟨refuses, _, _, run⟩
  · rw [run]
    exact ⟨⟨fun _ => admits, fun _ => rfl⟩, fun never => absurd admits never, rfl⟩
  · rw [run]
    refine ⟨⟨fun ok => ?_, fun admits => absurd admits refuses⟩, fun _ => ⟨_, rfl, rfl⟩, rfl⟩
    cases ok

/-- Where functions are passed on that never return, a function that asks for ones with a result will do, and not the
other way round. The bindings of the session run in a circle, and an obligation is waiting. -/
theorem assign_closed_iff_argument :
    let demanding : Ty := .arrow (.arrow (.atom .bool) (.atom .regex)) (.atom .bool)
    let lenient : Ty := .arrow (.arrow (.atom .bool) (.atom .bottom)) (.atom .bool)
    let before : State :=
      { State.fresh .empty with
        nextVar := 1
        subst := Subst.empty.insert 0 (.var ⟨0, .mutable⟩)
        worklist := [.conforms (some (.int 3)) (.var ⟨0, .immutable⟩)] }
    let config : Config := ⟨id, .regular, true, false, 8⟩
    demanding.vars = [] ∧ lenient.vars = [] ∧ lenient.Admits demanding ∧ ¬ demanding.Admits lenient ∧
      (∃ error, (assign demanding lenient config before).1 = .error (.refused error) ∧ error.kind = .typeMismatch) ∧
      (assign lenient demanding config before).2 = before := by
  intro demanding lenient before config
  obtain ⟨accepts, _, kept⟩ := assign_closed_iff config before lenient demanding rfl rfl
  obtain ⟨decides, refused, _⟩ := assign_closed_iff config before demanding lenient rfl rfl
  have apart : ¬ demanding.Admits lenient := fun admits => by cases decides.mpr admits
  exact ⟨rfl, rfl, accepts.mp rfl, apart, refused apart, kept⟩

end Checking.Session

end RefinementTypes
