import RefinementTypes.Proofs.Depth
import RefinementTypes.Proofs.Invariant

/-! Runs under a policy. A policy says which types a session may hold and what is known of its bindings.
`Follows` says of a step that is begun under a policy that the states it passes are all under it, however
it ends, how many variables it issues at most, what it returns and which faults may stop it. -/

namespace RefinementTypes

/-- A form was met that is not known, or a part that should be there is not. -/
def Fault.Unknown : Fault → Prop
  | unknownExpr | unknownPat | unknownTypeExpr | exprForm _ | patForm _ | absent => True
  | unknownTy | alreadyBound | missingType | unissuedType _ | depthLimit | roundLimit => False

/-- A fault of what is checked, and not of a bound that was reached. -/
def Fault.Proper (cause : Fault) : Prop := cause ≠ .depthLimit ∧ cause ≠ .roundLimit

theorem Fault.Unknown.proper {cause : Fault} (unknown : cause.Unknown) : cause.Proper := by
  constructor <;> rintro rfl <;> exact unknown

namespace Checking

/-- What a run keeps to: the leaves that may be brought in, the types that may be held once so many variables
have been issued, whether variables may be tied to instances of what others come to be bound to, how many
parameters a name has at most where they may not, whether forms may be met that are not known, and what is
known of the variables issued and the bindings. -/
structure Policy where
  leaf : Ty → Prop
  admits : Nat → Ty → Prop
  ties : Prop
  width : Nat
  foreign : Prop
  knows : Nat → Subst → Prop
  mono : ∀ {limit more : Nat} {type : Ty}, limit ≤ more → admits limit type → admits more type
  proper : ∀ {a : Atom}, a ≠ .bottom → a ≠ .error → leaf (.atom a)
  atom : ∀ (limit : Nat) {a : Atom}, leaf (.atom a) → admits limit (.atom a)
  arrow : ∀ {limit : Nat} {domain codomain : Ty},
    admits limit (.arrow domain codomain) ↔ admits limit domain ∧ admits limit codomain
  lend : ∀ {limit : Nat} {v : TyVar}, admits limit (.var v) → admits limit (.var ⟨v.id, .immutable⟩)
  issue : ∀ {limit : Nat} {s : Subst}, knows limit s →
    knows (limit + 1) s ∧ ∀ mutability, admits (limit + 1) (.var ⟨limit, mutability⟩)
  bind : ∀ {limit : Nat} {s : Subst} {v : TyVar} {type : Ty}, knows limit s → admits limit (.var v) →
    v.isMutable = true → s.lookup v.id = none → knows limit (s.insert v.id type)

namespace Policy

variable {policy : Policy} {limit more : Nat}

theorem lends {type : Ty} (admits : policy.admits limit type) :
    policy.admits limit (type.setMutability .immutable) := by
  induction type with
  | arrow domain codomain left right =>
    obtain ⟨first, second⟩ := policy.arrow.mp admits
    exact policy.arrow.mpr ⟨left first, right second⟩
  | var v => exact policy.lend admits
  | atom | missing => exact admits

/-- A variable that may be referred to, by those who own it or by others. -/
def Refers (policy : Policy) (limit id : Nat) : Prop := ∃ mutability, policy.admits limit (.var ⟨id, mutability⟩)

theorem Refers.mono {id : Nat} (refers : policy.Refers limit id) (le : limit ≤ more) : policy.Refers more id :=
  refers.imp fun _ => policy.mono le

/-- The obligations that may be left. -/
def Permits (policy : Policy) (limit : Nat) : Obligation → Prop
  | .conforms literal type => policy.admits limit type ∧ (literal = none → policy.foreign)
  | .assignable expected found => policy.admits limit expected ∧ policy.admits limit found
  | .instantiated params fresh generic =>
    policy.ties ∧ (∀ param ∈ params, policy.admits limit param.2) ∧ policy.admits limit (.var fresh) ∧
      policy.Refers limit generic.id

theorem Permits.mono {obligation : Obligation} (permits : policy.Permits limit obligation) (le : limit ≤ more) :
    policy.Permits more obligation := by
  cases obligation with
  | conforms => exact ⟨policy.mono le permits.1, permits.2⟩
  | assignable => exact ⟨policy.mono le permits.1, policy.mono le permits.2⟩
  | instantiated =>
    obtain ⟨ties, replaced, fresh, generic⟩ := permits
    exact ⟨ties, fun param member => policy.mono le (replaced param member), policy.mono le fresh, generic.mono le⟩

/-- The templates that names may have. Unless variables may be tied to instances, a template with
parameters has no variables. -/
structure Offers (policy : Policy) (limit : Nat) (template : Template) : Prop where
  admits : policy.admits limit template.type
  closed : template.params ≠ [] → policy.ties ∨ template.type.vars = [] ∧ template.params.length ≤ policy.width

theorem Offers.mono {template : Template} (offers : policy.Offers limit template) (le : limit ≤ more) :
    policy.Offers more template :=
  ⟨policy.mono le offers.admits, offers.closed⟩

end Policy

/-- All that a state holds is as a policy asks. -/
structure State.Under (policy : Policy) (state : State) : Prop where
  knows : policy.knows state.nextVar state.subst
  bindings : ∀ binding ∈ state.subst.bindings,
    policy.Refers state.nextVar binding.1 ∧ policy.admits state.nextVar binding.2
  worklist : ∀ obligation ∈ state.worklist, policy.Permits state.nextVar obligation
  scope : ∀ entry ∈ state.scope.entries, policy.Offers state.nextVar entry.2

namespace State.Under

variable {policy : Policy} {state : State}

theorem fresh (cache : Regex.Cache) (knows : policy.knows 0 .empty) : (State.fresh cache).Under policy where
  knows := knows
  bindings _ member := by cases member
  worklist _ member := by cases member
  scope _ member := by cases member

theorem aside (under : state.Under policy) {other : State} (aside : state.Aside other) : other.Under policy where
  knows := by rw [aside.nextVar, aside.subst]; exact under.knows
  bindings := by rw [aside.nextVar, aside.subst]; exact under.bindings
  worklist := by rw [aside.nextVar, aside.worklist]; exact under.worklist
  scope := by rw [aside.nextVar, aside.scope]; exact under.scope

theorem issue (under : state.Under policy) : State.Under policy { state with nextVar := state.nextVar + 1 } where
  knows := (policy.issue under.knows).1
  bindings binding member :=
    ⟨(under.bindings binding member).1.mono (Nat.le_succ _),
      policy.mono (Nat.le_succ _) (under.bindings binding member).2⟩
  worklist obligation member := (under.worklist obligation member).mono (Nat.le_succ _)
  scope entry member := (under.scope entry member).mono (Nat.le_succ _)

theorem bind (under : state.Under policy) {v : TyVar} {type : Ty} (owned : v.isMutable = true)
    (free : state.subst.lookup v.id = none) (held : policy.admits state.nextVar (.var v))
    (admits : policy.admits state.nextVar type) :
    State.Under policy { state with subst := state.subst.insert v.id type } where
  knows := policy.bind under.knows held owned free
  bindings := List.forall_mem_cons.mpr ⟨⟨⟨v.mutability, held⟩, admits⟩, under.bindings⟩
  worklist := under.worklist
  scope := under.scope

theorem defer (under : state.Under policy) {obligation : Obligation}
    (permits : policy.Permits state.nextVar obligation) :
    State.Under policy { state with worklist := state.worklist ++ [obligation] } where
  knows := under.knows
  bindings := under.bindings
  worklist := List.forall_mem_append.mpr ⟨under.worklist, List.forall_mem_singleton.mpr permits⟩
  scope := under.scope

theorem take (under : state.Under policy) : State.Under policy { state with worklist := [] } :=
  ⟨under.knows, under.bindings, fun _ member => (by cases member), under.scope⟩

theorem enter (under : state.Under policy) {scope : NameMap Template}
    (offers : ∀ entry ∈ scope.entries, policy.Offers state.nextVar entry.2) : State.Under policy { state with scope } :=
  ⟨under.knows, under.bindings, under.worklist, offers⟩

theorem lookup (under : state.Under policy) {id : Nat} {type : Ty} (found : state.subst.lookup id = some type) :
    policy.admits state.nextVar type :=
  (under.bindings _ (Subst.mem_of_lookup found)).2

theorem shallow (under : state.Under policy) {type : Ty} (admits : policy.admits state.nextVar type) :
    policy.admits state.nextVar (state.subst.shallow type) :=
  Subst.shallow_preserves (fun _ _ _ found => under.lookup found) admits

end State.Under

namespace Session

variable {α β : Type} {policy : Policy} {config : Config} {before after : State} {uses : List Use}

/-- How a step ends that has kept to a policy. Variables are not counted where they may be tied to
instances. What is returned has a property that depends on the variables issued, and so has a fault, at
least if the bindings had no cycles. -/
structure Ends (policy : Policy) (cost : Nat) (step : Session α) (config : Config) (before : State)
    (good : α → Nat → Prop) (bad : Fault → Nat → Prop) : Prop where
  path : ∀ state ∈ step.passed config before, state.Under policy
  spent : policy.ties ∨ (step config before).2.nextVar ≤ before.nextVar + cost
  result : ∀ value, (step config before).1 = .ok value → good value (step config before).2.nextVar
  faults : before.subst.Acyclic → ∀ cause, (step config before).1 = .error (.fault cause) →
    bad cause (step config before).2.nextVar

/-- A step that is begun under a policy keeps to it. -/
def Follows (policy : Policy) (cost : Nat) (step : Session α) (config : Config) (before : State)
    (good : α → Nat → Prop) (bad : Fault → Nat → Prop) : Prop :=
  before.Under policy → Ends policy cost step config before good bad

theorem Ends.last {step : Session α} {cost : Nat} {good : α → Nat → Prop} {bad : Fault → Nat → Prop}
    (ends : Ends policy cost step config before good bad) (under : before.Under policy) :
    (step config before).2.Under policy := by
  rcases List.mem_cons.mp (step.run_mem_passed config before) with same | passed
  · rw [same]
    exact under
  · exact ends.path _ passed

private theorem Uses.aside {step : Session α} (step_uses : step.Uses uses)
    (apart : ∀ use ∈ [.issue, .bind, .declare, .defer, .clear, .scope], use ∉ uses) :
    (∀ state ∈ step.passed config before, before.Aside state) ∧ before.Aside (step config before).2 := by
  have aside {first second : State} (untouched : first.Untouched uses second) : first.Aside second :=
    ⟨untouched.nextVar (apart _ (by simp)), untouched.scope (apart _ (by simp)), untouched.subst (apart _ (by simp)),
      untouched.worklist (apart _ (by simp)) (apart _ (by simp))⟩
  refine ⟨?_, aside (step_uses.untouched config before)⟩
  induction step generalizing before with
  | pure | fail => exact fun _ member => by cases member
  | bind step next first rest =>
    intro state member
    change state ∈ (step >>= next).passed config before at member
    rw [passed_bind] at member
    rcases List.mem_append.mp member with early | late
    · exact first step_uses.1 state early
    · cases outcome : step config before with
      | mk result middle =>
        rw [outcome] at late
        cases result with
        | error failure => cases late
        | ok value =>
          exact (aside (step_uses.1.leaves outcome)).trans (rest value (step_uses.2 value) state late)
  | request asked =>
    intro state member
    rw [List.mem_singleton.mp member]
    exact aside (step_uses.untouched config before)
  | mapError change step ih => exact ih step_uses
  | keepingScope step ih => exact absurd step_uses.1 (apart _ (by simp))

namespace Follows

variable {cost more : Nat} {good : α → Nat → Prop} {better : β → Nat → Prop} {bad : Fault → Nat → Prop}

theorem given {step : Session α} (follows : before.Under policy → Follows policy cost step config before good bad) :
    Follows policy cost step config before good bad :=
  fun under => follows under under

theorem reached {step : Session α} {value : α} (follows : Follows policy cost step config before good bad)
    (under : before.Under policy) (run : step config before = (.ok value, after)) :
    before.nextVar ≤ after.nextVar ∧ after.Under policy ∧ good value after.nextVar := by
  have last := (follows under).last under
  have result := (follows under).result
  rw [run] at last result
  exact ⟨(grows_of_run run).issued, last, result value rfl⟩

theorem amounts {step other : Session α} (same : AmountsTo step other config before)
    (follows : Follows policy cost other config before good bad) :
    Follows policy cost step config before good bad := by
  intro under
  obtain ⟨path, spent, result, faults⟩ := follows under
  rw [← same.run] at spent result faults
  refine ⟨fun state passed => ?_, spent, result, faults⟩
  rcases same.passed state passed with rfl | passed
  · exact under
  · exact path state passed

theorem pure {value : α} (holds : good value before.nextVar) :
    Follows policy 0 (Pure.pure value : Session α) config before good bad := by
  refine fun _ => ⟨fun _ passed => (by cases passed), .inr (Nat.le_refl _), ?_, fun _ _ failed => by cases failed⟩
  rintro _ ⟨⟩
  exact holds

theorem deny {error : TypeError} :
    Follows policy 0 (Session.fail (.refused error) : Session α) config before good bad :=
  fun _ => ⟨fun _ passed => (by cases passed), .inr (Nat.le_refl _), fun _ returned => (by cases returned),
    fun _ _ failed => by cases failed⟩

theorem refuse {cause : Cause} : Follows policy 0 (Session.refuse cause : Session α) config before good bad := deny

theorem fault {cause : Fault} (foreseen : bad cause before.nextVar) :
    Follows policy 0 (Session.fault cause : Session α) config before good bad := by
  refine fun _ => ⟨fun _ passed => (by cases passed), .inr (Nat.le_refl _), fun _ returned => (by cases returned), ?_⟩
  rintro _ _ ⟨⟩
  exact foreseen

theorem turned {asked : Request α} {error : TypeError}
    (answered : asked.answer config before = (.error (.refused error), before)) :
    Follows policy 0 (Session.request asked) config before good bad := by
  intro under
  constructor <;> simp only [Session.passed, Session.run, answered]
  · exact List.forall_mem_singleton.mpr under
  · exact .inr (Nat.le_refl _)
  · exact fun _ returned => by cases returned
  · exact fun _ _ failed => by cases failed

theorem ask {asked : Request α} {value : α} (answered : asked.answer config before = (.ok value, after))
    (under : before.Under policy → after.Under policy) (spent : after.nextVar ≤ before.nextVar + cost)
    (holds : good value after.nextVar) : Follows policy cost (Session.request asked) config before good bad := by
  intro begun
  constructor <;> simp only [Session.passed, Session.run, answered]
  · exact List.forall_mem_singleton.mpr (under begun)
  · exact .inr spent
  · rintro _ ⟨⟩
    exact holds
  · exact fun _ _ failed => by cases failed

theorem bind {first second : Nat} {step : Session α} {next : α → Session β}
    (early : Follows policy first step config before good bad)
    (rest : ∀ value middle, step config before = (.ok value, middle) → before.nextVar ≤ middle.nextVar →
      good value middle.nextVar → Follows policy second (next value) config middle better bad) :
    Follows policy (first + second) (step >>= next) config before better bad := by
  intro under
  have last := (early under).last under
  have grows := step.run_grows config before
  obtain ⟨path, spent, result, faults⟩ := early under
  cases outcome : step config before with
  | mk ended middle =>
    simp only [outcome] at last grows spent result faults
    cases ended with
    | error failure =>
      constructor <;> simp only [run_bind, passed_bind, outcome, List.append_nil]
      · exact path
      · exact spent.imp_right fun few => by omega
      · exact fun _ returned => by cases returned
      · intro acyclic cause failed
        cases failed
        exact faults acyclic cause rfl
    | ok value =>
      have late := rest value middle outcome grows.issued (result value rfl) last
      constructor <;> simp only [run_bind, passed_bind, outcome]
      · exact List.forall_mem_append.mpr ⟨path, late.path⟩
      · rcases spent with ties | few
        · exact .inl ties
        · exact late.spent.imp_right fun few' => by omega
      · exact late.result
      · exact fun acyclic => late.faults (grows.acyclic acyclic)

/-- As `bind`, where the first step issues no variable. -/
theorem chain {step : Session α} {next : α → Session β} (early : Follows policy 0 step config before good bad)
    (rest : ∀ value middle, step config before = (.ok value, middle) → before.nextVar ≤ middle.nextVar →
      good value middle.nextVar → Follows policy cost (next value) config middle better bad) :
    Follows policy cost (step >>= next) config before better bad := by
  rw [← Nat.zero_add cost]
  exact .bind early rest

/-- As `bind`, where what follows issues no variable. -/
theorem finish {step : Session α} {next : α → Session β} (early : Follows policy cost step config before good bad)
    (rest : ∀ value middle, step config before = (.ok value, middle) → before.nextVar ≤ middle.nextVar →
      good value middle.nextVar → Follows policy 0 (next value) config middle better bad) :
    Follows policy cost (step >>= next) config before better bad :=
  .bind early rest

theorem read {see : View → α} {next : α → Session β}
    (rest : Follows policy cost (next (see before.toView)) config before better bad) :
    Follows policy cost (Session.read see >>= next) config before better bad :=
  .amounts (.read (.refl _)) rest

theorem asking {next : Config → Session β} (rest : Follows policy cost (next config) config before better bad) :
    Follows policy cost (Session.config >>= next) config before better bad :=
  .amounts (.asking (.refl _)) rest

theorem blame {worse : Fault → Nat → Prop} {step : Session α}
    (follows : Follows policy cost step config before good bad)
    (implies : ∀ cause limit, before.nextVar ≤ limit → bad cause limit → worse cause limit) :
    Follows policy cost step config before good worse := by
  intro under
  obtain ⟨path, spent, result, faults⟩ := follows under
  exact ⟨path, spent, result, fun acyclic cause failed =>
    implies cause _ (step.run_grows config before).issued (faults acyclic cause failed)⟩

/-- Bindings without cycles may be used to tell how a step fails. -/
theorem acyclic {step : Session α} (follows : Follows policy cost step config before good fun _ _ => True)
    (blames : before.subst.Acyclic → Follows policy cost step config before good bad) :
    Follows policy cost step config before good bad := by
  intro under
  obtain ⟨path, spent, result, _⟩ := follows under
  exact ⟨path, spent, result, fun acyclic => (blames acyclic under).faults acyclic⟩

theorem afford {step : Session α} (follows : Follows policy cost step config before good bad)
    (le : policy.ties ∨ cost ≤ more) : Follows policy more step config before good bad := by
  intro under
  obtain ⟨path, spent, result, faults⟩ := follows under
  refine ⟨path, ?_, result, faults⟩
  rcases le with ties | le
  · exact .inl ties
  · exact spent.imp_right fun few => by omega

theorem free {step : Session α} (follows : Follows policy 0 step config before good bad) :
    Follows policy cost step config before good bad :=
  follows.afford (.inr (Nat.zero_le _))

theorem aside {step : Session α} (step_uses : step.Uses uses)
    (apart : ∀ use ∈ [.issue, .bind, .declare, .defer, .clear, .scope], use ∉ uses)
    (faults : before.subst.Acyclic → ∀ cause, (step config before).1 = .error (.fault cause) →
      bad cause before.nextVar) :
    Follows policy 0 step config before (fun _ _ => True) bad := by
  intro under
  obtain ⟨along, last⟩ := step_uses.aside apart
  have passed state inside := under.aside (along state inside)
  refine ⟨passed, .inr (Nat.le_of_eq last.nextVar), fun _ _ => trivial, fun acyclic cause failed => ?_⟩
  rw [last.nextVar]
  exact faults acyclic cause failed

theorem trace {line : View → String} : Follows policy 0 (Session.trace line) config before (fun _ _ => True) bad :=
  .aside (trace_uses line : Session.Uses [] _) (by decide) fun _ _ failed => by cases failed

/-- Changing the error with which a step refuses the program changes nothing else. -/
theorem mapError {change : View → TypeError → TypeError} {step : Session α}
    (follows : Follows policy cost step config before good bad) :
    Follows policy cost (Session.mapError change step) config before good bad := by
  intro under
  obtain ⟨path, spent, result, faults⟩ := follows under
  refine ⟨path, ?_, ?_, ?_⟩ <;> simp only [mapError_state, mapError_returns, mapError_faults]
  · exact spent
  · exact result
  · exact faults

theorem locatedAt {expr : Expr} {step : Session α} (follows : Follows policy cost step config before good bad) :
    Follows policy cost (Session.locatedAt expr step) config before good bad := follows.mapError

theorem withinDecl {step : Session α} (follows : Follows policy cost step config before good bad) :
    Follows policy cost (Session.withinDecl step) config before good bad := follows.mapError

/-- The scope is put back, however the step ends. -/
theorem keepingScope {step : Session α} (follows : Follows policy cost step config before good bad) :
    Follows policy cost (Session.keepingScope step) config before good bad := by
  intro under
  have last := (follows under).last under
  obtain ⟨path, spent, result, faults⟩ := follows under
  refine ⟨List.forall_mem_append.mpr ⟨path, List.forall_mem_singleton.mpr ?_⟩, spent, result, faults⟩
  -- What the names had to offer before the step they still have, with more variables issued.
  exact last.enter fun entry member => (under.scope entry member).mono (step.run_grows config before).issued

end Follows

end Session

end Checking

end RefinementTypes
