import RefinementTypes.Proofs.Worlds

/-! Whose parameters a variable may come to mention. Every variable belongs to a declaration, which is
known here by its parameters. Checking keeps declarations apart: a variable is bound to a type of its own
declaration, obligations compare types of one declaration, and the instance of a type belongs to the
declaration that refers to it, as all parameters are replaced in it. -/

namespace RefinementTypes

/-- The parameters of the declaration that each variable belongs to, once it has been issued. -/
abbrev Owner : Type := Nat → Option (List String)

namespace Owner

def issue (owner : Owner) (next count : Nat) (params : List String) : Owner := fun id =>
  if next ≤ id ∧ id < next + count then some params else owner id

private theorem issue_new {owner : Owner} {next count id : Nat} {params : List String} (least : next ≤ id)
    (less : id < next + count) : owner.issue next count params id = some params := if_pos ⟨least, less⟩

private theorem issue_later (owner : Owner) (next count : Nat) (params : List String) :
    Checking.Session.Later next owner (owner.issue next count params) := by
  intro id less
  exact if_neg fun inside => absurd inside.1 (Nat.not_le.mpr less)

end Owner

namespace Ty

def names : Ty → List String
  | arrow domain codomain => domain.names ++ codomain.names
  | atom (.named name) => [name]
  | atom _ | var _ | missing => []

/-- A type mentions only the given parameters and variables of declarations that have them. -/
def Belongs (owner : Owner) (params : List String) : Ty → Prop
  | arrow domain codomain => domain.Belongs owner params ∧ codomain.Belongs owner params
  | atom (.named name) => name ∈ params
  | atom _ | missing => True
  | var v => owner v.id = some params

variable {owner later : Owner} {params : List String} {type : Ty}

theorem Belongs.mono (belongs : type.Belongs owner params)
    (more : ∀ id params, owner id = some params → later id = some params) : type.Belongs later params := by
  induction type with
  | arrow domain codomain left right => exact ⟨left belongs.1, right belongs.2⟩
  | var v => exact more v.id params belongs
  | atom a => cases a <;> exact belongs
  | missing => trivial

theorem belongs_setMutability {mutability : Mutability} :
    (type.setMutability mutability).Belongs owner params ↔ type.Belongs owner params := by
  induction type with
  | arrow domain codomain left right => simp only [setMutability, Belongs, left, right]
  | var | atom | missing => rfl

theorem Belongs.anywhere (belongs : type.Belongs owner []) (closed : type.vars = []) :
    type.Belongs later params := by
  induction type with
  | arrow domain codomain left right =>
    obtain ⟨first, second⟩ := List.append_eq_nil_iff.mp closed
    exact ⟨left belongs.1 first, right belongs.2 second⟩
  | var v => cases closed
  | atom a =>
    cases a with
    | named name => cases belongs
    | bottom | bool | regex | range | string | error => trivial
  | missing => trivial

theorem Belongs.mem_params (belongs : type.Belongs owner params) {name : String} (member : name ∈ type.names) :
    name ∈ params := by
  induction type with
  | arrow domain codomain left right =>
    rcases List.mem_append.mp member with first | second
    · exact left belongs.1 first
    · exact right belongs.2 second
  | atom a =>
    cases a with
    | named other =>
      cases List.mem_singleton.mp member
      exact belongs
    | bottom | bool | regex | range | string | error => cases member
  | var | missing => cases member

private theorem Belongs.var (belongs : type.Belongs owner params) {id : Nat} (member : id ∈ type.vars) :
    owner id = some params := by
  induction type with
  | arrow domain codomain left right =>
    rcases List.mem_append.mp member with first | second
    · exact left belongs.1 first
    · exact right belongs.2 second
  | var v => exact List.mem_singleton.mp member ▸ belongs
  | atom | missing => cases member

theorem names_image {tree : Ty} (unnamed : tree.names = []) : (type.image fun _ => tree).names = type.names := by
  induction type with
  | arrow domain codomain left right => simp only [image, names, left, right]
  | var v => exact unnamed
  | atom a => cases a <;> rfl
  | missing => rfl

end Ty

/-- Every named type that is written is one of the given parameters. -/
def TypeExpr.NamesIn (normalize : String → String) (params : List String) : TypeExpr → Prop
  | arrow domain codomain => domain.NamesIn normalize params ∧ codomain.NamesIn normalize params
  | named name => normalize name ∈ params
  | bool | regex | range _ _ | string _ | wildcard | invalid | foreign _ | missing => True

/-- Every annotation in an expression is good. Operators are refused before their arguments are looked
at. -/
def Expr.Annotated (good : TypeExpr → Prop) : Expr → Prop
  | anno expr type => expr.Annotated good ∧ good type
  | lam _ body => body.Annotated good
  | letElse _ bound thenBranch elseBranch =>
    bound.Annotated good ∧ thenBranch.Annotated good ∧ elseBranch.Annotated good
  | call func arg => func.Annotated good ∧ arg.Annotated good
  | lit _ | name _ | op _ _ | impossible | invalid | foreign _ | missing => True

namespace Checking

/-- What an obligation compares belongs to one declaration. An instance belongs to the declaration of its
fresh variable, and leaves none of the parameters of the other one. -/
def Obligation.Owned (owner : Owner) : Obligation → Prop
  | conforms _ _ => True
  | assignable expected found => ∃ params, expected.Belongs owner params ∧ found.Belongs owner params
  | instantiated replaced fresh generic => ∃ params params',
      owner fresh.id = some params ∧ owner generic.id = some params' ∧
      (∀ param ∈ replaced, param.2.Belongs owner params) ∧ ∀ name ∈ params', (replaced.lookup name).isSome = true

theorem Obligation.Owned.mono {owner later : Owner} {obligation : Obligation} (owned : obligation.Owned owner)
    (more : ∀ id params, owner id = some params → later id = some params) : obligation.Owned later := by
  cases obligation with
  | conforms => trivial
  | assignable expected found =>
    obtain ⟨params, left, right⟩ := owned
    exact ⟨params, left.mono more, right.mono more⟩
  | instantiated replaced fresh generic =>
    obtain ⟨params, params', copied, original, belong, whole⟩ := owned
    exact ⟨params, params', more _ _ copied, more _ _ original, fun param member => (belong param member).mono more,
      whole⟩

/-- Only issued variables belong to declarations, and what is known of them stays within these. -/
structure State.Owned (owner : Owner) (state : State) : Prop where
  issued : ∀ id params, owner id = some params → id < state.nextVar
  acyclic : state.subst.Acyclic
  bindings : ∀ id type, state.subst.lookup id = some type →
    ∃ params, owner id = some params ∧ type.Belongs owner params
  worklist : ∀ obligation ∈ state.worklist, obligation.Owned owner

/-- Worlds that say which declaration variables belong to. Every failure is foreseen. -/
def ownership : Worlds (Option (List String)) := ⟨State.Owned, fun _ => True⟩

namespace State.Owned

variable {owner later : Owner} {params : List String} {state other : State}

theorem fresh (cache : Regex.Cache) : (State.fresh cache).Owned fun _ => none where
  issued _ _ given := by cases given
  acyclic := Subst.acyclic_empty
  bindings _ _ found := by cases found
  worklist _ member := by cases member

theorem more (owned : state.Owned owner) (kept : Session.Later state.nextVar owner later) (id : Nat)
    (params : List String) (given : owner id = some params) : later id = some params :=
  (kept id (owned.issued id params given)).trans given

theorem same (owned : state.Owned owner) (nextVar : other.nextVar = state.nextVar)
    (subst : other.subst = state.subst) (worklist : other.worklist = state.worklist) : other.Owned owner :=
  ⟨nextVar ▸ owned.issued, subst ▸ owned.acyclic, subst ▸ owned.bindings, worklist ▸ owned.worklist⟩

private theorem alike (owned : state.Owned owner) (alike : state.Alike other) : other.Owned owner :=
  owned.same alike.nextVar alike.subst alike.worklist

private theorem issue (owned : state.Owned owner) (count : Nat) (params : List String) :
    State.Owned (owner.issue state.nextVar count params) { state with nextVar := state.nextVar + count } := by
  have more := owned.more (owner.issue_later state.nextVar count params)
  refine ⟨fun id params' given => ?_, owned.acyclic, fun id type found => ?_, fun obligation member => ?_⟩
  · unfold Owner.issue at given
    split at given
    next inside => exact inside.2
    next => exact Nat.lt_add_right count (owned.issued id params' given)
  · obtain ⟨params', given, belongs⟩ := owned.bindings id type found
    exact ⟨params', more _ _ given, belongs.mono more⟩
  · exact (owned.worklist obligation member).mono more

private theorem postpone (owned : state.Owned owner) {obligations : List Obligation}
    (held : ∀ obligation ∈ obligations, obligation.Owned owner) :
    State.Owned owner { state with worklist := state.worklist ++ obligations } :=
  ⟨owned.issued, owned.acyclic, owned.bindings, List.forall_mem_append.mpr ⟨owned.worklist, held⟩⟩

private theorem bind (owned : state.Owned owner) {var : Nat} {type : Ty} (given : owner var = some params)
    (absent : state.subst.occurs var type = false) (belongs : type.Belongs owner params) :
    State.Owned owner { state with subst := state.subst.insert var type } where
  issued := owned.issued
  acyclic := owned.acyclic.insert absent
  bindings id other found := by
    rw [Subst.lookup_insert] at found
    split at found
    next same =>
      cases found
      exact ⟨params, same ▸ given, belongs⟩
    next => exact owned.bindings id other found
  worklist := owned.worklist

private theorem lookup (owned : state.Owned owner) {id : Nat} {type : Ty} (found : state.subst.lookup id = some type)
    (given : owner id = some params) : type.Belongs owner params := by
  obtain ⟨params', given', belongs⟩ := owned.bindings id type found
  cases given.symm.trans given'
  exact belongs

private theorem shallow (owned : state.Owned owner) {type : Ty} (belongs : type.Belongs owner params) :
    (state.subst.shallow type).Belongs owner params :=
  Subst.shallow_preserves (fun _ _ given found => owned.lookup found given) belongs

theorem apply (owned : state.Owned owner) {type : Ty} (belongs : type.Belongs owner params) :
    (state.subst.apply type).Belongs owner params :=
  Subst.apply_preserves (fun _ _ given found => owned.lookup found given) (fun _ _ => Iff.rfl) belongs

end State.Owned

/-- A declaration with the given parameters may refer to a name: it takes part in the type of a template
without parameters, and gets an instance of any other. -/
def Template.UsableBy (owner : Owner) (params : List String) (template : Template) : Prop :=
  template.type.Belongs owner (if template.params.isEmpty then params else template.params)

theorem Template.UsableBy.mono {owner later : Owner} {params : List String} {template : Template}
    (usable : template.UsableBy owner params)
    (more : ∀ id params, owner id = some params → later id = some params) : template.UsableBy later params :=
  Ty.Belongs.mono usable more

namespace Session

variable {α : Type} {config : Config} {before after : State} {owner : Owner} {params : List String}

theorem Quiet.owned {step : Session α} {good : α → Prop} (quiet : Quiet step config before good)
    (owned : before.Owned owner) : Runs ownership step config owner before fun _ value => good value where
  ends value after run := by
    obtain ⟨alike, holds⟩ := quiet.result run
    exact ⟨Nat.le_of_eq alike.nextVar.symm, owner, .refl _ _, owned.alike alike, holds⟩
  fails _ _ _ := trivial

theorem Uses.owned {uses : List Use} {step : Session α} (step_uses : step.Uses uses) (owned : before.Owned owner)
    (aside : .issue ∉ uses ∧ .bind ∉ uses ∧ .defer ∉ uses ∧ .clear ∉ uses) :
    Runs ownership step config owner before fun _ _ => True where
  ends value after run := by
    have untouched := step_uses.leaves run
    have nextVar := untouched.nextVar aside.1
    refine ⟨Nat.le_of_eq nextVar.symm, owner, .refl _ _, owned.same nextVar ?_ ?_, trivial⟩
    · exact untouched.subst aside.2.1
    · exact untouched.worklist aside.2.2.1 aside.2.2.2
  fails _ _ _ := trivial

private theorem freshVar_owned (owned : before.Owned owner) (mutability : Mutability) (params : List String) :
    Runs ownership (freshVar mutability) config owner before fun later v => later v.id = some params :=
  .of_ok rfl (Nat.le_succ _) (owner.issue_later _ 1 params) (owned.issue 1 params)
    (Owner.issue_new (Nat.le_refl _) (Nat.lt_succ_self before.nextVar))

private theorem postpone_owned (owned : before.Owned owner) {obligation : Obligation} (held : obligation.Owned owner) :
    Runs ownership (postpone obligation) config owner before fun _ _ => True := by
  obtain ⟨after, run, alike⟩ := postpone_run obligation config before
  have kept := (owned.postpone (List.forall_mem_singleton.mpr held)).alike alike
  exact .of_ok run (Nat.le_of_eq alike.nextVar.symm) (.refl _ _) kept trivial

private theorem solveVar_owned (owned : before.Owned owner) {var : TyVar} {type : Ty}
    (free : before.subst.lookup var.id = none) (given : owner var.id = some params)
    (belongs : type.Belongs owner params) :
    Runs ownership (solveVar var type) config owner before fun _ _ => True := by
  rcases solveVar_run free type config with ⟨_, refused⟩ | ⟨absent, after, run, alike⟩
  · exact ⟨fun _ _ run => (by cases refused.symm.trans run), fun _ _ _ => trivial⟩
  · have bound := (owned.bind given absent belongs).alike alike
    exact .of_ok run (Nat.le_of_eq alike.nextVar.symm) (.refl _ _) bound trivial

private theorem assignN_owned (owned : before.Owned owner) (depth : Nat) {expected found : Ty}
    (left : expected.Belongs owner params) (right : found.Belongs owner params) :
    Runs ownership (assignN depth expected found) config owner before fun _ _ => True := by
  induction depth generalizing expected found before owner with
  | zero => exact .fault trivial
  | succ depth ih =>
    obtain ⟨step, rule, run⟩ := assignN_comparison depth expected found config before
    refine .of_run run.run ?_
    -- A variable and its binding belong to one declaration, so that no rule leads to another.
    cases rule with
    | alike | bottom | reported => exact .pure owned trivial
    | expectedBound known => exact ih owned (owned.lookup known left) right
    | foundBound _ known => exact ih owned left (owned.lookup known right)
    | bindExpected _ free => exact solveVar_owned owned free left right
    | bindFound _ free => exact solveVar_owned owned free right left
    | defer => exact postpone_owned owned ⟨params, left, right⟩
    | arrows =>
      refine .bind (ih owned right.1 left.1) fun _ _ _ _ _ kept owned' _ => ?_
      have more := owned.more kept
      exact ih owned' (left.2.mono more) (right.2.mono more)
    | clash => exact .read (.refuse trivial)

private theorem assign_owned (owned : before.Owned owner) {expected found : Ty}
    (left : expected.Belongs owner params) (right : found.Belongs owner params) :
    Runs ownership (assign expected found) config owner before fun _ _ => True :=
  .read (assignN_owned owned _ left right)

private theorem splitFunction_owned (owned : before.Owned owner) {type : Ty} (belongs : type.Belongs owner params) :
    Runs ownership (splitFunction type) config owner before fun later parts =>
      parts.1.Belongs later params ∧ parts.2.Belongs later params := by
  have shape := owned.shallow belongs
  apply Runs.read
  split
  next domain codomain same =>
    rw [same] at shape
    exact .pure owned shape
  next v same =>
    rw [same] at shape
    refine .bind (freshVar_owned owned .mutable params) fun domain _ _ _ _ kept owned' first => ?_
    refine .bind (freshVar_owned owned' .mutable params) fun codomain _ _ _ _ kept' owned'' second => ?_
    have first' := owned'.more kept' _ _ first
    have shape' := (Ty.Belongs.mono shape (owned.more kept)).mono (owned'.more kept')
    refine .bind (assign_owned owned'' ⟨first', second⟩ shape') fun _ _ _ _ _ kept'' owned _ => ?_
    exact .pure owned ⟨owned''.more kept'' _ _ first', owned''.more kept'' _ _ second⟩
  next => exact .pure owned ⟨trivial, trivial⟩
  next => exact .refuse trivial

private theorem belongs_copy {later : Owner} {replaced : List (String × Ty)} {params' : List String} {next : Nat}
    {type : Ty} (belongs : type.Belongs owner params') (belong : ∀ param ∈ replaced, param.2.Belongs later params)
    (whole : ∀ name ∈ params', (replaced.lookup name).isSome = true)
    (new : ∀ id, next ≤ id → id < next + type.vars.length → later id = some params) :
    (type.copy replaced next).Belongs later params := by
  induction type generalizing next with
  | arrow domain codomain left right =>
    simp only [Ty.vars, List.length_append] at new
    refine ⟨left belongs.1 fun id least less => new id least (by omega), ?_⟩
    exact right belongs.2 fun id least less => new id (by omega) (by omega)
  | var v => exact new next (Nat.le_refl _) (Nat.lt_succ_self _)
  | atom a =>
    cases a with
    | named name =>
      obtain ⟨type, found⟩ := Option.isSome_iff_exists.mp (whole name belongs)
      simp only [Ty.copy, found, Option.getD_some]
      exact belong (name, type) (mem_of_lookup_eq found)
    | bottom | bool | regex | range | string | error => trivial
  | missing => trivial

/-- An instance belongs to the declaration of the types that replace parameters, if it leaves none. -/
theorem instanceOf_owned (owned : before.Owned owner) {replaced : List (String × Ty)} {type : Ty}
    {params' : List String} (belongs : type.Belongs owner params')
    (belong : ∀ param ∈ replaced, param.2.Belongs owner params)
    (whole : ∀ name ∈ params', (replaced.lookup name).isSome = true) :
    Runs ownership (instanceOf replaced type) config owner before fun later result =>
      result.Belongs later params := by
  have applied := owned.apply belongs
  obtain ⟨after, run, alike⟩ : Copies replaced (instanceOf replaced type) config before (before.subst.apply type) :=
    instanceOf_copies owned.acyclic replaced type
  generalize before.subst.apply type = resolved at applied run alike
  -- All variables of the copy are given to the declaration at once.
  let later := owner.issue before.nextVar resolved.vars.length params
  have kept : Later before.nextVar owner later := owner.issue_later _ _ _
  have more := owned.more kept
  have new : ∀ id, before.nextVar ≤ id → id < before.nextVar + resolved.vars.length → later id = some params :=
    fun _ => Owner.issue_new
  have belong' := fun param member => (belong param member).mono more
  refine .of_ok run ?_ kept (((owned.issue _ params).postpone fun obligation member => ?_).alike alike) ?_
  · rw [alike.nextVar]
    exact Nat.le_add_right _ _
  · obtain ⟨fresh, generic, rfl, least, less, inside⟩ := mem_copies member
    exact ⟨params, params', new _ least less, more _ _ (applied.var inside), belong', whole⟩
  · exact belongs_copy applied belong' whole new

private theorem freshParams_owned (owned : before.Owned owner) (names params : List String) :
    Runs ownership (freshParams names) config owner before fun later replaced =>
      (∀ param ∈ replaced, param.2.Belongs later params) ∧
        ∀ name ∈ names, (replaced.lookup name).isSome = true := by
  have run := freshParams_run names config before
  refine .of_ok run (Nat.le_add_right _ _) (owner.issue_later _ _ params) (owned.issue _ params) ⟨?_, ?_⟩
  · intro param member
    obtain ⟨_, v, same, least, less⟩ := mem_paramsFrom member
    rw [same]
    exact Owner.issue_new least less
  · intro name member
    obtain ⟨v, found⟩ := (freshParams_lookup run name).1 member
    rw [found]
    rfl

private theorem instantiate_owned (owned : before.Owned owner) (name : String) {template : Template}
    (usable : template.UsableBy owner params) :
    Runs ownership (instantiate name template) config owner before fun later result =>
      result.Belongs later params := by
  unfold Template.UsableBy at usable
  unfold instantiate
  split
  next plain =>
    rw [if_pos plain] at usable
    exact .pure owned usable
  next generic =>
    rw [if_neg generic] at usable
    refine .bind (freshParams_owned owned template.params params) ?_
    rintro replaced _ _ _ _ kept owned' ⟨belong, whole⟩
    have usable' := usable.mono (owned.more kept)
    refine .bind (instanceOf_owned owned' usable' belong whole) fun result _ _ _ _ _ owned' belongs => ?_
    refine .bind ((Quiet.trace _).owned owned') fun _ _ _ _ _ kept owned _ => ?_
    exact .pure owned (belongs.mono (owned'.more kept))

private theorem conform_owned (owned : before.Owned owner) (literal : Option Literal) (type : Ty) :
    Runs ownership (conform literal type) config owner before fun _ _ => True := by
  obtain ⟨step, rule, run⟩ := conform_judgement literal type config before
  refine .of_run run.run ?_
  cases rule with
  | defer => exact postpone_owned owned trivial
  | accept => exact .pure owned trivial
  | text =>
    refine .bind ((consult_uses (.refl _) _ _).owned owned (by decide)) fun answer _ _ _ _ _ owned _ => ?_
    split
    next => exact .refuse trivial
    next => exact .pure owned trivial
    next => exact .refuse trivial
  | reject => exact .refuse trivial
  | lack => exact .fault trivial

private theorem discharge_owned (owned : before.Owned owner) {obligation : Obligation} (held : obligation.Owned owner) :
    Runs ownership (discharge obligation) config owner before fun _ _ => True := by
  cases obligation with
  | conforms literal type => exact conform_owned owned literal type
  | assignable expected found =>
    obtain ⟨params, left, right⟩ := held
    exact assign_owned owned left right
  | instantiated replaced fresh generic =>
    apply Runs.read
    split
    next => exact postpone_owned owned held
    next bound known =>
      -- The binding belongs to the declaration that was copied from, its instance to the one copied to.
      obtain ⟨params, params', copied, original, belong, whole⟩ := held
      have bound' := owned.lookup known original
      refine .bind (instanceOf_owned owned bound' belong whole) fun result _ _ _ _ kept owned' belongs => ?_
      exact assign_owned owned' (owned.more kept _ _ copied) belongs

private theorem ownership_solvable : Solvable ownership config fun owner state obligation =>
    (∀ id params, owner id = some params → id < state.nextVar) ∧ obligation.Owned owner where
  pending _ _ owned obligation member := ⟨owned.issued, owned.worklist obligation member⟩
  lasts _ _ _ _ _ owned _ kept held :=
    ⟨owned.issued, held.2.mono fun id params given => (kept id (held.1 id params given)).trans given⟩
  emptied _ _ owned := ⟨owned.issued, owned.acyclic, owned.bindings, fun _ member => by cases member⟩
  alike _ _ _ owned alike := owned.alike alike
  discharge _ _ _ owned held := discharge_owned owned held.2
  rounds := trivial
  unsolved _ := trivial

theorem solve_owned (owned : before.Owned owner) (final : Bool) :
    Runs ownership (solve final) config owner before fun _ _ => True :=
  ownership_solvable.solve owned final

theorem lower_owned (owned : before.Owned owner) (mutability : Mutability) {written : TypeExpr}
    (named : written.NamesIn config.normalize params) :
    Runs ownership (lower mutability written) config owner before fun later type => type.Belongs later params := by
  induction written generalizing before owner with
  | arrow domain codomain left right =>
    refine .bind (left owned named.1) fun first _ _ _ _ _ owned' belongs => ?_
    refine .bind (right owned' named.2) fun second _ _ _ _ kept owned belongs' => ?_
    exact .pure owned ⟨belongs.mono (owned'.more kept), belongs'⟩
  | named name => exact .of_ok rfl (Nat.le_refl _) (.refl _ _) owned named
  | wildcard | missing =>
    exact .bind (freshVar_owned owned mutability params) fun _ _ _ _ _ _ owned given => .pure owned given
  | foreign form => exact .fault trivial
  | bool | regex | range | string | invalid => exact .pure owned trivial

private theorem bindPat_owned (owned : before.Owned owner) (pat : Pat) (type : Ty) :
    Runs ownership (bindPat pat type) config owner before fun _ _ => True := by
  cases pat with
  | bind label =>
    refine .bind ((normalize_quiet label).owned owned) fun name _ _ _ _ _ owned _ => ?_
    refine .bind ((declare_uses (.refl _) name _).owned owned (by decide)) fun _ _ _ _ _ _ owned _ => ?_
    exact .bind ((Quiet.trace _).owned owned) fun _ _ _ _ _ _ owned _ => .pure owned trivial
  | lit value => exact .bind (conform_owned owned value type) fun _ _ _ _ _ _ owned _ => .pure owned trivial
  | wildcard => exact .pure owned trivial
  | constructor | apply | missing => exact .refuse trivial
  | foreign => exact .fault trivial

/-- Every name that is in scope may be referred to. -/
abbrev Usable (owner : Owner) (params : List String) : NameMap Template → List String → Prop :=
  Finds fun found => ∀ template ∈ found, template.UsableBy owner params

theorem Finds.later {names : List String} {scope : NameMap Template} {later : Owner}
    (usable : Usable owner params scope names) (owned : before.Owned owner)
    (kept : Later before.nextVar owner later) : Usable later params scope names :=
  usable.imp fun _ usable template found => (usable template found).mono (owned.more kept)

private theorem settle_owned {step : Session (Typed Ty)} {expr : Expr} {expected : Option Ty}
    (owned : before.Owned owner) (belongs : ∀ type ∈ expected, type.Belongs owner params)
    (runs : Runs ownership step config owner before fun later typed => typed.type.Belongs later params) :
    Runs ownership (settle expr expected step) config owner before fun later typed =>
      typed.type.Belongs later params := by
  refine .bind runs fun typed _ _ _ _ kept owned' found => ?_
  cases expected with
  | none => exact .pure owned' found
  | some type =>
    have wanted := (belongs type rfl).mono (owned.more kept)
    refine .bind (.locatedAt (assign_owned owned' wanted found)) fun _ _ _ _ _ kept owned _ => ?_
    exact .pure owned (found.mono (owned'.more kept))

private theorem reference_owned (owned : before.Owned owner) (label : String)
    (usable : Usable owner params before.scope [config.key label]) :
    Runs ownership (reference label) config owner before fun later typed => typed.type.Belongs later params := by
  refine .bind ((normalize_quiet label).owned owned) fun name _ _ run _ kept owned' same => ?_
  have usable' := (usable.later owned kept).same ((normalize_quiet label).result run).1.scope
  rw [Config.key, ← same] at usable'
  refine .bind ((lookup_quiet name).owned owned') fun template _ _ _ _ kept owned'' found => ?_
  cases template with
  | some template =>
    have usable'' := usable'.later owned' kept _ List.mem_cons_self template found.symm
    exact .bind (instantiate_owned owned'' name usable'') fun _ _ _ _ _ _ owned belongs => .pure owned belongs
  | none =>
    refine .bind
      ((by simp [Request.use?] : Session.Uses [.warn] _).owned owned'' (by decide)) fun _ _ _ _ _ _ owned _ => ?_
    exact .bind ((Quiet.trace _).owned owned) fun _ _ _ _ _ _ owned _ => .pure owned trivial

/-- What is found for an expression of a declaration belongs to that declaration. -/
theorem elaborate_owned (owned : before.Owned owner) (expr : Expr) (expected : Option Ty)
    (annotated : expr.Annotated (·.NamesIn config.normalize params))
    (usable : Usable owner params before.scope (expr.freeNames config.key))
    (belongs : ∀ type ∈ expected, type.Belongs owner params) :
    Runs ownership (elaborate expr expected) config owner before fun later typed =>
      typed.type.Belongs later params := by
  have found {owner : Owner} : ∀ type ∈ (none : Option Ty), type.Belongs owner params := by rintro _ ⟨⟩
  have one {owner : Owner} {other : Ty} (belongs : other.Belongs owner params) :
      ∀ type ∈ some other, type.Belongs owner params := by
    rintro _ ⟨⟩
    exact belongs
  have plain {owner : Owner} {type : Ty} (belongs : type.Belongs owner params) :
      ∀ template ∈ some (Template.mk [] type), template.UsableBy owner params := by
    rintro _ ⟨⟩
    exact belongs
  induction expr, expected using elaborate_induction generalizing before owner with
  | anno expr written expected ih =>
    rw [elaborate]
    refine settle_owned owned belongs (.bind (lower_owned owned .mutable annotated.2) ?_)
    intro type middle later run _ kept owned' belongs'
    have scope := ((lower_uses (.refl _) _ _).leaves run).scope (by decide)
    exact ih type owned' annotated.1 ((usable.later owned kept).same scope) (one belongs')
  | lam pat body type ih =>
    rw [elaborate]
    refine .bind (.locatedAt (splitFunction_owned owned (belongs type rfl))) ?_
    rintro ⟨domain, codomain⟩ _ _ split _ kept owned' ⟨left, right⟩
    have scope := ((splitFunction_uses (.refl _) type).leaves (locatedAt_ok split)).scope (by decide)
    have usable' := (usable.later owned kept).same scope
    refine .keepingScope (.bind (.locatedAt (bindPat_owned owned' pat domain)) ?_) fun _ _ _ _ owned =>
      owned.same rfl rfl rfl
    intro pat' _ _ bound _ kept' owned'' _
    have more := owned'.more kept'
    have usable'' := (usable'.later owned' kept').inside (locatedAt_ok bound) (plain (left.mono more))
    refine .bind (.locatedAt (ih codomain owned'' annotated usable'' (one (right.mono more)))) ?_
    intro body' _ _ _ _ kept'' last _
    exact .pure last ((((belongs type rfl).mono (owned.more kept)).mono more).mono (owned''.more kept''))
  | letElse pat bound thenBranch elseBranch expected first second third =>
    rw [elaborate]
    refine .bind (.locatedAt (first owned annotated.1 usable.left found)) ?_
    intro bound' _ _ run _ kept owned' head
    have scope := ((elaborate_uses (.refl _) _ _).leaves (locatedAt_ok run)).scope (by decide)
    have usable' := (usable.right.later owned kept).same scope
    refine .keepingScope (.bind (.locatedAt (bindPat_owned owned' pat bound'.type)) ?_) fun _ _ _ _ owned =>
      owned.same rfl rfl rfl
    intro pat' _ _ compared _ kept' owned'' _
    have more := owned'.more kept'
    have usable'' := (usable'.later owned' kept').inside (locatedAt_ok compared) (plain (head.mono more))
    have belongs' := fun type member => ((belongs type member).mono (owned.more kept)).mono more
    refine .bind (.locatedAt (second owned'' annotated.2.1 usable''.left belongs')) ?_
    intro then' _ last run' _ kept'' inner left
    have result : (expected.getD then'.type).Belongs last params := by
      cases expected with
      | none => exact left
      | some type => exact (belongs' type rfl).mono (owned''.more kept'')
    have scope' := ((elaborate_uses (.refl _) _ _).leaves (locatedAt_ok run')).scope (by decide)
    have usable''' := (usable''.right.later owned'' kept'').same scope'
    refine .bind (.locatedAt (third then' inner annotated.2.2 usable''' (one result))) ?_
    intro else' _ _ _ _ kept owned _
    exact .pure owned (result.mono (inner.more kept))
  | call func arg expected first second =>
    rw [elaborate]
    refine settle_owned owned belongs (.bind (.locatedAt (first owned annotated.1 usable.left found)) ?_)
    intro func' _ _ run _ kept owned' head
    refine .bind (.locatedAt (splitFunction_owned owned' head)) ?_
    rintro ⟨domain, codomain⟩ _ _ split _ kept' owned'' ⟨left, right⟩
    have scope := (((splitFunction_uses (.refl _) _).leaves (locatedAt_ok split)).scope (by decide)).trans
      (((elaborate_uses (.refl _) _ _).leaves (locatedAt_ok run)).scope (by decide))
    have usable' := ((usable.right.later owned kept).later owned' kept').same scope
    refine .bind (.locatedAt (second domain owned'' annotated.2 usable' (one left))) ?_
    intro arg' _ _ _ _ kept owned _
    exact .pure owned (right.mono (owned''.more kept))
  | literal value type notBool notRegex =>
    rw [elaborate_literal type notBool notRegex]
    refine .bind (.locatedAt (conform_owned owned _ type)) fun _ _ _ _ _ kept owned' _ => ?_
    exact .pure owned' ((belongs type rfl).mono (owned.more kept))
  | literalFound value notBool notRegex =>
    rw [elaborate_literalFound notBool notRegex]
    exact .locatedAt (.refuse trivial)
  | name label expected => rw [elaborate]; exact settle_owned owned belongs (reference_owned owned label usable)
  | bool | regex | impossible | invalid => rw [elaborate]; exact settle_owned owned belongs (.pure owned trivial)
  | lamFound | op => rw [elaborate]; exact .locatedAt (.refuse trivial)
  | absent | foreign => rw [elaborate]; exact .fault trivial
  | missing => rw [elaborate]; exact .refuse trivial

end Session

end Checking

end RefinementTypes
