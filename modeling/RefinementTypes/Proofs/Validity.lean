import Mathlib.Algebra.GroupWithZero.Nat
import RefinementTypes.Proofs.Policies
import RefinementTypes.Proofs.Signatures

/-! Declarations under a policy, and the policy by which every type in a session is over given leaves and the
variables that have been issued. Preparation admits the types that are declared, and bodies are checked
against them; however elaboration ends, all types that it leaves are valid. -/

namespace RefinementTypes

/-- The number of variables that a declaration takes at most, where names have so many parameters. -/
def Decl.demand (width : Nat) (decl : Decl) : Nat := decl.type.wildcards + decl.body.demand width

namespace Checking

/-- Declarations bring in nothing that a policy does not admit. -/
structure Policy.Fits (policy : Policy) (config : Config) (decls : List (Option Decl)) : Prop
    extends Session.Within policy.leaf config decls where
  native : policy.foreign ∨ ∀ decl, some decl ∈ decls → decl.Native
  closed : ∀ decl, some decl ∈ decls → decl.params ≠ [] →
    policy.ties ∨ decl.type.WildcardFree ∧ decl.params.length ≤ policy.width

namespace Session

variable {policy : Policy} {bad : Fault → Nat → Prop} {config : Config} {before after : State}

private theorem enterDecl_follows (name : String) :
    Follows policy 0 (enterDecl name) config before (fun _ _ => True) bad :=
  .ask rfl (fun under => under.aside ⟨rfl, rfl, rfl, rfl⟩) (Nat.le_refl _) trivial

private theorem generalize_follows (params : List String) (type : Ty) :
    Follows policy 0 (generalize params type) config before
      (fun template _ => template = ⟨params.map config.normalize, type.setMutability .immutable⟩) bad :=
  .asking (.pure rfl)

private theorem validate_follows (seen : List String) (decls : List (Option Decl)) :
    Follows policy 0 (validate seen decls) config before (fun _ _ => True) bad := by
  induction decls generalizing seen before with
  | nil => exact .pure trivial
  | cons decl rest ih =>
    cases decl with
    | none => exact .refuse
    | some decl =>
      refine .chain (normalize_follows decl.name) fun name middle _ _ _ => ?_
      dsimp only
      split
      next =>
        have denied : Follows policy 0 (refuseDecl .duplicateDeclaration name : Session Unit) config middle
            (fun _ _ => True) bad := .deny
        exact .chain denied fun _ _ run => by cases run
      next =>
        apply Follows.asking
        split
        next => exact .deny
        next =>
          split
          next => exact .deny
          next => exact .chain (ih _) fun _ _ _ _ _ => .pure trivial

private theorem traceRecursion_follows (components : List (List Nat)) :
    Follows policy 0 (traceRecursion components) config before (fun _ _ => True) bad := by
  induction components generalizing before with
  | nil => exact .pure trivial
  | cons component rest ih =>
    unfold traceRecursion
    dsimp only
    split
    next => exact .chain .trace fun _ _ _ _ _ => ih
    next => exact ih

section

variable (unknown : policy.foreign → ∀ cause limit, cause.Unknown → bad cause limit)

include unknown

private theorem checkingOrder_follows {decls : List Decl} (native : policy.foreign ∨ ∀ decl ∈ decls, decl.Native) :
    Follows policy 0 (checkingOrder decls) config before (fun _ _ => True) bad := by
  apply Follows.asking
  split
  next => exact .pure trivial
  next =>
    dsimp only
    split
    next cause failed =>
      obtain ⟨form, rfl⟩ := Dependencies.analyze_fault failed
      have foreign := native.resolve_right fun native =>
        Dependencies.analyze_faultless config.normalize native _ failed
      exact .fault (unknown foreign _ _ trivial)
    next => exact .deny
    next => exact .chain (traceRecursion_follows _) fun _ _ _ _ _ => .pure trivial

theorem declareAll_follows {named : List NamedDecl} (within : ∀ decl ∈ named, decl.decl.type.Within policy.leaf)
    (native : policy.foreign ∨ ∀ decl ∈ named, decl.decl.Native)
    (closed : ∀ decl ∈ named, decl.decl.params ≠ [] →
      policy.ties ∨ decl.decl.type.WildcardFree ∧ decl.decl.params.length ≤ policy.width) :
    Follows policy (named.map fun decl => decl.decl.type.wildcards).sum (declareAll named) config before
      (fun declared limit => ∀ decl ∈ declared, policy.admits limit decl.type) bad := by
  induction named generalizing before with
  | nil => exact .pure fun _ member => by cases member
  | cons decl rest ih =>
    rw [List.map_cons, List.sum_cons]
    refine .chain (enterDecl_follows _) fun _ _ _ _ _ => ?_
    have first := native.imp_right fun native => (native decl List.mem_cons_self).type
    refine .bind (lower_follows unknown .immutable (within decl List.mem_cons_self) first) ?_
    intro type _ run _ fits
    refine .chain (generalize_follows _ type) fun template middle _ issued same => ?_
    have fits := policy.mono issued fits
    -- Unless variables may be tied, the annotation is a full one, so that the template has no variables.
    have offers : policy.Offers middle.nextVar template := by
      rw [same]
      refine ⟨policy.lends fits, fun some =>
        (closed decl List.mem_cons_self fun none => some (by simp [none])).imp_right ?_⟩
      rintro ⟨free, few⟩
      rw [Ty.vars_setMutability, List.length_map]
      exact ⟨lower_closed free run, few⟩
    refine .chain (declare_follows _ offers) fun _ _ _ issued' _ => .chain .trace fun _ _ _ issued'' _ => ?_
    refine .finish (ih (fun decl member => within decl (List.mem_cons_of_mem _ member))
      (native.imp_right fun native decl member => native decl (List.mem_cons_of_mem _ member))
      fun decl member => closed decl (List.mem_cons_of_mem _ member)) fun declared _ _ later valid => .pure ?_
    exact List.forall_mem_cons.mpr ⟨policy.mono (Nat.le_trans issued' (Nat.le_trans issued'' later)) fits, valid⟩

private theorem prepare_follows {decls : List (Option Decl)} (fits : policy.Fits config decls) :
    Follows policy ((decls.filterMap id).map fun decl => decl.type.wildcards).sum (prepare decls) config before
      (fun (declared, _) limit => ∀ decl ∈ declared, policy.admits limit decl.type) bad := by
  refine .chain (validate_follows [] decls) fun named _ run _ _ => ?_
  have listed := ((validate_quiet _ _).result run).2.1
  have inside : ∀ decl ∈ named, some decl.decl ∈ decls := fun decl member => by
    rw [listed]
    exact List.mem_map_of_mem member
  have same : decls.filterMap id = named.map NamedDecl.decl := by
    rw [listed, List.filterMap_map]
    exact congrFun List.filterMap_eq_map named
  rw [same, List.map_map]
  refine .finish (declareAll_follows unknown (fun decl member => fits.types _ (inside decl member))
    (fits.native.imp_right fun native decl member => native _ (inside decl member))
    fun decl member => fits.closed _ (inside decl member)) fun declared _ run _ valid => ?_
  refine .chain .trace fun _ _ _ issued _ => ?_
  have native : policy.foreign ∨ ∀ decl ∈ named.map NamedDecl.decl, decl.Native :=
    fits.native.imp_right fun native => List.forall_mem_map.mpr fun decl member => native _ (inside decl member)
  refine .chain (checkingOrder_follows unknown native) fun order _ _ issued' _ => .pure fun decl member => ?_
  exact policy.mono (Nat.le_trans issued issued') (valid decl member)

theorem define_follows
    (solved : ∀ before, Follows policy 0 (solve false) config before (fun _ _ => True) bad)
    {declared : DeclaredDecl} (within : declared.decl.body.Within policy.leaf)
    (known : Known policy.leaf before.scope (declared.decl.body.freeNames config.key))
    (native : policy.foreign ∨ declared.decl.body.Native)
    (admits : policy.admits before.nextVar (declared.type.setMutability .mutable)) :
    Follows policy (declared.decl.body.demand policy.width) (define declared) config before
      (fun typed limit => typed.All (policy.admits limit)) bad := by
  refine .chain (enterDecl_follows _) fun _ _ entered issued _ => .chain .trace fun _ _ reported issued' _ => ?_
  have scope := ((Quiet.enterDecl _).result entered).1.trans ((Quiet.trace _).result reported).1 |>.scope
  refine .withinDecl (.finish (.keepingScope (elaborate_follows unknown within (known.same scope) native ?_)) ?_)
  · rintro _ ⟨⟩
    exact policy.mono (Nat.le_trans issued issued') admits
  intro body _ _ _ all
  exact .chain (solved _) fun _ _ _ later _ => .pure (all.imp fun _ => policy.mono later)

/-- The number of variables that checking the body at a place issues at most. -/
def demandAt (width : Nat) (declared : List DeclaredDecl) (index : Nat) : Nat :=
  declared[index]?.elim 0 fun decl => decl.decl.body.demand width

theorem defineAll_follows
    (solved : ∀ before, Follows policy 0 (solve false) config before (fun _ _ => True) bad)
    {declared : List DeclaredDecl} {order : List Nat}
    (placed : policy.foreign ∨ ∀ index ∈ order, index < declared.length)
    (within : ∀ decl ∈ declared, decl.decl.body.Within policy.leaf)
    (known : ∀ decl ∈ declared, Known policy.leaf before.scope (decl.decl.body.freeNames config.key))
    (native : policy.foreign ∨ ∀ decl ∈ declared, decl.decl.Native)
    (admits : ∀ index ∈ order, ∀ decl, declared[index]? = some decl →
      policy.admits before.nextVar (decl.type.setMutability .mutable)) :
    Follows policy (order.map (demandAt policy.width declared)).sum (defineAll declared order) config before
      (fun bodies limit => ∀ body ∈ bodies, body.2.All (policy.admits limit)) bad := by
  induction order generalizing before with
  | nil => exact .pure fun _ member => by cases member
  | cons index rest ih =>
    obtain ⟨first, others⟩ := List.forall_mem_cons.mp admits
    unfold defineAll
    split
    next missing =>
      have foreign := placed.resolve_right fun placed =>
        absurd (placed index List.mem_cons_self) (Nat.not_lt.mpr (List.getElem?_eq_none_iff.mp missing))
      exact .free (.fault (unknown foreign _ _ trivial))
    next decl found =>
      have member := List.mem_of_getElem? found
      have demand : demandAt policy.width declared index = decl.decl.body.demand policy.width := by
        simp [demandAt, found]
      rw [List.map_cons, List.sum_cons, demand]
      refine .bind (define_follows unknown solved (within decl member) (known decl member)
        (native.imp_right fun native => (native decl member).body) (first decl found)) fun body _ run issued all => ?_
      have scope := ((define_uses (.refl _) decl).leaves run).scope (by decide)
      refine .finish (ih (placed.imp_right fun placed index member => placed index (List.mem_cons_of_mem _ member))
        (fun decl member => (known decl member).same scope)
        fun index member decl found => policy.mono issued (others index member decl found)) ?_
      intro bodies _ _ issued' all'
      exact .pure (List.forall_mem_cons.mpr ⟨all.imp fun _ => policy.mono issued', all'⟩)

end

private theorem sum_demand {width : Nat} (decls : List Decl) :
    (decls.map (Decl.demand width)).sum =
      (decls.map fun decl => decl.type.wildcards).sum + (decls.map fun decl => decl.body.demand width).sum := by
  induction decls with
  | nil => rfl
  | cons decl rest ih =>
    simp only [List.map_cons, List.sum_cons, ih, Decl.demand]
    omega

/-- Checking bodies in any order takes what they take together. -/
theorem sum_demandAt {width : Nat} {declared : List DeclaredDecl} {order : List Nat}
    (all : order.Perm (List.range declared.length)) :
    (order.map (demandAt width declared)).sum = (declared.map fun decl => decl.decl.body.demand width).sum := by
  rw [(all.map _).sum_nat]
  congr 1
  refine List.ext_getElem (by simp) fun index _ inside => ?_
  simp at inside
  simp [demandAt, inside]

/-- Elaboration keeps to a policy by which a declaration may own what its type is made of. -/
theorem elaborateAll_follows (unknown : policy.foreign → ∀ cause limit, cause.Unknown → bad cause limit)
    (solved : ∀ final before, Follows policy 0 (solve final) config before (fun _ _ => True) bad)
    (owns : ∀ {limit type}, policy.admits limit type → policy.admits limit (type.setMutability .mutable))
    {decls : List (Option Decl)} (fits : policy.Fits config decls) :
    Follows policy ((decls.filterMap id).map (Decl.demand policy.width)).sum (elaborateAll decls) config before
      (fun (declared, bodies) limit => (∀ decl ∈ declared, policy.admits limit decl.type) ∧
        ∀ body ∈ bodies, body.2.All (policy.admits limit)) bad := by
  rw [sum_demand]
  refine .bind (prepare_follows unknown fits) ?_
  rintro ⟨declared, order⟩ ready run _ valid
  have readied := prepare_readied run
  have inside : ∀ decl ∈ declared, some decl.decl ∈ decls := fun decl member => by
    rw [readied.listed]
    exact List.mem_map_of_mem member
  have bodies : (decls.filterMap id).map (fun decl => decl.body.demand policy.width) =
      declared.map fun decl => decl.decl.body.demand policy.width := by
    rw [readied.listed, List.filterMap_map, List.map_filterMap]
    simp
  rw [bodies, ← sum_demandAt readied.order]
  refine .finish (defineAll_follows unknown (solved false) (.inr fun index member => ?_)
    (fun decl member => fits.bodies _ (inside decl member)) (readied.known fits.toWithin)
    (fits.native.imp_right fun native decl member => native _ (inside decl member))
    fun index _ decl found => owns (valid decl (List.mem_of_getElem? found))) fun bodies _ _ issued all => ?_
  · exact List.mem_range.mp (readied.order.mem_iff.mp member)
  · refine .chain (enterDecl_follows _) fun _ _ _ later _ => .chain (solved true _) fun _ _ _ later' _ => .pure ⟨?_, ?_⟩
    · exact fun decl member => policy.mono (Nat.le_trans issued (Nat.le_trans later later')) (valid decl member)
    · exact fun body member => (all body member).imp fun _ => policy.mono (Nat.le_trans later later')

end Session

section Over

/-! Types over given leaves and the variables issued. -/

variable {α : Type} {leaf : Ty → Prop} [Ty.Leaves leaf] {config : Config} {before after : State}

abbrev Policy.over (leaf : Ty → Prop) [Ty.Leaves leaf] : Policy where
  leaf := leaf
  admits limit type := type.Over leaf limit
  ties := True
  width := 0
  foreign := True
  knows _ _ := True
  mono le allowed := allowed.mono le
  proper := Ty.Leaves.proper
  atom _ _ allowed := allowed
  arrow := Iff.rfl
  lend held := held
  issue _ := ⟨trivial, fun _ => Nat.lt_succ_self _⟩
  bind _ _ _ _ := trivial

theorem permits_over {limit : Nat} {obligation : Obligation} :
    (Policy.over leaf).Permits limit obligation ↔ obligation.Over leaf limit := by
  cases obligation with
  | conforms literal type => exact ⟨And.left, fun allowed => ⟨allowed, fun _ => trivial⟩⟩
  | assignable expected found => exact Iff.rfl
  | instantiated params fresh generic =>
    constructor
    · rintro ⟨_, replaced, held, _, refers⟩
      exact ⟨replaced, held, refers⟩
    · rintro ⟨replaced, held, refers⟩
      exact ⟨trivial, replaced, held, .mutable, refers⟩

namespace State

theorem under_over {state : State} : state.Under (.over leaf) ↔ state.Over leaf := by
  constructor
  · rintro ⟨_, bindings, worklist, scope⟩
    refine ⟨fun binding member => ?_, fun obligation member => permits_over.mp (worklist obligation member), ?_⟩
    · obtain ⟨⟨_, issued⟩, valid⟩ := bindings binding member
      exact ⟨issued, valid⟩
    · exact fun entry member => (scope entry member).admits
  · rintro ⟨bindings, worklist, scope⟩
    have permitted obligation member := permits_over.mpr (worklist obligation member)
    refine ⟨trivial, fun binding member => ?_, permitted, ?_⟩
    · exact ⟨⟨.mutable, (bindings binding member).1⟩, (bindings binding member).2⟩
    · exact fun entry member => ⟨scope entry member, fun _ => .inl trivial⟩

namespace Over

open Session

theorem keeps {step : Session α} {value : α} {cost : Nat} {good : α → Nat → Prop} (allowed : before.Over leaf)
    (follows : Follows (.over leaf) cost step config before good fun _ _ => True)
    (run : step config before = (.ok value, after)) :
    before.nextVar ≤ after.nextVar ∧ after.Over leaf ∧ good value after.nextVar := by
  obtain ⟨issued, under, result⟩ := follows.reached (under_over.mpr allowed) run
  exact ⟨issued, under_over.mp under, result⟩

theorem elaborate (allowed : before.Over leaf) {expr : Expr} {expected : Option Ty} {typed : Typed Ty}
    (within : expr.Within leaf) (known : Known leaf before.scope (expr.freeNames config.key))
    (valid : ∀ type ∈ expected, type.Over leaf before.nextVar)
    (run : elaborate expr expected config before = (.ok typed, after)) :
    before.nextVar ≤ after.nextVar ∧ after.Over leaf ∧ typed.All (·.Over leaf after.nextVar) :=
  allowed.keeps (elaborate_follows (fun _ _ _ _ => trivial) within known (.inl trivial) valid) run

theorem prepare (allowed : before.Over leaf) {decls : List (Option Decl)} {declared : List DeclaredDecl}
    {order : List Nat} (within : Within leaf config decls)
    (run : prepare decls config before = (.ok (declared, order), after)) :
    before.nextVar ≤ after.nextVar ∧ after.Over leaf ∧ ∀ decl ∈ declared, decl.type.Over leaf after.nextVar :=
  allowed.keeps (prepare_follows (fun _ _ _ _ => trivial) ⟨within, .inl trivial, fun _ _ _ => .inl trivial⟩) run

theorem define (allowed : before.Over leaf) {declared : DeclaredDecl} {body : Typed Ty}
    (within : declared.decl.body.Within leaf)
    (known : Known leaf before.scope (declared.decl.body.freeNames config.key))
    (valid : declared.type.Over leaf before.nextVar) (run : define declared config before = (.ok body, after)) :
    before.nextVar ≤ after.nextVar ∧ after.Over leaf ∧ body.All (·.Over leaf after.nextVar) :=
  allowed.keeps (define_follows (fun _ _ _ _ => trivial)
    (fun _ => solve_follows (fun _ _ _ _ => trivial) (fun _ => trivial) false) within known (.inl trivial)
    (Ty.over_setMutability.mpr valid)) run

theorem defineAll (allowed : before.Over leaf) {declared : List DeclaredDecl} {order : List Nat}
    {bodies : List (Nat × Typed Ty)} (within : ∀ decl ∈ declared, decl.decl.body.Within leaf)
    (known : ∀ decl ∈ declared, Known leaf before.scope (decl.decl.body.freeNames config.key))
    (valid : ∀ decl ∈ declared, decl.type.Over leaf before.nextVar)
    (run : defineAll declared order config before = (.ok bodies, after)) :
    before.nextVar ≤ after.nextVar ∧ after.Over leaf ∧ ∀ body ∈ bodies, body.2.All (·.Over leaf after.nextVar) :=
  allowed.keeps (defineAll_follows (fun _ _ _ _ => trivial)
    (fun _ => solve_follows (fun _ _ _ _ => trivial) (fun _ => trivial) false) (.inl trivial) within known
    (.inl trivial) fun _ _ decl found => Ty.over_setMutability.mpr (valid decl (List.mem_of_getElem? found))) run

theorem elaborateAll (allowed : before.Over leaf) {decls : List (Option Decl)} {declared : List DeclaredDecl}
    {bodies : List (Nat × Typed Ty)} (within : Within leaf config decls)
    (run : elaborateAll decls config before = (.ok (declared, bodies), after)) :
    before.nextVar ≤ after.nextVar ∧ after.Over leaf ∧ (∀ decl ∈ declared, decl.type.Over leaf after.nextVar) ∧
      ∀ body ∈ bodies, body.2.All (·.Over leaf after.nextVar) :=
  allowed.keeps (elaborateAll_follows (fun _ _ _ _ => trivial)
    (fun final _ => solve_follows (fun _ _ _ _ => trivial) (fun _ => trivial) final)
    Ty.over_setMutability.mpr ⟨within, .inl trivial, fun _ _ _ => .inl trivial⟩) run

end Over

end State

end Over

end Checking

end RefinementTypes
