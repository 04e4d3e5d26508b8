import RefinementTypes.Proofs.Paths

/-! Every step of checking follows every policy that admits the types it is given: comparisons bind what
they may and put off the rest, the solver takes up what was put off, and checking an expression issues
no more variables than can be told from how it is written. -/

namespace RefinementTypes

/-- The number of parts of a written type that are left to be found. -/
def TypeExpr.wildcards : TypeExpr → Nat
  | arrow domain codomain => domain.wildcards + codomain.wildcards
  | wildcard | missing => 1
  | bool | regex | range _ _ | string _ | named _ | invalid | foreign _ => 0

/-- The number of variables that checking an expression issues at most, where names have so many
parameters at most. -/
def Expr.demand (width : Nat) : Expr → Nat
  | anno expr type => type.wildcards + expr.demand width
  | lam _ body => 2 + body.demand width
  | letElse _ bound thenBranch elseBranch =>
    bound.demand width + (thenBranch.demand width + elseBranch.demand width)
  | call func arg => func.demand width + (2 + arg.demand width)
  | name _ => width
  | lit _ | op _ _ | impossible | invalid | foreign _ | missing => 0

namespace Checking.Session

variable {policy : Policy} {bad : Fault → Nat → Prop} {config : Config} {before : State}

theorem normalize_follows (name : String) :
    Follows policy 0 (normalize name) config before (fun key _ => key = config.normalize name) bad :=
  .asking (.pure rfl)

theorem freshVar_follows (mutability : Mutability) :
    Follows policy 1 (freshVar mutability) config before (fun v limit => policy.admits limit (.var v)) bad :=
  .given fun under => .ask rfl (·.issue) (Nat.le_refl _) ((policy.issue under.knows).2 mutability)

theorem postpone_follows {obligation : Obligation} (permits : policy.Permits before.nextVar obligation) :
    Follows policy 0 (postpone obligation) config before (fun _ _ => True) bad := by
  have deferred : Follows policy 0 (request (.defer obligation)) config before (fun _ _ => True) bad :=
    .ask rfl (·.defer permits) (Nat.le_refl _) trivial
  exact .chain deferred fun _ _ _ _ _ => .trace

theorem consult_follows (pattern text : String) :
    Follows policy 0 (consult pattern text) config before (fun _ _ => True) bad := by
  refine .aside (consult_uses (.refl _) pattern text) (by decide) fun _ cause failed => ?_
  simp only [consult, run, Request.answer] at failed
  split at failed <;> cases failed

theorem declare_follows (name : String) {template : Template} (offers : policy.Offers before.nextVar template) :
    Follows policy 0 (declare name template) config before (fun _ _ => True) bad := by
  refine .chain (normalize_follows name) fun key middle _ issued _ => ?_
  refine .ask rfl (fun under => under.enter fun entry member => ?_) (Nat.le_refl _) trivial
  rcases NameMap.mem_insert member with rfl | old
  · exact offers.mono issued
  · exact under.scope entry old

private theorem solveVar_follows {v : TyVar} {type : Ty} (owned : v.isMutable = true)
    (free : before.subst.lookup v.id = none) (held : policy.admits before.nextVar (.var v))
    (admits : policy.admits before.nextVar type) :
    Follows policy 0 (solveVar v type) config before (fun _ _ => True) bad := by
  have bound : Follows policy 0 (request (.bind v.id type)) config before (fun _ _ => True) bad := by
    cases occurs : before.subst.occurs v.id type with
    | true => exact .turned (Request.answer_bind_occurs occurs)
    | false =>
      exact .ask (Request.answer_bind.mpr ⟨occurs, free, rfl⟩) (·.bind owned free held admits) (Nat.le_refl _) trivial
  exact .chain bound fun _ _ _ _ _ => .trace

/-- The depth is not asked about here: a comparison may be stopped. -/
theorem assignN_follows (depth : Nat) {expected found : Ty} (left : policy.admits before.nextVar expected)
    (right : policy.admits before.nextVar found) :
    Follows policy 0 (assignN depth expected found) config before (fun _ _ => True) fun _ _ => True := by
  induction depth generalizing expected found before with
  | zero => exact .fault trivial
  | succ depth ih =>
    obtain ⟨step, rule, same⟩ := assignN_comparison depth expected found config before
    refine .given fun under => .amounts same ?_
    cases rule with
    | alike | bottom | reported => exact .pure trivial
    | expectedBound known => exact ih (under.lookup known) right
    | foundBound _ known => exact ih left (under.lookup known)
    | bindExpected _ free _ owned => exact solveVar_follows owned free left right
    | bindFound _ free _ owned => exact solveVar_follows owned free right left
    | defer => exact postpone_follows ⟨left, right⟩
    | arrows domain codomain domain' codomain' =>
      obtain ⟨argument, result⟩ := policy.arrow.mp left
      obtain ⟨argument', result'⟩ := policy.arrow.mp right
      refine .chain (ih argument' argument) fun _ _ _ issued _ => ?_
      exact ih (policy.mono issued result) (policy.mono issued result')
    | clash => exact .read .refuse

theorem assign_follows {expected found : Ty} (left : policy.admits before.nextVar expected)
    (right : policy.admits before.nextVar found) :
    Follows policy 0 (assign expected found) config before (fun _ _ => True) bad := by
  have follows : Follows policy 0 (assign expected found) config before (fun _ _ => True) fun _ _ => True :=
    .read (assignN_follows _ left right)
  intro under
  obtain ⟨path, spent, result, _⟩ := follows under
  refine ⟨path, spent, result, fun acyclic cause failed => ?_⟩
  -- Under bindings without cycles the depth suffices.
  cases assign_incomparable acyclic failed

theorem splitFunction_follows {type : Ty} (admits : policy.admits before.nextVar type) :
    Follows policy 2 (splitFunction type) config before
      (fun parts limit => policy.admits limit parts.1 ∧ policy.admits limit parts.2) bad := by
  refine .given fun under => .read ?_
  have shape := under.shallow admits
  split
  next domain codomain same =>
    rw [same] at shape
    exact .free (.pure (policy.arrow.mp shape))
  next v same =>
    rw [same] at shape
    change Follows policy (1 + 1) _ config before _ bad
    refine .bind (freshVar_follows _) fun domain _ _ issued first => ?_
    refine .finish (freshVar_follows _) fun codomain _ _ issued' second => ?_
    have function := policy.arrow.mpr ⟨policy.mono issued' first, second⟩
    refine .chain (assign_follows function (policy.mono (Nat.le_trans issued issued') shape)) ?_
    exact fun _ _ _ issued'' _ => .pure (policy.arrow.mp (policy.mono issued'' function))
  next same =>
    rw [same] at shape
    exact .free (.pure ⟨shape, shape⟩)
  next => exact .free .refuse

/-- The copy of a type with variables ties them to those of the type. -/
theorem instanceWith_follows {follow : Ty → Session Ty} {params : List (String × Ty)} {type : Ty}
    (bound : policy.ties → ∀ type before, policy.admits before.nextVar type →
      (∀ param ∈ params, policy.admits before.nextVar param.2) →
      Follows policy 0 (follow type) config before (fun result limit => policy.admits limit result) bad)
    (ties : policy.ties ∨ type.vars = []) (admits : policy.admits before.nextVar type)
    (replaced : ∀ param ∈ params, policy.admits before.nextVar param.2) :
    Follows policy 0 (instanceWith params follow type) config before
      (fun result limit => policy.admits limit result) bad := by
  induction type generalizing before with
  | arrow domain codomain left right =>
    obtain ⟨first, second⟩ := policy.arrow.mp admits
    have closed : policy.ties ∨ domain.vars = [] ∧ codomain.vars = [] :=
      ties.imp_right List.append_eq_nil_iff.mp
    refine .chain (left (closed.imp_right And.left) first replaced) fun _ _ _ issued fits => ?_
    have later := fun param member => policy.mono issued (replaced param member)
    refine .chain (right (closed.imp_right And.right) (policy.mono issued second) later) ?_
    exact fun _ _ _ issued' fits' => .pure (policy.arrow.mpr ⟨policy.mono issued' fits, fits'⟩)
  | var v =>
    have ties : policy.ties := ties.resolve_right fun closed => by cases closed
    refine .given fun under => .read ?_
    split
    next known => exact bound ties _ _ (under.lookup known) replaced
    next =>
      -- What is issued is not counted where variables may be tied, and only there is one copied.
      refine .afford (.finish (freshVar_follows .mutable) ?_) (.inl ties)
      intro copy _ _ issued fresh
      have later := fun param member => policy.mono issued (replaced param member)
      have generic : policy.Refers _ v.id := ⟨v.mutability, policy.mono issued admits⟩
      refine .chain (postpone_follows ⟨ties, later, fresh, generic⟩) fun _ _ _ issued' _ => ?_
      exact .pure (policy.mono issued' fresh)
  | atom a =>
    cases a with
    | named name =>
      refine .pure ?_
      cases found : params.lookup name with
      | none => exact admits
      | some type => exact replaced (name, type) (mem_of_lookup_eq found)
    | bottom | bool | regex | range | string | error => exact .pure admits
  | missing => exact .pure admits

theorem instanceOf_follows {params : List (String × Ty)} {type : Ty} (ties : policy.ties ∨ type.vars = [])
    (admits : policy.admits before.nextVar type) (replaced : ∀ param ∈ params, policy.admits before.nextVar param.2) :
    Follows policy 0 (instanceOf params type) config before (fun result limit => policy.admits limit result) bad := by
  apply Follows.read
  generalize before.subst.size + 1 = steps
  induction steps generalizing type before with
  | zero => exact .pure admits
  | succ steps ih =>
    exact instanceWith_follows (fun ties _ _ admits replaced => ih (.inl ties) admits replaced) ties admits replaced

theorem freshParams_follows (params : List String) :
    Follows policy params.length (freshParams params) config before
      (fun result limit => ∀ param ∈ result, policy.admits limit param.2) bad := by
  induction params generalizing before with
  | nil => exact .pure fun _ member => by cases member
  | cons param rest ih =>
    rw [List.length_cons, Nat.add_comm]
    refine .bind (freshVar_follows .mutable) fun var _ _ _ fresh => ?_
    refine .finish ih fun others _ _ issued valid => .pure ?_
    split
    next => exact valid
    next => exact List.forall_mem_cons.mpr ⟨policy.mono issued fresh, valid⟩

theorem instantiate_follows (name : String) {template : Template} (offers : policy.Offers before.nextVar template) :
    Follows policy policy.width (instantiate name template) config before
      (fun result limit => policy.admits limit result) bad := by
  unfold instantiate
  split
  next => exact .free (.pure offers.admits)
  next some =>
    have closed := offers.closed fun none => some (by simp [none])
    refine .afford (.finish (freshParams_follows _) fun params _ _ issued replaced => ?_) (closed.imp_right And.right)
    refine .chain (instanceOf_follows (closed.imp_right And.left) (policy.mono issued offers.admits) replaced) ?_
    intro type _ _ _ fits
    exact .chain .trace fun _ _ _ issued' _ => .pure (policy.mono issued' fits)

private theorem lookup_follows (name : String) :
    Follows policy 0 (lookup name) config before (fun template limit =>
      template = before.scope.find? (config.normalize name) ∧ ∀ found ∈ template, policy.Offers limit found) bad := by
  refine .given fun under => .chain (normalize_follows name) ?_
  rintro _ _ ⟨⟩ _ _
  exact .ask rfl id (Nat.le_refl _) ⟨rfl, fun found known => under.scope _ (NameMap.mem_of_find? known)⟩

/-- A name has an instance of its template, and one that is not declared the type of what is reported. -/
theorem reference_follows (label : String) (known : Known policy.leaf before.scope [config.key label]) :
    Follows policy policy.width (reference label) config before
      (fun typed limit => typed.All (policy.admits limit)) bad := by
  refine .chain (normalize_follows label) ?_
  rintro _ _ ⟨⟩ _ _
  generalize same : config.normalize label = name
  refine .chain (lookup_follows name) fun template _ _ _ found => ?_
  cases template with
  | some template =>
    refine .finish (instantiate_follows name (found.2 template rfl)) fun type _ _ _ fits => ?_
    exact .pure fits
  | none =>
    have reported : policy.leaf (.atom .error) := by
      rcases known _ List.mem_cons_self with reported | present
      · exact reported
      · rw [Config.key, same, ← found.1] at present
        cases present
    have warned (state : State) : Follows policy 0 (request (.warn (.unknownName name) (.name label))) config state
        (fun _ _ => True) bad :=
      .ask rfl (fun under => under.aside ⟨rfl, rfl, rfl, rfl⟩) (Nat.le_refl _) trivial
    refine .chain (warned _) fun _ _ _ _ _ => .chain .trace fun _ _ _ _ _ => ?_
    exact .free (.pure (policy.atom _ reported))

private theorem settle_follows {cost : Nat} {expr : Expr} {expected : Option Ty} {step : Session (Typed Ty)}
    (asked : ∀ type ∈ expected, policy.admits before.nextVar type)
    (follows : Follows policy cost step config before (fun typed limit => typed.All (policy.admits limit)) bad) :
    Follows policy cost (settle expr expected step) config before
      (fun typed limit => typed.All (policy.admits limit)) bad := by
  refine .finish follows fun typed _ _ issued all => ?_
  cases expected with
  | none => exact .pure all
  | some type =>
    refine .chain (.locatedAt (assign_follows (policy.mono issued (asked type rfl)) all.type)) ?_
    exact fun _ _ _ issued' _ => .pure (all.imp fun _ => policy.mono issued')

theorem getD_holds {property : Ty → Prop} {expected : Option Ty} {found : Ty}
    (asked : ∀ type ∈ expected, property type) (fits : property found) : property (expected.getD found) := by
  cases expected with
  | none => exact fits
  | some type => exact asked type rfl

section

/-! Where forms are met that are not known, the steps that meet them are stopped. -/

variable (unknown : policy.foreign → ∀ cause limit, cause.Unknown → bad cause limit)

include unknown

theorem conform_follows {literal : Option Literal} (given : literal = none → policy.foreign) {type : Ty}
    (admits : policy.admits before.nextVar type) :
    Follows policy 0 (conform literal type) config before (fun _ _ => True) bad := by
  obtain ⟨step, rule, same⟩ := conform_judgement literal type config before
  refine .given fun under => .amounts same ?_
  cases rule with
  | defer waits =>
    have shape := under.shallow admits
    rw [waits] at shape
    exact postpone_follows ⟨shape, given⟩
  | accept => exact .pure trivial
  | text =>
    refine .chain (consult_follows _ _) fun answer _ _ _ _ => ?_
    split
    next => exact .refuse
    next => exact .pure trivial
    next => exact .refuse
  | reject => exact .refuse
  | lack absent => exact .fault (unknown (given absent) _ _ trivial)

theorem discharge_follows {obligation : Obligation} (permits : policy.Permits before.nextVar obligation) :
    Follows policy 0 (discharge obligation) config before (fun _ _ => True) bad := by
  cases obligation with
  | conforms literal type => exact conform_follows unknown permits.2 permits.1
  | assignable expected found => exact assign_follows permits.1 permits.2
  | instantiated params fresh generic =>
    obtain ⟨ties, replaced, held, refers⟩ := permits
    refine .given fun under => .read ?_
    split
    next => exact postpone_follows ⟨ties, replaced, held, refers⟩
    next bound known =>
      refine .chain (instanceOf_follows (.inl ties) (under.lookup known) replaced) ?_
      exact fun type _ _ issued fits => assign_follows (policy.mono issued held) fits

theorem dischargeAll_follows {obligations : List Obligation}
    (permits : ∀ obligation ∈ obligations, policy.Permits before.nextVar obligation) :
    Follows policy 0 (dischargeAll obligations) config before (fun _ _ => True) bad := by
  induction obligations generalizing before with
  | nil => exact .pure trivial
  | cons obligation rest ih =>
    obtain ⟨first, others⟩ := List.forall_mem_cons.mp permits
    refine .read (.chain (discharge_follows unknown first) fun _ _ _ issued _ => .read ?_)
    have later := fun obligation member => (others obligation member).mono issued
    exact .chain (ih later) fun _ _ _ _ _ => .pure trivial

omit unknown in
theorem stuck_follows (final : Bool) : Follows policy 0 (stuck final) config before (fun _ _ => True) bad := by
  unfold stuck
  split
  next => exact .read (.read .refuse)
  next => exact .pure trivial

/-- How many rounds there may be is not asked about here. -/
theorem solveFrom_follows (stopped : ∀ limit, bad .roundLimit limit) (final : Bool) (limit round : Nat) :
    Follows policy 0 (solveFrom final limit round) config before (fun _ _ => True) bad := by
  induction limit generalizing before round with
  | zero =>
    unfold solveFrom
    apply Follows.read
    split
    next => exact .pure trivial
    next => exact .fault (stopped _)
  | succ limit ih =>
    unfold solveFrom
    refine .given fun under => .read ?_
    split
    next => exact .pure trivial
    next =>
      have cleared : Follows policy 0 (request .clear) config before
          (fun _ limit => ∀ obligation ∈ before.worklist, policy.Permits limit obligation) bad :=
        .ask rfl (·.take) (Nat.le_refl _) under.worklist
      refine .read (.chain cleared fun _ _ _ _ permits => ?_)
      refine .chain (dischargeAll_follows unknown permits) fun settled _ _ _ _ => .read ?_
      refine .chain .trace fun _ _ _ _ _ => ?_
      split
      next => exact stuck_follows final
      next => exact ih _

theorem solve_follows (stopped : ∀ limit, bad .roundLimit limit) (final : Bool) :
    Follows policy 0 (solve final) config before (fun _ _ => True) bad :=
  .asking (solveFrom_follows unknown stopped final _ _)

theorem lower_follows (mutability : Mutability) {type : TypeExpr} (within : type.Within policy.leaf)
    (native : policy.foreign ∨ type.Native) :
    Follows policy type.wildcards (lower mutability type) config before
      (fun result limit => policy.admits limit result) bad := by
  induction type generalizing before with
  | arrow domain codomain left right =>
    refine .bind (left within.1 (native.imp_right And.left)) fun first _ _ _ fits => ?_
    refine .finish (right within.2 (native.imp_right And.right)) fun second _ _ issued fits' => .pure ?_
    exact policy.arrow.mpr ⟨policy.mono issued fits, fits'⟩
  | wildcard | missing => exact .finish (freshVar_follows mutability) fun v _ _ _ fits => .pure fits
  | bool | regex | range | string => exact .pure (policy.atom _ (policy.proper (by simp) (by simp)))
  | invalid => exact .pure (policy.atom _ within)
  | named name =>
    refine .chain (normalize_follows name) ?_
    exact fun _ _ _ _ _ => .pure (policy.atom _ (policy.proper (by simp) (by simp)))
  | foreign => exact .fault (unknown (native.resolve_right id) _ _ trivial)

theorem bindPat_follows {pat : Pat} (native : policy.foreign ∨ pat.Native) {type : Ty}
    (admits : policy.admits before.nextVar type) :
    Follows policy 0 (bindPat pat type) config before (fun _ _ => True) bad := by
  cases pat with
  | bind label =>
    refine .chain (normalize_follows label) fun name _ _ issued _ => ?_
    have offers : policy.Offers _ ⟨[], type⟩ := ⟨policy.mono issued admits, fun some => absurd rfl some⟩
    refine .chain (declare_follows name offers) fun _ _ _ _ _ => ?_
    exact .chain .trace fun _ _ _ _ _ => .pure trivial
  | lit value =>
    have given : value = none → policy.foreign := by
      rintro rfl
      exact native.resolve_right id
    exact .chain (conform_follows unknown given admits) fun _ _ _ _ _ => .pure trivial
  | wildcard => exact .pure trivial
  | constructor | apply | missing => exact .refuse
  | foreign => exact .fault (unknown (native.resolve_right id) _ _ trivial)

/-- Checking an expression keeps to a policy, provided that it brings in no leaf that is not admitted. -/
theorem elaborate_follows {expr : Expr} {expected : Option Ty} (within : expr.Within policy.leaf)
    (known : Known policy.leaf before.scope (expr.freeNames config.key)) (native : policy.foreign ∨ expr.Native)
    (asked : ∀ type ∈ expected, policy.admits before.nextVar type) :
    Follows policy (expr.demand policy.width) (elaborate expr expected) config before
      (fun typed limit => typed.All (policy.admits limit)) bad := by
  induction expr, expected using elaborate_induction generalizing before with
  | anno expr type expected ih =>
    rw [elaborate]
    refine settle_follows asked (.bind (lower_follows unknown _ within.2 (native.imp_right And.right)) ?_)
    intro type _ run _ fits
    have scope := ((lower_uses (.refl _) _ _).leaves run).scope (by decide)
    exact ih type within.1 (known.same scope) (native.imp_right And.left) (by rintro _ ⟨⟩; exact fits)
  | lam pat body type ih =>
    rw [elaborate]
    refine .bind (.locatedAt (splitFunction_follows (asked type rfl))) ?_
    rintro ⟨domain, codomain⟩ middle run issued ⟨first, second⟩
    have scope := ((splitFunction_uses (.refl _) type).leaves (locatedAt_ok run)).scope (by decide)
    have here := native.imp_right And.left
    refine .keepingScope (.chain (.locatedAt (bindPat_follows unknown here first)) fun pat' _ bound issued' _ => ?_)
    have known' := (known.same scope).inside (locatedAt_ok bound) (.inr rfl)
    have body := ih codomain within known' (native.imp_right And.right) (by
      rintro _ ⟨⟩
      exact policy.mono issued' second)
    refine .finish (.locatedAt body) fun body' _ _ issued'' all => .pure ⟨?_, all⟩
    exact policy.mono (Nat.le_trans issued (Nat.le_trans issued' issued'')) (asked type rfl)
  | letElse pat bound thenBranch elseBranch expected first second third =>
    rw [elaborate]
    have inBound := first within.1 known.left (native.imp_right (·.2.1)) (by rintro _ ⟨⟩)
    refine .bind (.locatedAt inBound) fun bound' _ run issued all => ?_
    have scope := ((elaborate_uses (.refl _) _ _).leaves (locatedAt_ok run)).scope (by decide)
    refine .keepingScope (.chain (.locatedAt (bindPat_follows unknown (native.imp_right (·.1)) all.type)) ?_)
    intro pat' middle run' issued' _
    have known' := (known.right.same scope).inside (locatedAt_ok run') (.inr rfl)
    have asked : ∀ type ∈ expected, policy.admits middle.nextVar type := fun type member =>
      policy.mono (Nat.le_trans issued issued') (asked type member)
    have inThen := second within.2.1 known'.left (native.imp_right (·.2.2.1)) asked
    refine .bind (.locatedAt inThen) fun then' last run'' later all' => ?_
    -- Where no type is expected, the second branch is checked against that of the first.
    have joined : policy.admits last.nextVar (expected.getD then'.type) :=
      getD_holds (fun type member => policy.mono later (asked type member)) all'.type
    have scope' := ((elaborate_uses (.refl _) _ _).leaves (locatedAt_ok run'')).scope (by decide)
    have inElse := third then' within.2.2 (known'.right.same scope') (native.imp_right (·.2.2.2)) (by
      rintro _ ⟨⟩
      exact joined)
    refine .finish (.locatedAt inElse) fun else' _ _ final all'' => .pure ⟨policy.mono final joined, ?_, ?_, all''⟩
    · exact all.imp fun _ => policy.mono (Nat.le_trans issued' (Nat.le_trans later final))
    · exact all'.imp fun _ => policy.mono final
  | call func arg expected first second =>
    rw [elaborate]
    have inFunc := first within.1 known.left (native.imp_right And.left) (by rintro _ ⟨⟩)
    refine settle_follows asked (.bind (.locatedAt inFunc) fun func' _ run _ all => ?_)
    refine .bind (.locatedAt (splitFunction_follows all.type)) ?_
    rintro ⟨domain, codomain⟩ _ run' issued ⟨taken, given⟩
    have scope := (((splitFunction_uses (.refl _) _).leaves (locatedAt_ok run')).scope (by decide)).trans
      (((elaborate_uses (.refl _) _ _).leaves (locatedAt_ok run)).scope (by decide))
    have inArg := second domain within.2 (known.right.same scope) (native.imp_right And.right) (by
      rintro _ ⟨⟩
      exact taken)
    refine .finish (.locatedAt inArg) fun arg' _ _ issued' all' => .pure ⟨policy.mono issued' given, ?_, all'⟩
    exact all.imp fun _ => policy.mono (Nat.le_trans issued issued')
  | literal value type notBool notRegex =>
    rw [elaborate_literal type notBool notRegex]
    refine .chain (.locatedAt (conform_follows unknown (fun absent => by cases absent) (asked type rfl))) ?_
    exact fun _ _ _ issued _ => .pure (policy.mono issued (asked type rfl))
  | literalFound value notBool notRegex =>
    rw [elaborate_literalFound notBool notRegex]
    exact .locatedAt .refuse
  | name label expected => rw [elaborate]; exact settle_follows asked (reference_follows label known)
  | bool | regex =>
    rw [elaborate]
    exact settle_follows asked (.pure (policy.atom _ (policy.proper (by simp) (by simp))))
  | impossible | invalid => rw [elaborate]; exact settle_follows asked (.pure (policy.atom _ within))
  | lamFound => rw [elaborate]; exact .locatedAt (.free .refuse)
  | op => rw [elaborate]; exact .locatedAt .refuse
  | absent | foreign => rw [elaborate]; exact .fault (unknown (native.resolve_right id) _ _ trivial)
  | missing => rw [elaborate]; exact .refuse

end

end Checking.Session

end RefinementTypes
