import RefinementTypes.Proofs.Declarations
import RefinementTypes.Proofs.Unification

/-! Typing without checking. Where no part of a program has been reported and none is impossible, types
are expected exactly as they are found, and the rules can be said of expressions as they are written:
nothing in them depends on the order in which variables are bound. What checking accepts has a type by
these rules under every solution of its state. -/

namespace RefinementTypes

/-- What a written type may stand for; what is left to be found may be anything. -/
def TypeExpr.Denotes (normalize : String → String) : TypeExpr → Ty → Prop
  | bool, type => type = .atom .bool
  | regex, type => type = .atom .regex
  | range low high, type => type = .atom (.range low high)
  | string pattern, type => type = .atom (.string pattern)
  | arrow domain codomain, type =>
    ∃ first second, type = .arrow first second ∧ domain.Denotes normalize first ∧
      codomain.Denotes normalize second
  | named name, type => type = .atom (.named (normalize name))
  | wildcard, _ | missing, _ => True
  | invalid, _ | foreign _, _ => False

namespace Ty

/-- The leaves of types where nothing has been reported and nothing is impossible. -/
def Solid (leaf : Ty) : Prop := leaf ≠ atom .bottom ∧ leaf ≠ atom .error ∧ leaf ≠ missing

theorem Solid.atom {a : Atom} (yields : a ≠ .bottom) (unreported : a ≠ .error) : Solid (.atom a) := by
  simp [Solid, yields, unreported]

instance : Leaves Solid := ⟨.atom⟩

theorem Over.definite {type : Ty} {limit : Nat} (allowed : type.Over Solid limit) : type.Definite := by
  induction type with
  | arrow domain codomain left right => exact ⟨left allowed.1, right allowed.2⟩
  | atom a => simpa [Solid] using allowed
  | var | missing => trivial

theorem Definite.rename {replace : String → Ty} {type : Ty} (definite : type.Definite)
    (replaced : ∀ name, (replace name).Definite) : (type.rename replace).Definite := by
  induction type with
  | arrow domain codomain left right => exact ⟨left definite.1, right definite.2⟩
  | atom a =>
    cases a with
    | named name => exact replaced name
    | bottom | bool | regex | range | string | error => exact definite
  | var | missing => trivial

theorem replacement_definite {params : List (String × Ty)} {assigned : Assignment}
    (definite : ∀ id, (assigned id).Definite) (replaced : ∀ param ∈ params, param.2.Definite) (name : String) :
    (replacement params assigned name).Definite := by
  unfold replacement
  cases found : params.lookup name with
  | none => simp
  | some type => exact (replaced (name, type) (mem_of_lookup_eq found)).image definite

theorem rename_eq_specialize (params : List String) {replace : String → Ty} (type : Ty)
    (others : ∀ name, name ∉ params → replace name = atom (.named name)) :
    type.rename replace = type.specialize params replace := by
  induction type with
  | arrow domain codomain left right => simp only [rename, specialize, left, right]
  | atom a =>
    cases a with
    | named name =>
      simp only [rename, specialize]
      split
      next => rfl
      next outside => exact others name outside
    | bottom | bool | regex | range | string | error => rfl
  | var | missing => rfl

theorem specialize_congr {params : List String} {first second : String → Ty} (type : Ty)
    (same : ∀ name ∈ params, first name = second name) :
    type.specialize params first = type.specialize params second := by
  induction type with
  | arrow domain codomain left right => simp only [specialize, left, right]
  | atom a =>
    cases a with
    | named name =>
      simp only [specialize]
      split
      next inside => exact same name inside
      next => rfl
    | bottom | bool | regex | range | string | error => rfl
  | var | missing => rfl

end Ty

theorem TypeExpr.Denotes.within {normalize : String → String} {written : TypeExpr} {type : Ty}
    (denotes : written.Denotes normalize type) : written.Within Ty.Solid := by
  induction written generalizing type with
  | arrow domain codomain left right =>
    obtain ⟨first, second, _, denotes, denotes'⟩ := denotes
    exact ⟨left denotes, right denotes'⟩
  | invalid => exact denotes.elim
  | bool | regex | range | string | named | wildcard | foreign | missing => trivial

def Pat.normalized (normalize : String → String) : Pat → Pat
  | bind label => bind (normalize label)
  | pat => pat

namespace Checking

/-- The copy of a variable stands for an instance of what the variable stands for. -/
def Reading.exactly (trees : Assignment) (definite : ∀ id, (trees id).Definite) : Reading where
  trees := trees
  tied params fresh generic := (∀ param ∈ params, param.2.Definite) →
    trees fresh.id = (trees generic.id).rename (Ty.replacement params trees)
  steady state := state.cache.Exact ∧ state.subst.Acyclic
  exact _ := And.left
  grows _ _ grows steady := ⟨grows.cache steady.1, grows.acyclic steady.2⟩
  instances config before after params fresh generic bound steady known run agrees met replaced := by
    obtain ⟨type, middle, made, compared⟩ := Session.bind_ok run
    obtain ⟨middle', made', alike⟩ := Session.instanceOf_copies steady.2 params bound
    cases made.symm.trans made'
    obtain ⟨deferred, grown, admits⟩ := Session.assignN_defers compared
    have grows := Session.grows_of_run run
    have copied : (Ty.copy params before.nextVar (before.subst.apply bound)).image trees =
        (trees generic.id).rename (Ty.replacement params trees) := by
      rw [image_copy, (grows.agrees agrees).apply, ← grows.agrees agrees _ _ known]
      intro fresh generic member
      refine met (.instantiated params fresh generic) ?_ replaced
      rw [grown, alike.worklist]
      exact List.mem_append_left _ (List.mem_append_right _ member)
    have compared : (trees fresh.id).Admits
        ((Ty.copy params before.nextVar (before.subst.apply bound)).image trees) := by
      refine admits trees agrees fun pair member => met (.assignable pair.1 pair.2) ?_
      rw [grown]
      exact List.mem_append_right _ (List.mem_map_of_mem member)
    rw [copied] at compared
    exact compared.eq (definite fresh.id)
      ((definite generic.id).rename (Ty.replacement_definite definite replaced))

/-- What a template may stand for at one reference. -/
def Template.Yields (template : Template) (type : Ty) : Prop :=
  ∃ replace : String → Ty, (∀ name, (replace name).Definite) ∧
    type = template.type.specialize template.params replace

/-- The typing rules. They relate an expression to the tree in which each node carries its type. An
expression of which no type is expected has to show its type; `expected` tells whether one is. There is
no rule for what has been reported, for names that are unknown and for expressions that never yield a
value. -/
inductive Elaborates (config : Config) : Env → Bool → Expr → Typed Ty → Prop
  | anno {env : Env} {expected : Bool} {expr : Expr} {written : TypeExpr} {tree : Typed Ty}
      (definite : tree.type.Definite) (denotes : written.Denotes config.normalize tree.type)
      (inside : Elaborates config env true expr tree) : Elaborates config env expected (.anno expr written) tree
  | lam {env : Env} {pat : Pat} {body : Expr} {domain : Ty} {tree : Typed Ty}
      (fits : Fits config.matcher.Accepts pat domain)
      (inside : Elaborates config (env.extend config.key pat domain) true body tree) :
      Elaborates config env true (.lam pat body)
        (.lam (.arrow domain tree.type) (pat.normalized config.normalize) tree)
  | letElse {env : Env} {expected : Bool} {pat : Pat} {bound thenBranch elseBranch : Expr}
      {head left right : Typed Ty} (definite : head.type.Definite) (first : Elaborates config env false bound head)
      (fits : Fits config.matcher.Accepts pat head.type)
      (second : Elaborates config (env.extend config.key pat head.type) expected thenBranch left)
      (third : Elaborates config (env.extend config.key pat head.type) true elseBranch right)
      (same : right.type = left.type) :
      Elaborates config env expected (.letElse pat bound thenBranch elseBranch)
        (.letElse left.type (pat.normalized config.normalize) head left right)
  | call {env : Env} {expected : Bool} {func arg : Expr} {head last : Typed Ty} {type : Ty}
      (definite : last.type.Definite) (first : Elaborates config env false func head)
      (function : head.type = .arrow last.type type) (second : Elaborates config env true arg last) :
      Elaborates config env expected (.call func arg) (.call type head last)
  | bool (env : Env) (expected : Bool) (value : Bool) :
      Elaborates config env expected (.lit (some (.bool value))) (.lit (.atom .bool) (.bool value))
  | regex (env : Env) (expected : Bool) (source : String) :
      Elaborates config env expected (.lit (some (.regex source))) (.lit (.atom .regex) (.regex source))
  | lit {env : Env} {value : Literal} {type : Ty} (notBool : ∀ truth, value ≠ .bool truth)
      (notRegex : ∀ source, value ≠ .regex source)
      (belongs : Conforms config.matcher.Accepts (some value) type) :
      Elaborates config env true (.lit (some value)) (.lit type value)
  | name {env : Env} {expected : Bool} {label : String} {template : Template} {type : Ty}
      (declared : env (config.key label) = some template) (yields : template.Yields type) :
      Elaborates config env expected (.name label) (.name type (config.normalize label))

/-- The trees that the templates in scope stand for. -/
def Env.of (assigned : Assignment) (scope : NameMap Template) : Env := fun key =>
  (scope.find? key).map fun template => ⟨template.params, template.type.image assigned⟩

namespace Session

variable {assigned : Assignment} {config : Config} {before after : State}

theorem bindPat_env (assigned : Assignment) {pat pat' : Pat} {type : Ty}
    (run : bindPat pat type config before = (.ok pat', after)) :
    Env.of assigned after.scope = (Env.of assigned before.scope).extend config.key pat (type.image assigned) := by
  funext key
  unfold Env.of
  rw [bindPat_scope run]
  cases pat with
  | bind label =>
    simp only [Pat.hides, Env.extend, decide_eq_true_eq]
    by_cases same : key = config.key label
    · rw [if_pos same, if_pos same.symm]
      rfl
    · rw [if_neg same, if_neg (Ne.symm same)]
  | wildcard | lit | constructor | apply | missing | foreign => rfl

private theorem bindPat_fits {accepts : String → String → Prop} {pat pat' : Pat} {type tree : Ty}
    (run : bindPat pat type config before = (.ok pat', after)) (fits : Fits accepts pat' tree) :
    Fits accepts pat tree := by
  cases pat with
  | bind label => exact .bind label tree
  | wildcard => exact .wildcard tree
  | lit value =>
    obtain ⟨_, _, _, run⟩ := bind_ok run
    cases run
    exact fits
  | constructor | apply | missing | foreign => cases run

theorem bindPat_normalized {pat pat' : Pat} {type : Ty}
    (run : bindPat pat type config before = (.ok pat', after)) : pat' = pat.normalized config.normalize := by
  cases pat with
  | bind label =>
    obtain ⟨_, _, normalized, run⟩ := bind_ok run
    obtain ⟨_, _, _, run⟩ := bind_ok run
    obtain ⟨_, _, _, run⟩ := bind_ok run
    cases normalized
    cases run
    rfl
  | wildcard =>
    cases run
    rfl
  | lit value =>
    obtain ⟨_, _, _, run⟩ := bind_ok run
    cases run
    rfl
  | constructor | apply | missing | foreign => cases run

theorem lower_denotes (assigned : Assignment) {mutability : Mutability} {written : TypeExpr} {type : Ty}
    (within : written.Within Ty.Solid) (run : lower mutability written config before = (.ok type, after)) :
    written.Denotes config.normalize (type.image assigned) := by
  induction written generalizing type before after with
  | arrow domain codomain left right =>
    obtain ⟨first, _, early, run⟩ := bind_ok run
    obtain ⟨second, _, late, run⟩ := bind_ok run
    cases run
    exact ⟨_, _, rfl, left within.1 early, right within.2 late⟩
  | wildcard | missing => trivial
  | invalid => exact absurd rfl within.2.1
  | foreign form => cases run
  | bool | regex | range _ _ | string _ | named _ => cases run; rfl

section Sound

variable (definite : ∀ id, (assigned id).Definite)

private theorem instantiate_yields (name : String) (template : Template) :
    Establishes (.exactly assigned definite) (instantiate name template) config before fun type =>
      Template.Yields ⟨template.params, template.type.image assigned⟩ (type.image assigned) := by
  refine ((Establishes.kept (instantiate_uses (.refl _) name template) (by decide)).learn
    fun type after steady run solves => ?_).imp fun _ => And.right
  unfold instantiate at run
  split at run
  next none =>
    cases run
    refine ⟨fun _ => .atom .bool, fun _ => by simp, ?_⟩
    rw [List.isEmpty_iff.mp none, Ty.specialize_nil]
  next =>
    obtain ⟨params, paired, fresh, run⟩ := bind_ok run
    obtain ⟨type', middle, made, run⟩ := bind_ok run
    obtain ⟨_, traced, reported, run⟩ := bind_ok run
    cases run
    have replaced : ∀ param ∈ params, param.2.Definite := by
      cases fresh.symm.trans (freshParams_run template.params config before)
      intro param member
      obtain ⟨_, v, same, _⟩ := mem_paramsFrom member
      rw [same]
      trivial
    have grows := grows_of_run fresh
    obtain ⟨middle', made', alike⟩ := instanceOf_copies (grows.acyclic steady.2) params template.type
    cases made.symm.trans made'
    have alike' := ((Quiet.trace _).result reported).1
    have agrees : paired.subst.Agrees assigned := by
      rw [← alike.subst, ← alike'.subst]
      exact solves.agrees
    refine ⟨Ty.replacement params assigned, Ty.replacement_definite definite replaced, ?_⟩
    rw [image_copy, agrees.apply]
    · apply Ty.rename_eq_specialize
      intro name outside
      simp [Ty.replacement, (freshParams_lookup fresh name).2 outside]
    · intro fresh generic member
      refine solves.worklist (.instantiated params fresh generic) ?_ replaced
      rw [alike'.worklist, alike.worklist]
      exact List.mem_append_right _ member

private theorem reference_sound (label : String) (known : Known Ty.Solid before.scope [config.key label]) :
    Establishes (.exactly assigned definite) (reference label) config before fun typed =>
      ∀ expected, Elaborates config (.of assigned before.scope) expected (.name label)
        (typed.map (·.image assigned)) := by
  refine .bind (normalize_quiet label).establishes fun name middle first => ?_
  refine .bind (lookup_quiet name).establishes fun template _ second => ?_
  have declared : before.scope.find? (config.key label) = template := by
    obtain ⟨alike, same⟩ := (normalize_quiet label).result first
    rw [Config.key, ← same, ← alike.scope]
    exact ((lookup_quiet name).result second).2.symm
  cases template with
  | some template =>
    refine .bind (instantiate_yields definite _ template) fun type _ _ => .pure fun yields _ _ expected => ?_
    rw [((normalize_quiet label).result first).2]
    exact .name (by rw [Env.of, declared]; rfl) yields
  | none =>
    rcases known _ List.mem_cons_self with reported | present
    · exact absurd rfl reported.2.1
    · rw [declared] at present
      cases present

private theorem settle_sound {step : Session (Typed Ty)} {expr : Expr} {expected : Option Ty} {env : Env}
    (valid : ∀ type ∈ expected, type.Over Ty.Solid before.nextVar)
    (typing : Establishes (.exactly assigned definite) step config before fun typed =>
      (∀ expected, Elaborates config env expected expr (typed.map (·.image assigned))) ∧
        (typed.type.image assigned).Definite) :
    Establishes (.exactly assigned definite) (settle expr expected step) config before fun typed =>
      Elaborates config env expected.isSome expr (typed.map (·.image assigned)) ∧
        ∀ type ∈ expected, type.image assigned = typed.type.image assigned := by
  refine .bind typing fun typed middle run => ?_
  cases expected with
  | none => exact .pure fun typing => ⟨typing.1 false, by rintro _ ⟨⟩⟩
  | some type =>
    refine .bind (.locatedAt (assign_establishes type typed.type)) fun _ _ _ => .pure fun admits typing => ?_
    refine ⟨typing.1 true, ?_⟩
    rintro _ ⟨⟩
    exact admits.eq ((valid type rfl).definite.image definite) typing.2

omit definite in
private theorem elaborate_solid {expr located : Expr} {expected : Option Ty} {typed : Typed Ty}
    (run : locatedAt located (elaborate expr expected) config before = (.ok typed, after))
    (allowed : before.Over Ty.Solid) (within : expr.Within Ty.Solid)
    (known : Known Ty.Solid before.scope (expr.freeNames config.key))
    (valid : ∀ type ∈ expected, type.Over Ty.Solid before.nextVar) :
    before.nextVar ≤ after.nextVar ∧ after.Over Ty.Solid ∧ typed.All (·.Over Ty.Solid after.nextVar) ∧
      after.scope = before.scope := by
  obtain ⟨issued, allowed', all⟩ := allowed.elaborate within known valid (locatedAt_ok run)
  exact ⟨issued, allowed', all, ((elaborate_uses (.refl _) expr expected).leaves (locatedAt_ok run)).scope (by decide)⟩

/-- Checking an expression succeeds only if what is found follows the rules, and its type is the one that
is expected, under every solution of the state that checking leaves. -/
theorem elaborate_sound (allowed : before.Over Ty.Solid) (expr : Expr) (expected : Option Ty)
    (within : expr.Within Ty.Solid) (known : Known Ty.Solid before.scope (expr.freeNames config.key))
    (valid : ∀ type ∈ expected, type.Over Ty.Solid before.nextVar) :
    Establishes (.exactly assigned definite) (elaborate expr expected) config before fun typed =>
      Elaborates config (.of assigned before.scope) expected.isSome expr (typed.map (·.image assigned)) ∧
        ∀ type ∈ expected, type.image assigned = typed.type.image assigned := by
  have node (typed : Typed Ty) : typed.type.image assigned = (typed.map (·.image assigned)).type := by simp
  have found {limit : Nat} : ∀ type ∈ (none : Option Ty), type.Over Ty.Solid limit := by rintro _ ⟨⟩
  have one {type : Ty} {limit : Nat} (fits : type.Over Ty.Solid limit) :
      ∀ other ∈ some type, other.Over Ty.Solid limit := by
    rintro _ ⟨⟩
    exact fits
  induction expr, expected using elaborate_induction generalizing before with
  | anno expr written expected ih =>
    rw [elaborate]
    refine settle_sound definite valid
      (.bind (.kept (lower_uses (.refl _) _ _) (by decide)) fun lowered middle run => ?_)
    obtain ⟨_, allowed', fits⟩ := allowed.keeps (lower_follows (fun _ _ _ _ => trivial) _ within.2 (.inl trivial)) run
    have scope := ((lower_uses (.refl _) _ _).leaves run).scope (by decide)
    refine (ih lowered allowed' within.1 (known.same scope) (one fits)).imp fun typed typing _ => ?_
    have denotes := lower_denotes assigned within.2 run
    have solid := fits.definite.image definite
    rw [typing.2 lowered rfl] at denotes solid
    rw [scope] at typing
    refine ⟨fun _ => .anno ?_ ?_ typing.1, solid⟩
    · rw [Typed.type_map]
      exact solid
    · rw [Typed.type_map]
      exact denotes
  | lam pat body type ih =>
    rw [elaborate]
    refine .bind (.locatedAt (splitFunction_establishes type)) ?_
    rintro ⟨domain, codomain⟩ middle split
    replace split := locatedAt_ok split
    obtain ⟨issued, allowed', fits⟩ := allowed.keeps (splitFunction_follows (valid type rfl)) split
    have same := ((splitFunction_uses (.refl _) type).leaves split).scope (by decide)
    refine .keepingScope (.bind (.locatedAt (bindPat_establishes pat domain)) fun pat' inside bound => ?_)
    replace bound := locatedAt_ok bound
    obtain ⟨issued', allowed'', _⟩ :=
      allowed'.keeps (bindPat_follows (fun _ _ _ _ => trivial) (.inl trivial) fits.1) bound
    have known' := (known.same same).inside bound (.inr rfl)
    have checking := ih codomain allowed'' within known' (one (fits.2.mono issued'))
    refine .bind (.locatedAt checking) fun body' final checked => .pure fun typing fitting admits => ?_
    have function : Ty.arrow (domain.image assigned) (codomain.image assigned) = type.image assigned :=
      admits.eq ⟨fits.1.definite.image definite, fits.2.definite.image definite⟩
        ((valid type rfl).definite.image definite)
    refine ⟨?_, by rintro _ ⟨⟩; rfl⟩
    simp only [Typed.map, Option.isSome_some]
    rw [← function, typing.2 codomain rfl, node, ← same, bindPat_normalized bound]
    refine .lam (bindPat_fits bound fitting) ?_
    rw [← bindPat_env assigned bound]
    exact typing.1
  | letElse pat bound thenBranch elseBranch expected first second third =>
    rw [elaborate]
    refine .bind (.locatedAt (first allowed within.1 known.left found)) fun bound' middle run => ?_
    obtain ⟨issued, allowed', all, same⟩ := elaborate_solid run allowed within.1 known.left found
    have known' := known.right.same same
    refine .keepingScope (.bind (.locatedAt (bindPat_establishes pat bound'.type)) fun pat' inside compared => ?_)
    replace compared := locatedAt_ok compared
    obtain ⟨issued', allowed'', _⟩ :=
      allowed'.keeps (bindPat_follows (fun _ _ _ _ => trivial) (.inl trivial) all.type) compared
    have known'' := known'.inside compared (.inr rfl)
    have valid' := fun type member => ((valid type member).mono issued).mono issued'
    refine .bind (.locatedAt (second allowed'' within.2.1 known''.left valid')) fun then' between left => ?_
    obtain ⟨later, inner, all', same'⟩ := elaborate_solid left allowed'' within.2.1 known''.left valid'
    have type := getD_holds (fun type member => (valid' type member).mono later) all'.type
    refine .bind (.locatedAt (third then' inner within.2.2 (known''.right.same same') (one type)))
      fun else' final right => .pure fun typing' typing fitting head => ?_
    have both : (expected.getD then'.type).image assigned = then'.type.image assigned := by
      cases expected with
      | none => rfl
      | some expected => exact typing.2 expected rfl
    refine ⟨?_, by rintro _ ⟨⟩; rfl⟩
    simp only [Typed.map]
    rw [← same, both, node, bindPat_normalized compared]
    have env := bindPat_env assigned compared
    rw [node bound'] at env
    refine .letElse ?_ ?_ ?_ ?_ ?_ ?_
    · rw [Typed.type_map]
      exact all.type.definite.image definite
    · rw [same]
      exact head.1
    · rw [Typed.type_map]
      exact bindPat_fits compared fitting
    · rw [← env]
      exact typing.1
    · rw [← env, ← same']
      exact typing'.1
    · rw [Typed.type_map, Typed.type_map, ← typing'.2 _ rfl, both]
  | call func arg expected first second =>
    rw [elaborate]
    refine settle_sound definite valid ?_
    refine .bind (.locatedAt (first allowed within.1 known.left found)) fun func' middle run => ?_
    obtain ⟨issued, allowed', all, same⟩ := elaborate_solid run allowed within.1 known.left found
    refine .bind (.locatedAt (splitFunction_establishes func'.type)) ?_
    rintro ⟨domain, codomain⟩ parts split
    replace split := locatedAt_ok split
    obtain ⟨later, allowed'', fits⟩ := allowed'.keeps (splitFunction_follows all.type) split
    have same' := (((splitFunction_uses (.refl _) func'.type).leaves split).scope (by decide)).trans same
    refine .bind (.locatedAt (second domain allowed'' within.2 (known.right.same same') (one fits.1)))
      fun arg' final checked => .pure fun typing admits head => ?_
    have solid := fits.1.definite.image definite
    have solid' := fits.2.definite.image definite
    have function : Ty.arrow (domain.image assigned) (codomain.image assigned) = func'.type.image assigned :=
      admits.eq ⟨solid, solid'⟩ (all.type.definite.image definite)
    rw [typing.2 domain rfl] at function solid
    simp only [Typed.map]
    refine ⟨fun expected => .call ?_ head.1 ?_ ?_, solid'⟩
    · rw [Typed.type_map]
      exact solid
    · rw [Typed.type_map, Typed.type_map]
      exact function.symm
    · rw [← same']
      exact typing.1
  | literal value type notBool notRegex =>
    rw [elaborate_literal type notBool notRegex]
    refine .bind (.locatedAt (conform_establishes _ _)) fun _ _ _ => .pure fun conforms => ?_
    exact ⟨.lit notBool notRegex conforms, by rintro _ ⟨⟩; rfl⟩
  | literalFound value notBool notRegex =>
    rw [elaborate_literalFound notBool notRegex]
    exact .locatedAt .refuse
  | bool value expected =>
    rw [elaborate]
    exact settle_sound definite valid (.pure ⟨fun expected => .bool _ expected value, by simp [Typed.type]⟩)
  | regex source expected =>
    rw [elaborate]
    exact settle_sound definite valid (.pure ⟨fun expected => .regex _ expected source, by simp [Typed.type]⟩)
  | name label expected =>
    rw [elaborate]
    refine settle_sound definite valid ((reference_sound definite label known).learn fun _ _ _ run _ => ?_)
    exact (allowed.keeps (reference_follows label known) run).2.2.type.definite.image definite
  | impossible => exact absurd rfl within.1
  | invalid => exact absurd rfl within.2.1
  | lamFound | op => rw [elaborate]; exact .locatedAt .refuse
  | absent | foreign => rw [elaborate]; exact .fault
  | missing => rw [elaborate]; exact .refuse

end Sound

end Session

end Checking

end RefinementTypes
