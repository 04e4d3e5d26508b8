import RefinementTypes.Proofs.Literals
import RefinementTypes.Proofs.Validity

/-! Typing rules. An expression in which every node carries a tree is derivable when each node is
related to its parts, up to what has already been reported as an error; names have the types that the
innermost pattern or declaration gives them. Checking an expression gives a derivable one, once
variables are replaced by trees that solve the state. -/

namespace RefinementTypes

def Ty.specialize (params : List String) (replace : String → Ty) : Ty → Ty
  | arrow domain codomain => arrow (domain.specialize params replace) (codomain.specialize params replace)
  | atom (.named name) => if name ∈ params then replace name else atom (.named name)
  | type => type

namespace Checking

/-- What a template stands for at one reference: its parameters are replaced by trees, each by one. -/
def Template.Instance (template : Template) (type : Ty) : Prop :=
  ∃ replace : String → Ty, (∀ name, (replace name).Ground) ∧
    type = template.type.specialize template.params replace

abbrev Env := String → Option Template

/-- The scope of what follows a pattern. The name that it binds, if any, hides others. -/
def Env.extend (env : Env) (normalize : String → String) (pat : Pat) (type : Ty) : Env :=
  match pat with
  | .bind name => fun key => if key = normalize name then some ⟨[], type⟩ else env key
  | .wildcard | .lit _ | .constructor _ | .apply _ _ | .missing | .foreign _ => env

open Ty (Consistent)

/-- The typing rules. There is none for an expression that never yields a value. -/
inductive Derives (config : Config) : Env → Typed Ty → Prop
  | lam {env : Env} {type : Ty} {pat : Pat} {body : Typed Ty} (domain codomain : Ty)
      (trees : domain.Ground ∧ codomain.Ground) (function : Consistent type (.arrow domain codomain))
      (fits : Fits config.matcher.Accepts pat domain)
      (inside : Derives config (env.extend config.normalize pat domain) body)
      (result : Consistent codomain body.type) : Derives config env (.lam type pat body)
  | letElse {env : Env} {type : Ty} {pat : Pat} {bound thenBranch elseBranch : Typed Ty}
      (head : Derives config env bound) (fits : Fits config.matcher.Accepts pat bound.type)
      (left : Derives config (env.extend config.normalize pat bound.type) thenBranch)
      (right : Derives config (env.extend config.normalize pat bound.type) elseBranch)
      (result : Consistent type thenBranch.type) (result' : Consistent type elseBranch.type) :
      Derives config env (.letElse type pat bound thenBranch elseBranch)
  | call {env : Env} {type : Ty} {func arg : Typed Ty} (domain : Ty) (tree : domain.Ground)
      (head : Derives config env func) (function : Consistent func.type (.arrow domain type))
      (last : Derives config env arg) (argument : Consistent domain arg.type) :
      Derives config env (.call type func arg)
  | lit {env : Env} {type : Ty} {value : Literal}
      (belongs : Conforms config.matcher.Accepts (some value) type) : Derives config env (.lit type value)
  | name {env : Env} {type : Ty} {label : String} {template : Template}
      (declared : env (config.normalize label) = some template) (same : template.Instance type) :
      Derives config env (.name type label)
  | unknown {env : Env} {label : String} (undeclared : env (config.normalize label) = none) :
      Derives config env (.name (.atom .error) label)
  | invalid (env : Env) : Derives config env (.invalid (.atom .error))

/-- The body of a declaration can be used where its type is expected, and all types in it are trees. -/
structure WellTyped (config : Config) (env : Env) (type : Ty) (body : Typed Ty) : Prop where
  tree : type.Ground
  trees : body.All Ty.Ground
  derives : Derives config env body
  result : Consistent type body.type

end Checking

namespace Ty

/-- The leaves that checking brings in where no expression is impossible. -/
def Proper (leaf : Ty) : Prop := leaf ≠ atom .bottom ∧ leaf ≠ missing

theorem Proper.atom {atom : Atom} (other : atom ≠ .bottom) : Proper (.atom atom) := by
  simp [Proper, other]

instance : Leaves Proper := ⟨fun yields _ => .atom yields⟩

theorem Over.ground {type : Ty} (allowed : type.Over Proper 0) : type.Ground := by
  induction type with
  | arrow domain codomain left right => exact ⟨left allowed.1, right allowed.2⟩
  | atom _ | missing => exact allowed.2
  | var v => exact allowed

theorem specialize_nil (replace : String → Ty) (type : Ty) : type.specialize [] replace = type := by
  induction type with
  | arrow domain codomain left right => simp only [specialize, left, right]
  | atom a => cases a <;> rfl
  | var | missing => rfl

theorem Admits.consistent_image {assigned : Assignment} {expected found : Ty} {limit : Nat}
    (admits : (expected.image assigned).Admits (found.image assigned))
    (trees : ∀ id, (assigned id).Over Proper 0) (left : expected.Over Proper limit)
    (right : found.Over Proper limit) : Consistent (expected.image assigned) (found.image assigned) :=
  admits.consistent (fun proper => proper.1 rfl) (right.image trees) (left.image trees)

variable {type : Ty} (assigned : Assignment) (closed : type.vars = [])
include closed

theorem image_closed : type.image assigned = type := by
  induction type with
  | arrow domain codomain left right =>
    obtain ⟨first, second⟩ := List.append_eq_nil_iff.mp closed
    simp only [image, left first, right second]
  | atom _ | missing => rfl
  | var v => cases closed

private theorem image_specialize (params : List String) (replace : String → Ty) :
    (type.specialize params replace).image assigned =
      type.specialize params fun name => (replace name).image assigned := by
  induction type with
  | arrow domain codomain left right =>
    obtain ⟨first, second⟩ := List.append_eq_nil_iff.mp closed
    simp only [specialize, image, left first, right second]
  | atom a =>
    cases a with
    | named name => simp only [specialize]; split <;> rfl
    | bottom | bool | regex | range | string | error => rfl
  | missing => rfl
  | var v => cases closed

end Ty

namespace Checking.Session

variable {assigned : Assignment} {config : Config} {before after : State}

theorem freshParams_lookup {params : List String} {result : List (String × Ty)}
    (run : freshParams params config before = (.ok result, after)) (name : String) :
    (name ∈ params → ∃ v, result.lookup name = some (.var v)) ∧
      (name ∉ params → result.lookup name = none) := by
  induction params generalizing result before after with
  | nil => cases run; simp
  | cons param rest ih =>
    obtain ⟨var, _, _, run⟩ := bind_ok run
    obtain ⟨others, _, again, run⟩ := bind_ok run
    obtain ⟨present, absent⟩ := ih again
    cases run
    split
    next repeated =>
      obtain ⟨other, member, same⟩ := List.any_eq_true.mp repeated
      have again : name = param → name ∈ rest := by
        intro here
        refine Decidable.byContradiction fun outside => ?_
        have apart := List.lookup_eq_none_iff.mp (absent outside) other member
        simp_all
      simp only [List.mem_cons, not_or]
      exact ⟨fun inside => present (inside.elim again id), fun outside => absent outside.2⟩
    next =>
      rw [lookup_cons_ite, List.mem_cons]
      split
      next here => exact ⟨fun _ => ⟨var, rfl⟩, fun outside => absurd (.inl here) outside⟩
      next apart =>
        refine ⟨fun inside => present (inside.resolve_left apart), fun outside => absent fun inside => ?_⟩
        exact outside (.inr inside)

private theorem instanceWith_closed {params : List (String × Ty)} {follow : Ty → Session Ty} {type : Ty}
    {names : List String} {replace : String → Ty} (closed : type.vars = [])
    (agree : ∀ name, (params.lookup name).getD (.atom (.named name)) =
      if name ∈ names then replace name else .atom (.named name)) :
    instanceWith params follow type config before = (.ok (type.specialize names replace), before) := by
  induction type with
  | arrow domain codomain left right =>
    obtain ⟨first, second⟩ := List.append_eq_nil_iff.mp closed
    unfold instanceWith
    rw [bind_run (left first), bind_run (right second)]
    rfl
  | atom a =>
    cases a with
    | named name => simp only [instanceWith, agree, Ty.specialize]; rfl
    | bottom | bool | regex | range | string | error => rfl
  | missing => rfl
  | var v => cases closed

/-- The type of a reference is an instance of its template, as long as a template with parameters has
no variables. -/
theorem instantiate_instance {name : String} {template : Template} {type : Ty}
    (trees : ∀ id, (assigned id).Ground) (closed : template.params ≠ [] → template.type.vars = [])
    (run : instantiate name template config before = (.ok type, after)) :
    Template.Instance ⟨template.params, template.type.image assigned⟩ (type.image assigned) := by
  unfold instantiate at run
  split at run
  next none =>
    cases run
    refine ⟨fun _ => .atom .error, fun _ => by simp [Ty.Ground], ?_⟩
    rw [List.isEmpty_iff.mp none, Ty.specialize_nil]
  next some =>
    have closed := closed fun none => some (by simp [none])
    obtain ⟨params, _, fresh, run⟩ := bind_ok run
    obtain ⟨type', middle, copied, run⟩ := bind_ok run
    obtain ⟨_, _, _, run⟩ := bind_ok run
    cases run
    have paired := freshParams_lookup fresh
    let replace (name : String) : Ty := (params.lookup name).getD (.atom .error)
    have agree (name : String) : (params.lookup name).getD (.atom (.named name)) =
        if name ∈ template.params then replace name else .atom (.named name) := by
      split
      next inside =>
        obtain ⟨v, found⟩ := (paired name).1 inside
        simp [replace, found]
      next outside => simp [(paired name).2 outside]
    have same := (instanceWith_closed closed agree).symm.trans copied
    cases same
    refine ⟨fun name => (replace name).image assigned, fun name => ?_, ?_⟩
    · by_cases inside : name ∈ template.params
      · obtain ⟨v, found⟩ := (paired name).1 inside
        simpa [replace, found] using trees v.id
      · simp [replace, (paired name).2 inside, Ty.Ground]
    · rw [Ty.image_specialize assigned closed, Ty.image_closed assigned closed]

/-- An environment gives the names in scope the trees that their types stand for. A template with
parameters has no variables. -/
structure Describes (assigned : Assignment) (scope : NameMap Template) (env : Env) : Prop where
  same : ∀ key, env key =
    (scope.find? key).map fun template => ⟨template.params, template.type.image assigned⟩
  closed : ∀ key template, scope.find? key = some template → template.params ≠ [] → template.type.vars = []

private theorem Describes.insert {scope : NameMap Template} {env : Env} (describes : Describes assigned scope env)
    (name : String) (type : Ty) :
    Describes assigned (scope.insert name ⟨[], type⟩)
      fun key => if key = name then some ⟨[], type.image assigned⟩ else env key where
  same key := by
    rw [NameMap.find?_insert]
    split
    next => rfl
    next => exact describes.same key
  closed key template found := by
    rw [NameMap.find?_insert] at found
    split at found
    next =>
      cases found
      exact fun some => absurd rfl some
    next => exact describes.closed key template found

private theorem bindPat_describes {pat pat' : Pat} {type : Ty} {env : Env}
    (describes : Describes assigned before.scope env)
    (run : bindPat pat type config before = (.ok pat', after)) :
    Describes assigned after.scope (env.extend config.normalize pat' (type.image assigned)) := by
  cases pat with
  | bind label =>
    obtain ⟨name, _, first, run⟩ := bind_ok run
    cases first
    obtain ⟨_, declared, second, run⟩ := bind_ok run
    cases second
    obtain ⟨_, traced, third, run⟩ := bind_ok run
    cases run
    rw [((Quiet.trace _).result third).1.scope]
    exact describes.insert (config.normalize (config.normalize label)) type
  | lit value =>
    obtain ⟨_, middle, judged, run⟩ := bind_ok run
    cases run
    rw [((conform_uses (.refl _) value type).leaves judged).scope (by decide)]
    exact describes
  | wildcard => cases run; exact describes
  | constructor | apply | missing | foreign => cases run

private theorem reference_derives (trees : ∀ id, (assigned id).Ground) (label : String) :
    Establishes assigned (reference label) config before fun typed =>
      ∀ env, Describes assigned before.scope env → Derives config env (typed.map (·.image assigned)) := by
  refine .bind (normalize_quiet label).establishes fun name middle first => ?_
  refine .bind (lookup_quiet name).establishes fun template _ second => ?_
  have declared : before.scope.find? (config.normalize name) = template := by
    rw [← ((normalize_quiet label).result first).1.scope]
    exact ((lookup_quiet name).result second).2.symm
  cases template with
  | some template =>
    refine .bind (.kept (instantiate_uses (.refl _) _ template) (by decide)) fun type _ third => ?_
    refine .pure fun _ _ _ env describes => ?_
    have found := describes.same (config.normalize name)
    rw [declared, Option.map_some] at found
    exact .name found (instantiate_instance trees (describes.closed _ _ declared) third)
  | none =>
    refine .bind (.kept (by simp [Request.use?] : Session.Uses [.warn] _) (by decide)) fun _ _ _ => ?_
    refine .bind .trace fun _ _ _ => .pure fun _ _ _ _ env describes => .unknown ?_
    rw [describes.same, declared, Option.map_none]

private theorem function_consistent {domain codomain type : Ty} {limit : Nat}
    (admits : (Ty.arrow (domain.image assigned) (codomain.image assigned)).Admits (type.image assigned))
    (trees : ∀ id, (assigned id).Over Ty.Proper 0)
    (fits : domain.Over Ty.Proper limit ∧ codomain.Over Ty.Proper limit) (valid : type.Over Ty.Proper limit) :
    (type.image assigned).Consistent (.arrow (domain.image assigned) (codomain.image assigned)) := by
  change ((Ty.arrow domain codomain).image assigned).Admits _ at admits
  exact (admits.consistent_image trees fits valid).symm

private theorem elaborate_result {expr located : Expr} {expected : Option Ty} {typed : Typed Ty}
    (run : locatedAt located (elaborate expr expected) config before = (.ok typed, after))
    (allowed : before.Over Ty.Proper) (possible : expr.ImpossibleFree)
    (valid : ∀ type ∈ expected, type.Over Ty.Proper before.nextVar) :
    before.nextVar ≤ after.nextVar ∧ after.Over Ty.Proper ∧ typed.All (·.Over Ty.Proper after.nextVar) ∧
      after.scope = before.scope := by
  have reported : Ty.Proper (.atom .error) := .atom (by simp)
  obtain ⟨issued, allowed', all⟩ := allowed.elaborate (.of_error reported expr (.inr possible))
    (fun _ _ => .inl reported) valid (locatedAt_ok run)
  exact ⟨issued, allowed', all, ((elaborate_uses (.refl _) expr expected).leaves (locatedAt_ok run)).scope (by decide)⟩

/-- A checked expression is derivable in every environment that describes the scope, and its type can be
used where another is expected of it. -/
theorem elaborate_derives (trees : ∀ id, (assigned id).Over Ty.Proper 0) (allowed : before.Over Ty.Proper)
    (expr : Expr) (expected : Option Ty) (possible : expr.ImpossibleFree)
    (valid : ∀ type ∈ expected, type.Over Ty.Proper before.nextVar) :
    Establishes assigned (elaborate expr expected) config before fun typed =>
      (∀ env, Describes assigned before.scope env → Derives config env (typed.map (·.image assigned))) ∧
        ∀ type ∈ expected, (type.image assigned).Admits (typed.type.image assigned) := by
  -- What is claimed of a part is known only once the whole has succeeded, so each case ends by putting
  -- the derivation together; until then only scopes and the variables issued are followed.
  induction expr, expected using elaborate_induction generalizing before with
  | anno expr type expected ih =>
    rw [elaborate]
    refine settle_establishes _ _ (.bind (.kept (lower_uses (.refl _) _ _) (by decide)) fun lowered middle run => ?_)
    obtain ⟨_, allowed', fits⟩ := allowed.keeps (lower_follows (fun _ _ _ _ => trivial) _
      (.of_error (Ty.Proper.atom (by simp)) _) (.inl trivial)) run
    refine (ih lowered allowed' possible (by rintro _ ⟨⟩; exact fits)).imp fun typed derived _ => ?_
    rw [← ((lower_uses (.refl _) _ _).leaves run).scope (by decide)]
    exact derived.1
  | lam pat body type ih =>
    rw [elaborate]
    refine .bind (.locatedAt (splitFunction_establishes type)) ?_
    rintro ⟨domain, codomain⟩ middle split
    replace split := locatedAt_ok split
    obtain ⟨issued, allowed', fits⟩ := allowed.keeps (splitFunction_follows (valid type rfl)) split
    refine .keepingScope (.bind (.locatedAt (bindPat_establishes pat domain)) fun pat' inside bound => ?_)
    replace bound := locatedAt_ok bound
    obtain ⟨issued', allowed'', _⟩ :=
      allowed'.keeps (bindPat_follows (fun _ _ _ _ => trivial) (.inl trivial) fits.1) bound
    have valid' : ∀ type ∈ some codomain, type.Over Ty.Proper inside.nextVar := by
      rintro _ ⟨⟩
      exact fits.2.mono issued'
    refine .bind (.locatedAt (ih codomain allowed'' possible valid')) fun body' final checked => ?_
    obtain ⟨later, _, all, _⟩ := elaborate_result checked allowed'' possible valid'
    refine .pure fun derived fitting admits => ⟨fun env describes => ?_, by rintro _ ⟨⟩; exact .refl _⟩
    rw [← ((splitFunction_uses (.refl _) type).leaves split).scope (by decide)] at describes
    have function := function_consistent admits trees fits ((valid type rfl).mono issued)
    have result := (derived.2 codomain rfl).consistent_image trees ((valid' codomain rfl).mono later) all.type
    refine .lam (domain.image assigned) (codomain.image assigned)
      ⟨(fits.1.image trees).ground, (fits.2.image trees).ground⟩ function fitting
      (derived.1 _ (bindPat_describes describes bound)) ?_
    rw [Typed.type_map]
    exact result
  | letElse pat bound thenBranch elseBranch expected first second third =>
    rw [elaborate]
    have bare : ∀ type ∈ (none : Option Ty), type.Over Ty.Proper before.nextVar := by rintro _ ⟨⟩
    refine .bind (.locatedAt (first allowed possible.1 bare)) fun bound' middle found => ?_
    obtain ⟨issued, allowed', all, same⟩ := elaborate_result found allowed possible.1 bare
    refine .keepingScope (.bind (.locatedAt (bindPat_establishes pat bound'.type)) fun pat' inside compared => ?_)
    replace compared := locatedAt_ok compared
    obtain ⟨issued', allowed'', _⟩ :=
      allowed'.keeps (bindPat_follows (fun _ _ _ _ => trivial) (.inl trivial) all.type) compared
    have valid' := fun type member => ((valid type member).mono issued).mono issued'
    refine .bind (.locatedAt (second allowed'' possible.2.1 valid')) fun then' between left => ?_
    obtain ⟨later, inner, all', same'⟩ := elaborate_result left allowed'' possible.2.1 valid'
    have type : (expected.getD then'.type).Over Ty.Proper between.nextVar :=
      getD_holds (fun type member => (valid' type member).mono later) all'.type
    have valid'' : ∀ type ∈ some (expected.getD then'.type), type.Over Ty.Proper between.nextVar := by
      rintro _ ⟨⟩
      exact type
    refine .bind (.locatedAt (third then' inner possible.2.2 valid'')) fun else' final right => ?_
    obtain ⟨last, _, all'', _⟩ := elaborate_result right inner possible.2.2 valid''
    refine .pure fun second' first' fitting head => ⟨fun env describes => ?_, by rintro _ ⟨⟩; exact .refl _⟩
    have extended := bindPat_describes (same ▸ describes) compared
    have result : Ty.Consistent ((expected.getD then'.type).image assigned) (then'.type.image assigned) := by
      cases expected with
      | none => exact .refl _
      | some expected => exact (first'.2 expected rfl).consistent_image trees type all'.type
    have result' := (second'.2 _ rfl).consistent_image trees (type.mono last) all''.type
    refine .letElse (head.1 env describes) ?_ ?_ ?_ ?_ ?_ <;> rw [Typed.type_map]
    · exact fitting
    · exact first'.1 _ extended
    · exact second'.1 _ (same' ▸ extended)
    · exact result
    · exact result'
  | call func arg expected first second =>
    rw [elaborate]
    apply settle_establishes
    have bare : ∀ type ∈ (none : Option Ty), type.Over Ty.Proper before.nextVar := by rintro _ ⟨⟩
    refine .bind (.locatedAt (first allowed possible.1 bare)) fun func' middle found => ?_
    obtain ⟨issued, allowed', all, same⟩ := elaborate_result found allowed possible.1 bare
    refine .bind (.locatedAt (splitFunction_establishes func'.type)) ?_
    rintro ⟨domain, codomain⟩ parts split
    replace split := locatedAt_ok split
    obtain ⟨later, allowed'', fits⟩ := allowed'.keeps (splitFunction_follows all.type) split
    have valid' : ∀ type ∈ some domain, type.Over Ty.Proper parts.nextVar := by
      rintro _ ⟨⟩
      exact fits.1
    refine .bind (.locatedAt (second domain allowed'' possible.2 valid')) fun arg' final checked => ?_
    obtain ⟨last, _, all', _⟩ := elaborate_result checked allowed'' possible.2 valid'
    refine .pure fun derived admits head env describes => ?_
    have same' := ((splitFunction_uses (.refl _) func'.type).leaves split).scope (by decide)
    have function := function_consistent admits trees fits (all.type.mono later)
    have argument := (derived.2 domain rfl).consistent_image trees (fits.1.mono last) all'.type
    refine .call (domain.image assigned) (fits.1.image trees).ground (head.1 env describes) ?_
      (derived.1 env (by rw [same', same]; exact describes)) ?_
    · rw [Typed.type_map]
      exact function
    · rw [Typed.type_map]
      exact argument
  | literal value type notBool notRegex =>
    rw [elaborate_literal type notBool notRegex]
    refine .bind (.locatedAt (conform_establishes _ _)) fun _ _ _ => .pure fun conforms => ?_
    exact ⟨fun env _ => .lit conforms, by rintro _ ⟨⟩; exact .refl _⟩
  | literalFound value notBool notRegex =>
    rw [elaborate_literalFound notBool notRegex]
    exact .locatedAt .refuse
  | bool value expected => rw [elaborate]; exact settle_establishes _ _ (.pure fun env _ => .lit (.bool value))
  | regex source expected =>
    rw [elaborate]
    exact settle_establishes _ _ (.pure fun env _ => .lit (.regex source))
  | name label expected =>
    rw [elaborate]
    exact settle_establishes _ _ (reference_derives (fun id => (trees id).ground) label)
  | impossible => exact possible.elim
  | invalid => rw [elaborate]; exact settle_establishes _ _ (.pure fun env _ => .invalid env)
  | lamFound | op => rw [elaborate]; exact .locatedAt .refuse
  | absent | foreign => rw [elaborate]; exact .fault
  | missing => rw [elaborate]; exact .refuse

end Checking.Session

end RefinementTypes
