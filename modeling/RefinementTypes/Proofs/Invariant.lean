import RefinementTypes.Proofs.Footprints

/-! The types that a session holds. Every variable in its bindings, its obligations and its scope has
been issued, and leaves of types that are not there at first, such as that of what never yields a
value, come in only where an expression brings them. -/

namespace RefinementTypes

namespace NameMap

variable {α : Type}

theorem mem_insert {map : NameMap α} {name : String} {value : α} {entry : String × α}
    (member : entry ∈ (map.insert name value).entries) : entry = (name, value) ∨ entry ∈ map.entries := by
  unfold insert at member
  generalize map.entries = entries at member ⊢
  induction entries with
  | nil => simpa [insertEntry] using member
  | cons head tail ih =>
    simp only [insertEntry] at member
    split at member
    · exact List.mem_cons.mp member
    · split at member
      · rcases List.mem_cons.mp member with same | old
        · exact .inl same
        · exact .inr (List.mem_cons_of_mem _ old)
      · rcases List.mem_cons.mp member with same | rest
        · exact .inr (List.mem_cons.mpr (.inl same))
        · exact (ih rest).imp_right (List.mem_cons_of_mem _)

theorem mem_of_find? {map : NameMap α} {name : String} {value : α} (found : map.find? name = some value) :
    (name, value) ∈ map.entries :=
  mem_of_lookup_eq found

theorem find?_insert (map : NameMap α) (name : String) (value : α) (key : String) :
    (map.insert name value).find? key = if key = name then some value else map.find? key := by
  unfold insert find?
  generalize map.entries = entries
  induction entries with
  | nil => exact lookup_cons_ite key name value []
  | cons entry rest ih =>
    obtain ⟨first, old⟩ := entry
    unfold insertEntry
    split
    next => exact lookup_cons_ite key name value _
    next =>
      split
      next same =>
        cases same
        rw [lookup_cons_ite, lookup_cons_ite]
        split <;> rfl
      next other =>
        rw [lookup_cons_ite, lookup_cons_ite, ih]
        by_cases same : key = first
        · have apart : key ≠ name := fun equal => other (equal ▸ same)
          rw [if_pos same, if_pos same, if_neg apart]
        · rw [if_neg same, if_neg same]

end NameMap

mutual
/-- No part of an expression is one that never yields a value. -/
def Expr.ImpossibleFree : Expr → Prop
  | .anno expr _ => expr.ImpossibleFree
  | .lam _ body => body.ImpossibleFree
  | .letElse _ bound thenBranch elseBranch =>
    bound.ImpossibleFree ∧ thenBranch.ImpossibleFree ∧ elseBranch.ImpossibleFree
  | .call func arg => func.ImpossibleFree ∧ arg.ImpossibleFree
  | .op _ args => Expr.AllImpossibleFree args
  | .impossible => False
  | .lit _ | .name _ | .invalid | .foreign _ | .missing => True

def Expr.AllImpossibleFree : List Expr → Prop
  | [] => True
  | expr :: rest => expr.ImpossibleFree ∧ Expr.AllImpossibleFree rest
end

/-- A written type brings in no leaf that is not allowed. -/
def TypeExpr.Within (leaf : Ty → Prop) : TypeExpr → Prop
  | arrow domain codomain => domain.Within leaf ∧ codomain.Within leaf
  | invalid => leaf (.atom .error)
  | bool | regex | range _ _ | string _ | named _ | wildcard | foreign _ | missing => True

/-- An expression brings in no leaf that is not allowed, names apart. Operators are refused before their
arguments are looked at. -/
def Expr.Within (leaf : Ty → Prop) : Expr → Prop
  | anno expr type => expr.Within leaf ∧ type.Within leaf
  | lam _ body => body.Within leaf
  | letElse _ bound thenBranch elseBranch =>
    bound.Within leaf ∧ thenBranch.Within leaf ∧ elseBranch.Within leaf
  | call func arg => func.Within leaf ∧ arg.Within leaf
  | impossible => leaf (.atom .bottom)
  | invalid => leaf (.atom .error)
  | lit _ | name _ | op _ _ | foreign _ | missing => True

/-- Every part of a pattern is of a known form. The pattern itself may be missing. -/
def Pat.Native : Pat → Prop
  | apply func arg => func.Native ∧ arg.Native
  | lit none | foreign _ => False
  | wildcard | bind _ | constructor _ | lit (some _) | missing => True

/-- Every part of a written type is of a known form or missing. -/
def TypeExpr.Native : TypeExpr → Prop
  | arrow domain codomain => domain.Native ∧ codomain.Native
  | foreign _ => False
  | bool | regex | range _ _ | string _ | named _ | wildcard | invalid | missing => True

namespace Expr

mutual
/-- Every part of an expression is of a known form or missing; literals are there. -/
def Native : Expr → Prop
  | anno expr type => expr.Native ∧ type.Native
  | lam pat body => pat.Native ∧ body.Native
  | letElse pat bound thenBranch elseBranch =>
    pat.Native ∧ bound.Native ∧ thenBranch.Native ∧ elseBranch.Native
  | call func arg => func.Native ∧ arg.Native
  | op _ args => AllNative args
  | lit none | foreign _ => False
  | lit (some _) | name _ | impossible | invalid | missing => True

def AllNative : List Expr → Prop
  | [] => True
  | expr :: rest => expr.Native ∧ AllNative rest
end

end Expr

/-- A pattern binds a name, so that it stands for nothing else in the scope of the pattern. -/
def Pat.hides (key : String → String) (pat : Pat) (name : String) : Bool :=
  match pat with
  | .bind label => key label = name
  | .wildcard | .lit _ | .constructor _ | .apply _ _ | .missing | .foreign _ => false

/-- The names that an expression refers to and does not bind. -/
def Expr.freeNames (key : String → String) : Expr → List String
  | name label => [key label]
  | anno expr _ => expr.freeNames key
  | lam pat body => (body.freeNames key).filter fun name => !pat.hides key name
  | letElse pat bound thenBranch elseBranch =>
    bound.freeNames key ++
      (thenBranch.freeNames key ++ elseBranch.freeNames key).filter fun name => !pat.hides key name
  | call func arg => func.freeNames key ++ arg.freeNames key
  | lit _ | op _ _ | impossible | invalid | foreign _ | missing => []

theorem TypeExpr.Within.of_error {leaf : Ty → Prop} (reported : leaf (.atom .error)) (type : TypeExpr) :
    type.Within leaf := by
  induction type with
  | arrow domain codomain left right => exact ⟨left, right⟩
  | invalid => exact reported
  | bool | regex | range | string | named | wildcard | foreign | missing => trivial

theorem Expr.Within.of_error {leaf : Ty → Prop} (reported : leaf (.atom .error)) (expr : Expr)
    (possible : leaf (.atom .bottom) ∨ expr.ImpossibleFree) : expr.Within leaf := by
  fun_induction Expr.Within leaf expr with
  | case1 expr type ih => exact ⟨ih possible, .of_error reported type⟩
  | case2 pat body ih => exact ih possible
  | case3 pat bound thenBranch elseBranch first second third =>
    refine ⟨first ?_, second ?_, third ?_⟩
    · exact possible.imp_right fun free => free.1
    · exact possible.imp_right fun free => free.2.1
    · exact possible.imp_right fun free => free.2.2
  | case4 func arg first second =>
    refine ⟨first ?_, second ?_⟩
    · exact possible.imp_right fun free => free.1
    · exact possible.imp_right fun free => free.2
  | case5 => exact possible.resolve_right id
  | case6 => exact reported
  | case7 | case8 | case9 | case10 | case11 => trivial

namespace Checking

/-- The name under which a label is found: it is normalised when it is read and when it is looked up. -/
def Config.key (config : Config) (label : String) : String := config.normalize (config.normalize label)

variable {leaf : Ty → Prop}

/-- The types of an obligation are over the allowed leaves and the variables below a number. -/
def Obligation.Over (leaf : Ty → Prop) (limit : Nat) : Obligation → Prop
  | conforms _ type => type.Over leaf limit
  | assignable expected found => expected.Over leaf limit ∧ found.Over leaf limit
  | instantiated params fresh generic =>
    (∀ param ∈ params, param.2.Over leaf limit) ∧ fresh.id < limit ∧ generic.id < limit

theorem Obligation.Over.mono {obligation : Obligation} {limit more : Nat}
    (allowed : obligation.Over leaf limit) (le : limit ≤ more) : obligation.Over leaf more := by
  cases obligation with
  | conforms literal type => exact Ty.Over.mono allowed le
  | assignable expected found => exact ⟨allowed.1.mono le, allowed.2.mono le⟩
  | instantiated params fresh generic =>
    obtain ⟨replaced, first, second⟩ := allowed
    exact ⟨fun param member => (replaced param member).mono le, Nat.lt_of_lt_of_le first le,
      Nat.lt_of_lt_of_le second le⟩

/-- Every type in a state is over the allowed leaves and the variables that have been issued. -/
structure State.Over (leaf : Ty → Prop) (state : State) : Prop where
  bindings : ∀ binding ∈ state.subst.bindings,
    binding.1 < state.nextVar ∧ binding.2.Over leaf state.nextVar
  worklist : ∀ obligation ∈ state.worklist, obligation.Over leaf state.nextVar
  scope : ∀ entry ∈ state.scope.entries, entry.2.type.Over leaf state.nextVar

namespace State.Over

variable {state : State}

theorem fresh (cache : Regex.Cache) : (State.fresh cache).Over leaf := by
  constructor <;> (intro _ member; cases member)

theorem lookup (allowed : state.Over leaf) {id : Nat} {type : Ty} (found : state.subst.lookup id = some type) :
    type.Over leaf state.nextVar :=
  (allowed.bindings _ (Subst.mem_of_lookup found)).2

theorem shallow (allowed : state.Over leaf) {type : Ty} (valid : type.Over leaf state.nextVar) :
    (state.subst.shallow type).Over leaf state.nextVar :=
  Subst.shallow_preserves (fun _ _ _ found => allowed.lookup found) valid

theorem alike {other : State} (allowed : state.Over leaf) (alike : state.Alike other) : other.Over leaf := by
  constructor
  · rw [alike.subst, alike.nextVar]; exact allowed.bindings
  · rw [alike.worklist, alike.nextVar]; exact allowed.worklist
  · rw [alike.scope, alike.nextVar]; exact allowed.scope

end State.Over

/-- Every type that an expression carries has a property. -/
def Typed.All {τ : Type} (property : τ → Prop) : Typed τ → Prop
  | lam type _ body => property type ∧ body.All property
  | letElse type _ bound thenBranch elseBranch =>
    property type ∧ bound.All property ∧ thenBranch.All property ∧ elseBranch.All property
  | call type func arg => property type ∧ func.All property ∧ arg.All property
  | lit type _ | name type _ | impossible type | invalid type => property type

theorem Typed.All.type {τ : Type} {property : τ → Prop} {typed : Typed τ} (all : typed.All property) :
    property typed.type := by
  cases typed with
  | lam | letElse | call => exact all.1
  | lit | name | impossible | invalid => exact all

theorem Typed.All.and {τ : Type} {property other : τ → Prop} {typed : Typed τ} (all : typed.All property)
    (all' : typed.All other) : typed.All fun type => property type ∧ other type := by
  induction typed with
  | lam _ _ _ body => exact ⟨⟨all.1, all'.1⟩, body all.2 all'.2⟩
  | letElse _ _ _ _ _ first second third =>
    exact ⟨⟨all.1, all'.1⟩, first all.2.1 all'.2.1, second all.2.2.1 all'.2.2.1, third all.2.2.2 all'.2.2.2⟩
  | call _ _ _ first second => exact ⟨⟨all.1, all'.1⟩, first all.2.1 all'.2.1, second all.2.2 all'.2.2⟩
  | lit | name | impossible | invalid => exact ⟨all, all'⟩

theorem Typed.All.imp {τ : Type} {property other : τ → Prop} {typed : Typed τ}
    (all : typed.All property) (implies : ∀ type, property type → other type) : typed.All other := by
  induction typed with
  | lam _ _ _ body => exact ⟨implies _ all.1, body all.2⟩
  | letElse _ _ _ _ _ first second third =>
    exact ⟨implies _ all.1, first all.2.1, second all.2.2.1, third all.2.2.2⟩
  | call _ _ _ first second => exact ⟨implies _ all.1, first all.2.1, second all.2.2⟩
  | lit | name | impossible | invalid => exact implies _ all

namespace Session

variable {config : Config} {before : State}

theorem bindPat_scope {pat pat' : Pat} {type : Ty} {after : State}
    (run : bindPat pat type config before = (.ok pat', after)) (name : String) :
    after.scope.find? name =
      if pat.hides config.key name then some ⟨[], type⟩ else before.scope.find? name := by
  cases pat with
  | bind label =>
    obtain ⟨_, _, first, run⟩ := bind_ok run
    cases first
    obtain ⟨_, declared, second, run⟩ := bind_ok run
    cases second
    obtain ⟨_, traced, third, run⟩ := bind_ok run
    cases run
    rw [((Quiet.trace _).result third).1.scope]
    change (NameMap.insert _ _ _).find? name = _
    rw [NameMap.find?_insert]
    change (if name = config.key label then _ else _) = _
    simp only [Pat.hides, decide_eq_true_eq]
    by_cases same : name = config.key label
    · rw [if_pos same, if_pos same.symm]
    · rw [if_neg same, if_neg (Ne.symm same)]
  | lit value =>
    obtain ⟨_, middle, judged, run⟩ := bind_ok run
    cases run
    rw [((conform_uses (.refl _) value type).leaves judged).scope (by decide)]
    rfl
  | wildcard => cases run; rfl
  | constructor | apply | missing | foreign => cases run

/-- What is found in scope for each name is good. -/
def Finds (good : Option Template → Prop) (scope : NameMap Template) (names : List String) : Prop :=
  ∀ name ∈ names, good (scope.find? name)

namespace Finds

variable {good : Option Template → Prop} {scope scope' : NameMap Template} {names more : List String}

theorem left (finds : Finds good scope (names ++ more)) : Finds good scope names :=
  fun name member => finds name (List.mem_append_left _ member)

theorem right (finds : Finds good scope (names ++ more)) : Finds good scope more :=
  fun name member => finds name (List.mem_append_right _ member)

theorem same (finds : Finds good scope names) (same : scope' = scope) : Finds good scope' names := by
  rw [same]
  exact finds

theorem imp {better : Option Template → Prop} (finds : Finds good scope names)
    (implies : ∀ found, good found → better found) : Finds better scope names :=
  fun name member => implies _ (finds name member)

theorem inside {pat pat' : Pat} {type : Ty} {after : State}
    (finds : Finds good before.scope (names.filter fun name => !pat.hides config.key name))
    (run : bindPat pat type config before = (.ok pat', after)) (bound : good (some ⟨[], type⟩)) :
    Finds good after.scope names := by
  intro name member
  rw [bindPat_scope run]
  cases hidden : pat.hides config.key name with
  | true => exact bound
  | false => exact finds name (List.mem_filter.mpr ⟨member, by simp [hidden]⟩)

end Finds

/-- Every name is in scope, unless the type of what has been reported is allowed. -/
abbrev Known (leaf : Ty → Prop) : NameMap Template → List String → Prop :=
  Finds fun found => leaf (.atom .error) ∨ found.isSome = true

end Session

end Checking

end RefinementTypes
