import RefinementTypes.Proofs.Validity

/-! The variables of annotations. A body has mutable references to the variables of its own annotation,
and everyone who refers to the declared name has immutable ones. So another body binds such a variable
only after its own body has been checked, and only through a mutable reference that was left in a
binding or an obligation then. -/

namespace RefinementTypes

namespace Ty

/-- No reference to a variable is mutable. -/
def Spares (v : Nat) : Ty → Prop
  | arrow domain codomain => domain.Spares v ∧ codomain.Spares v
  | var w => w.id = v → w.isMutable = false
  | atom _ | missing => True

variable {v : Nat} {type : Ty}

private theorem spares_of_absent (absent : v ∉ type.vars) : type.Spares v := by
  induction type with
  | arrow domain codomain left right =>
    simp only [vars, List.mem_append, not_or] at absent
    exact ⟨left absent.1, right absent.2⟩
  | var w =>
    intro same
    simp [vars, same] at absent
  | atom | missing => trivial

private theorem spares_immutable : (type.setMutability .immutable).Spares v := by
  induction type with
  | arrow domain codomain left right => exact ⟨left, right⟩
  | var w => exact fun _ => rfl
  | atom | missing => trivial

end Ty

namespace Checking

def Obligation.Spares (v : Nat) : Obligation → Prop
  | conforms _ type => type.Spares v
  | assignable expected found => expected.Spares v ∧ found.Spares v
  | instantiated params fresh _ => (∀ param ∈ params, param.2.Spares v) ∧ (Ty.var fresh).Spares v

structure State.Spares (v : Nat) (state : State) : Prop where
  bindings : ∀ id type, state.subst.lookup id = some type → type.Spares v
  worklist : ∀ obligation ∈ state.worklist, obligation.Spares v

/-- No mutable reference to a variable is held, so that it stays unbound. -/
def Policy.sparing (v : Nat) : Policy where
  leaf _ := True
  admits _ type := type.Spares v
  ties := True
  width := 0
  foreign := True
  knows limit s := v < limit ∧ s.lookup v = none
  mono _ spares := spares
  proper _ _ := trivial
  atom _ _ _ := trivial
  arrow := Iff.rfl
  lend _ _ := rfl
  issue known := by
    obtain ⟨issued, unbound⟩ := known
    refine ⟨⟨Nat.lt_succ_of_lt issued, unbound⟩, fun _ same => ?_⟩
    exact absurd same.symm (Nat.ne_of_lt issued)
  bind known spares owned _ := by
    obtain ⟨issued, unbound⟩ := known
    refine ⟨issued, ?_⟩
    rw [Subst.lookup_insert, if_neg]
    · exact unbound
    · intro same
      simp [spares same.symm] at owned

private theorem Policy.permits_sparing {v limit : Nat} {obligation : Obligation} (spares : obligation.Spares v) :
    (Policy.sparing v).Permits limit obligation := by
  cases obligation with
  | conforms => exact ⟨spares, fun _ => trivial⟩
  | assignable => exact spares
  | instantiated => exact ⟨trivial, spares.1, spares.2, .immutable, fun _ => rfl⟩

namespace Session

variable {config : Config} {before after : State}

private theorem lower_issues {mutability : Mutability} {type : TypeExpr} {result : Ty}
    (run : lower mutability type config before = (.ok result, after)) :
    ∀ v ∈ result.vars, before.nextVar ≤ v ∧ v < after.nextVar := by
  induction type generalizing result before after with
  | arrow domain codomain left right =>
    obtain ⟨first, middle, early, run⟩ := bind_ok run
    obtain ⟨second, _, late, run⟩ := bind_ok run
    cases run
    have issued := (grows_of_run early).issued
    have issued' := (grows_of_run late).issued
    intro v member
    rcases List.mem_append.mp member with member | member
    · have := left early v member
      omega
    · have := right late v member
      omega
  | wildcard | missing =>
    cases run
    intro v member
    cases List.mem_singleton.mp member
    exact ⟨Nat.le_refl _, Nat.lt_succ_self _⟩
  | bool | regex | range | string | invalid | named =>
    cases run
    exact fun _ member => by cases member
  | foreign => cases run

/-- Each declaration has variables of its own, and the names stand for the declarations. -/
theorem declareAll_issues {named : List NamedDecl} {declared : List DeclaredDecl}
    (run : declareAll named config before = (.ok declared, after)) :
    (∀ entry ∈ after.scope.entries, entry ∈ before.scope.entries ∨
      ∃ decl ∈ declared, entry = signature config decl) ∧
      (∀ decl ∈ declared, ∀ v ∈ decl.type.vars, before.nextVar ≤ v ∧ v < after.nextVar) ∧
      declared.Pairwise fun first second => ∀ v ∈ first.type.vars, v ∉ second.type.vars := by
  induction named generalizing declared before after with
  | nil =>
    cases run
    exact ⟨fun _ => .inl, fun _ member => (by cases member), .nil⟩
  | cons decl rest ih =>
    obtain ⟨_, _, first, run⟩ := bind_ok run
    cases first
    obtain ⟨type, middle, lowered, run⟩ := bind_ok run
    obtain ⟨_, _, generic, run⟩ := bind_ok run
    cases generic
    obtain ⟨_, inserted, second, run⟩ := bind_ok run
    cases second
    obtain ⟨_, _, third, run⟩ := bind_ok run
    obtain ⟨others, _, again, run⟩ := bind_ok run
    cases run
    have own := lower_issues lowered
    obtain ⟨named, inside, apart⟩ := ih again
    have alike := ((Quiet.trace _).result third).1
    have early : before.nextVar ≤ middle.nextVar := (grows_of_run lowered).issued
    have issued : middle.nextVar ≤ after.nextVar :=
      Nat.le_trans (Nat.le_of_eq alike.nextVar.symm) (grows_of_run again).issued
    -- The variables of the others are issued after those of this one.
    have later : ∀ decl ∈ others, ∀ v ∈ decl.type.vars, middle.nextVar ≤ v ∧ v < after.nextVar := by
      intro decl member v used
      have := inside decl member v used
      rw [alike.nextVar] at this
      exact this
    refine ⟨fun entry member => ?_, List.forall_mem_cons.mpr ⟨?_, ?_⟩, .cons ?_ apart⟩
    · rcases named entry member with known | ⟨decl, listed, same⟩
      · rw [alike.scope] at known
        rcases NameMap.mem_insert known with rfl | known
        · exact .inr ⟨_, List.mem_cons_self, rfl⟩
        · refine .inl ?_
          rw [((lower_uses (.refl _) _ _).leaves lowered).scope (by decide)] at known
          exact known
      · exact .inr ⟨decl, List.mem_cons_of_mem _ listed, same⟩
    · exact fun v member => ⟨(own v member).1, Nat.lt_of_lt_of_le (own v member).2 issued⟩
    · exact fun decl member v used =>
        ⟨Nat.le_trans early (later decl member v used).1, (later decl member v used).2⟩
    · exact fun decl member v mine other => Nat.not_le_of_lt (own v mine).2 (later decl member v other).1

structure Prepared (config : Config) (declared : List DeclaredDecl) (ready : State) : Prop where
  subst : ready.subst = .empty
  worklist : ready.worklist = []
  scope : ∀ entry ∈ ready.scope.entries, ∃ decl ∈ declared, entry = signature config decl
  issued : ∀ decl ∈ declared, ∀ v ∈ decl.type.vars, v < ready.nextVar
  apart : ∀ (i j : Nat) (first second : DeclaredDecl), i ≠ j → declared[i]? = some first → declared[j]? = some second →
    ∀ v ∈ first.type.vars, v ∉ second.type.vars

private theorem prepare_prepared {cache : Regex.Cache} {decls : List (Option Decl)} {declared : List DeclaredDecl}
    {order : List Nat} {ready : State} (run : prepare decls config (.fresh cache) = (.ok (declared, order), ready)) :
    Prepared config declared ready := by
  have untouched := (prepare_uses (.refl _) decls).leaves run
  obtain ⟨named, validated, known, first, second, alike, _⟩ := prepare_ok run
  obtain ⟨scope, valid, apart⟩ := declareAll_issues second
  refine ⟨untouched.subst (by decide), untouched.worklist (by decide) (by decide), ?_, ?_, ?_⟩
  · intro entry member
    rw [alike.scope] at member
    refine (scope entry member).resolve_left fun early => ?_
    rw [((validate_quiet _ _).result first).1.scope] at early
    cases early
  · intro decl member v inside
    rw [alike.nextVar]
    exact (valid decl member v inside).2
  · intro i j first second different found found' v mine other
    obtain ⟨less, rfl⟩ := List.getElem?_eq_some_iff.mp found
    obtain ⟨less', rfl⟩ := List.getElem?_eq_some_iff.mp found'
    have disjoint := List.pairwise_iff_getElem.mp apart
    rcases Nat.lt_or_gt_of_ne different with lt | gt
    · exact disjoint i j less less' lt v mine other
    · exact disjoint j i less' less gt v other mine

private theorem Prepared.under {declared : List DeclaredDecl} {ready state : State}
    (prepared : Prepared config declared ready)
    {v : Nat} (scope : state.scope = ready.scope) (distinct : state.subst.Distinct) (issued : v < state.nextVar)
    (unbound : state.subst.lookup v = none) (spares : state.Spares v) : state.Under (.sparing v) where
  knows := ⟨issued, unbound⟩
  bindings binding member :=
    ⟨⟨.immutable, fun _ => rfl⟩, spares.bindings _ _ ((Subst.lookup_iff_mem distinct).mpr member)⟩
  worklist obligation member := Policy.permits_sparing (spares.worklist obligation member)
  scope entry member := by
    rw [scope] at member
    obtain ⟨decl, _, rfl⟩ := prepared.scope entry member
    exact ⟨Ty.spares_immutable, fun _ => .inl trivial⟩

private theorem Prepared.distinct {declared : List DeclaredDecl} {ready : State}
    (prepared : Prepared config declared ready) : ready.subst.Distinct := by
  rw [prepared.subst]
  exact List.nodup_nil

private theorem Prepared.started {declared : List DeclaredDecl} {ready : State}
    (prepared : Prepared config declared ready) {v : Nat} (issued : v < ready.nextVar) : ready.Under (.sparing v) := by
  have unbound : ∀ id, ready.subst.lookup id = none := by simp [prepared.subst, Subst.lookup, Subst.empty]
  refine prepared.under rfl prepared.distinct issued (unbound v) ⟨fun id type found => ?_, fun obligation member => ?_⟩
  · simp [unbound] at found
  · simp [prepared.worklist] at member

/-- Checking bodies leaves a variable of another annotation alone, as long as no mutable reference to it is
held. -/
theorem defineAll_spares {v : Nat} {declared : List DeclaredDecl} {order : List Nat} (under : before.Under (.sparing v))
    (absent : ∀ index ∈ order, ∀ decl, declared[index]? = some decl → v ∉ decl.type.vars) :
    (defineAll declared order config before).2.Under (.sparing v) := by
  have spares :
      ∀ index ∈ order, ∀ decl, declared[index]? = some decl → (decl.type.setMutability .mutable).Spares v := by
    intro index member decl found
    apply Ty.spares_of_absent
    rw [Ty.vars_setMutability]
    exact absent index member decl found
  have follows : Follows (.sparing v) _ (defineAll declared order) config before _ fun _ _ => True :=
    defineAll_follows (fun _ _ _ _ => trivial)
      (fun _ => solve_follows (fun _ _ _ _ => trivial) (fun _ => trivial) false) (.inl trivial)
      (fun _ _ => .of_error trivial _ (.inl trivial)) (fun _ _ _ _ => .inl trivial) (.inl trivial) spares
  exact (follows under).last under

private theorem define_spares {v : Nat} {decl : DeclaredDecl} (under : before.Under (.sparing v))
    (absent : v ∉ decl.type.vars) : (define decl config before).2.Under (.sparing v) := by
  rw [← Ty.vars_setMutability .mutable] at absent
  have follows : Follows (.sparing v) _ (define decl) config before _ fun _ _ => True :=
    define_follows (fun _ _ _ _ => trivial)
      (fun _ => solve_follows (fun _ _ _ _ => trivial) (fun _ => trivial) false)
      (.of_error trivial _ (.inl trivial)) (fun _ _ => .inl trivial) (.inl trivial) (Ty.spares_of_absent absent)
  exact (follows under).last under

def advance (decls : List (Option Decl)) (done : List Nat) : Session (List DeclaredDecl × List Nat) := do
  let (declared, order) ← prepare decls
  let _ ← defineAll declared done
  return (declared, order)

theorem exists_of_passes {α : Type} (result : Except Failure α × State) (test : α → State → Bool)
    (passes : (match result with
      | (.ok value, state) => test value state
      | (.error _, _) => false) = true) :
    ∃ value state, result = (.ok value, state) ∧ test value state = true := by
  split at passes
  next value state => exact ⟨value, state, rfl, passes⟩
  next => cases passes

end Session

open Session

/-- Where checking a body binds a variable of another annotation, the body of that one has been checked
before, and has left a mutable reference to the variable. In particular no variable of an annotation is
bound before its own body is reached. -/
theorem annotation_bound_through_leak (config : Config) (cache : Regex.Cache) (decls : List (Option Decl))
    (declared : List DeclaredDecl) (done rest : List Nat) (index other v : Nat) (before : State)
    (decl owner : DeclaredDecl)
    (run : advance decls done config (.fresh cache) = (.ok (declared, done ++ index :: rest), before))
    (next : declared[index]? = some decl) (owned : declared[other]? = some owner) (different : other ≠ index)
    (used : v ∈ owner.type.vars) (unbound : before.subst.lookup v = none)
    (bound : (define decl config before).2.subst.lookup v ≠ none) :
    other ∈ done ∧ ¬ before.Spares v := by
  obtain ⟨⟨declared', order⟩, ready, first, run⟩ := bind_ok run
  obtain ⟨bodies, _, second, run⟩ := bind_ok run
  cases run
  have prepared := prepare_prepared first
  have issued := prepared.issued owner (List.mem_of_getElem? owned) v used
  have started := prepared.started issued
  -- As long as no mutable reference to the variable is held, this body leaves it unbound.
  have held : ¬ before.Under (.sparing v) := fun under =>
    bound (define_spares under (prepared.apart other index owner decl different owned next v used)).knows.2
  refine ⟨Classical.byContradiction fun later => held ?_, fun spares => held ?_⟩
  · have under : (defineAll declared done config ready).2.Under (.sparing v) := by
      refine defineAll_spares started fun place member decl found => ?_
      have different : other ≠ place := fun same => later (same ▸ member)
      exact prepared.apart other place owner decl different owned found v used
    rw [second] at under
    exact under
  · have grows := grows_of_run second
    have scope := ((defineAll_uses (.refl _) declared done).leaves second).scope (by decide)
    exact prepared.under scope (grows.distinct prepared.distinct)
      (Nat.lt_of_lt_of_le issued grows.issued) unbound spares

/-- The first function returns its argument, so that the variable of its result is bound to a mutable
reference to that of its domain. -/
theorem annotation_bound_through_leak_result :
    let config : Config := ⟨id, .regular, false, false, 8⟩
    let truth : Expr := .lit (some (.bool true))
    let decls : List (Option Decl) := [
      some ⟨"use", [], .bool, .call (.call (.name "first") truth) truth⟩,
      some ⟨"first", [], .arrow .wildcard (.arrow .bool .wildcard), .lam (.bind "x") (.lam .wildcard (.name "x"))⟩]
    ∃ declared before decl owner, advance decls [1] config (.fresh .empty) = (.ok (declared, [1, 0]), before) ∧
      declared[0]? = some decl ∧ declared[1]? = some owner ∧ 0 ∈ owner.type.vars ∧ before.subst.lookup 0 = none ∧
      (define decl config before).2.subst.lookup 0 ≠ none ∧ 1 ∈ [1] ∧ ¬ before.Spares 0 := by
  intro config truth decls
  obtain ⟨⟨declared, order⟩, before, run, passed⟩ := exists_of_passes (advance decls [1] config (.fresh .empty))
    (fun (declared, order) before => order = [1, 0] ∧ before.subst.lookup 0 = none ∧
      declared[1]?.any (fun owner => 0 ∈ owner.type.vars) ∧
      declared[0]?.any fun decl => (define decl config before).2.subst.lookup 0 ≠ none) (by decide +kernel)
  simp only [decide_eq_true_eq, Option.any_eq_true] at passed
  obtain ⟨rfl, unbound, ⟨owner, owned, used⟩, decl, next, bound⟩ := passed
  refine ⟨declared, before, decl, owner, run, next, owned, used, unbound, bound, ?_⟩
  exact annotation_bound_through_leak config .empty decls declared [1] [] 0 1 0 before decl owner run next owned
    (by decide) used unbound bound

/-- In either order, a call binds the variable of the domain of the function that it calls, whose body
has been checked before and whose annotation has left the domain open. -/
theorem annotation_bound_elsewhere :
    let decls : List (Option Decl) := [
      some ⟨"f", [], .arrow .wildcard .wildcard, .lam (.bind "x") (.name "x")⟩,
      some ⟨"g", [], .bool, .call (.name "f") (.lit (some (.bool true)))⟩]
    ∀ sourceOrder, ∃ declared before decl owner,
      advance decls [0] ⟨id, .regular, sourceOrder, false, 8⟩ (.fresh .empty) = (.ok (declared, [0, 1]), before) ∧
      declared[1]? = some decl ∧ declared[0]? = some owner ∧ 0 ∈ owner.type.vars ∧ before.subst.lookup 0 = none ∧
      (define decl ⟨id, .regular, sourceOrder, false, 8⟩ before).2.subst.lookup 0 = some (.atom .bool) := by
  intro decls sourceOrder
  obtain ⟨⟨declared, order⟩, before, run, passed⟩ := exists_of_passes
    (advance decls [0] ⟨id, .regular, sourceOrder, false, 8⟩ (.fresh .empty))
    (fun (declared, order) before => order = [0, 1] ∧ before.subst.lookup 0 = none ∧
      declared[0]?.any (fun owner => 0 ∈ owner.type.vars) ∧
      declared[1]?.any fun decl =>
        (define decl ⟨id, .regular, sourceOrder, false, 8⟩ before).2.subst.lookup 0 = some (.atom .bool))
    (by revert sourceOrder; decide +kernel)
  simp only [decide_eq_true_eq, Option.any_eq_true] at passed
  obtain ⟨rfl, unbound, ⟨owner, owned, used⟩, decl, next, bound⟩ := passed
  exact ⟨declared, before, decl, owner, run, next, owned, used, unbound, bound⟩

end Checking

end RefinementTypes
