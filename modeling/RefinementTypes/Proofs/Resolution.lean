import RefinementTypes.Proofs.Declarations

/-! Resolving types. A type is resolved to the number of what it comes to under the bindings, and to none if a
variable is left in that or a part is missing; what is remembered on the way changes nothing about it, even
where resolving fails half-way. So declarations are resolved if and only if all their types come to trees. -/

namespace RefinementTypes

namespace Ty

def Whole : Ty → Prop
  | arrow domain codomain => domain.Whole ∧ codomain.Whole
  | atom _ | var _ => True
  | missing => False

theorem Over.whole {leaf : Ty → Prop} {limit : Nat} {type : Ty} (present : ¬ leaf .missing)
    (allowed : type.Over leaf limit) : type.Whole := by
  induction type with
  | arrow domain codomain left right => exact ⟨left allowed.1, right allowed.2⟩
  | atom | var => trivial
  | missing => exact present allowed

theorem ground_iff {type : Ty} : type.Ground ↔ type.Whole ∧ type.vars = [] := by
  unfold Ground
  induction type with
  | arrow domain codomain left right =>
    simp only [Over, left, right, Whole, vars, List.append_eq_nil_iff]
    exact and_and_and_comm
  | atom | var | missing => simp [Over, Whole, vars]

/-- A type that stands for the same tree whatever its variables stand for has none. -/
theorem vars_eq_nil_of_image {type tree other : Ty} (differ : tree ≠ other)
    (same : (type.image fun _ => tree) = type.image fun _ => other) : type.vars = [] := by
  induction type with
  | arrow domain codomain left right =>
    obtain ⟨first, second⟩ := arrow.inj same
    rw [vars, left first, right second, List.append_nil]
  | var => exact absurd same differ
  | atom | missing => rfl

end Ty

namespace Store

variable {store : Store} {id : TypeId} {tree : Ty}

private theorem Denotes.issued (denotes : store.Denotes id tree) : id < store.size := by
  cases denotes with
  | atom issued => exact (List.getElem?_eq_some_iff.mp issued).1
  | arrow issued => exact (List.getElem?_eq_some_iff.mp issued).1

private theorem renderN_eq {leaf : Ty → Prop} {limit : Nat} (present : ¬ leaf .missing) (depth : Nat) (nested : Bool)
    (id : TypeId) (whole : (store.unfoldN depth id).Over leaf limit) :
    store.renderN nested depth id = .ok ((store.unfoldN depth id).renderAt nested) := by
  induction depth generalizing nested id with
  | zero => exact absurd whole present
  | succ depth ih =>
    cases issued : store.entries[id]? with
    | none =>
      rw [unfoldN, issued] at whole
      exact absurd whole present
    | some entry =>
      cases entry with
      | atom a => simp [renderN, unfoldN, resolve, issued, bind, Except.bind, pure, Except.pure, Ty.renderAt]
      | arrow domain codomain =>
        simp only [unfoldN, issued] at whole ⊢
        simp [renderN, resolve, issued, bind, Except.bind, pure, Except.pure, ih true domain whole.1,
          ih false codomain whole.2, Ty.renderAt]

theorem render_eq {leaf : Ty → Prop} {limit : Nat} (present : ¬ leaf .missing) (id : TypeId)
    (whole : (store.unfold id).Over leaf limit) : store.render id = .ok (store.unfold id).render :=
  renderN_eq present (id + 1) false id whole

theorem Denotes.ground (denotes : store.Denotes id tree) : tree.Ground := by
  induction denotes with
  | atom => simp [Ty.Ground]
  | arrow _ _ _ left right => exact ⟨left, right⟩

/-- A number that stands for a tree is written as the tree. -/
theorem Denotes.render (denotes : store.Denotes id tree) (ordered : store.Ordered) :
    store.render id = .ok tree.render := by
  have same := denotes.unfold ordered
  have whole : (store.unfold id).Ground := same ▸ denotes.ground
  rw [render_eq (fun present => present rfl) id whole, same]

private theorem intern_issued {entry : Entry} (issued : ∀ part ∈ parts entry, part < store.size) :
    ∃ id more, store.intern entry = (.ok id, more) := by
  have granted : store.unissuedPart entry = none :=
    List.find?_eq_none.mpr fun part member => by simpa using issued part member
  unfold intern
  cases store.lookup entry with
  | some id => exact ⟨id, store, rfl⟩
  | none =>
    rw [granted]
    exact ⟨_, _, rfl⟩

/-- What a number unfolds to is what it stands for, unless a part was not issued. -/
theorem denotes_unfoldN (depth : Nat) (id : TypeId) (ground : (store.unfoldN depth id).Ground) :
    store.Denotes id (store.unfoldN depth id) := by
  induction depth generalizing id with
  | zero => exact absurd rfl ground
  | succ depth ih =>
    cases issued : store.entries[id]? with
    | none =>
      rw [unfoldN, issued] at ground
      exact absurd rfl ground
    | some entry =>
      cases entry with
      | atom a =>
        rw [unfoldN, issued]
        exact .atom issued
      | arrow domain codomain =>
        simp only [unfoldN, issued] at ground ⊢
        exact .arrow issued (ih domain ground.1) (ih codomain ground.2)

end Store

namespace Checking

namespace State

/-- The store is valid, and a number that is remembered for a type is that of what the type comes to. -/
structure Exact (state : State) : Prop where
  valid : state.store.Valid
  memo : ∀ entry ∈ state.memo, (state.subst.apply entry.1).Ground ∧
    state.store.unfold entry.2 = state.subst.apply entry.1

theorem Exact.denotes {state : State} (exact : state.Exact) {entry : Ty × TypeId} (member : entry ∈ state.memo) :
    state.store.Denotes entry.2 (state.subst.apply entry.1) := by
  obtain ⟨ground, same⟩ := exact.memo entry member
  rw [← same] at ground ⊢
  exact Store.denotes_unfoldN _ _ ground

theorem Exact.of_denotes {state : State} (valid : state.store.Valid)
    (memo : ∀ entry ∈ state.memo, state.store.Denotes entry.2 (state.subst.apply entry.1)) : state.Exact where
  valid := valid
  memo entry member := ⟨(memo entry member).ground, (memo entry member).unfold valid.ordered⟩

private theorem Exact.begun {state : State} (valid : state.store.Valid) (forgotten : state.memo = []) :
    state.Exact := by
  refine ⟨valid, fun entry member => ?_⟩
  rw [forgotten] at member
  cases member

/-- The store has been added to, and all is still exact. -/
structure Adds (first second : State) : Prop where
  grown : first.store.entries <+: second.store.entries
  exact : second.Exact

end State

def DeclaredDecl.All (property : Ty → Prop) (declared : DeclaredDecl) (body : Typed Ty) : Prop :=
  property declared.type ∧ body.All property

/-- The declarations from a place on have bodies, and all their types have a property. -/
def AllFrom (property : Ty → Prop) (bodies : List (Nat × Typed Ty)) (start : Nat) (declared : List DeclaredDecl) :
    Prop :=
  ∀ index decl, declared[index]? = some decl →
    ∃ body, bodies.lookup (start + index) = some body ∧ decl.All property body

section

variable {property other : Ty → Prop} {bodies : List (Nat × Typed Ty)} {start : Nat} {decl : DeclaredDecl}
  {declared rest : List DeclaredDecl}

theorem allFrom_cons : AllFrom property bodies start (decl :: rest) ↔
    (∃ body, bodies.lookup start = some body ∧ decl.All property body) ∧
      AllFrom property bodies (start + 1) rest := by
  constructor
  · intro all
    refine ⟨all 0 decl rfl, fun index other found => ?_⟩
    rw [Nat.add_assoc, Nat.add_comm 1]
    exact all (index + 1) other found
  · rintro ⟨first, others⟩ index other found
    cases index with
    | zero =>
      cases found
      exact first
    | succ index =>
      rw [Nat.add_comm index, ← Nat.add_assoc]
      exact others index other found

theorem AllFrom.imp (all : AllFrom property bodies start declared) (implies : ∀ type, property type → other type) :
    AllFrom other bodies start declared := by
  intro index decl found
  obtain ⟨body, listed, here, inside⟩ := all index decl found
  exact ⟨body, listed, implies _ here, inside.imp implies⟩

end

namespace Session

variable {α β : Type} {trusted : Prop} {assigned : Assignment} {config : Config} {before after : State}

/-- However a step ends, it has changed no binding, and no bound has stopped it. Where the state is `trusted` to
be exact it is so afterwards, and what the step returns, or how it fails, has a property. -/
structure Lowers (trusted : Prop) (step : Session α) (config : Config) (before : State)
    (good : α → Store → Prop) (bad : Failure → Prop) : Prop where
  kept : (step config before).2.subst = before.subst
  proper : ∀ cause, (step config before).1 = .error (.fault cause) → cause.Proper
  exact : trusted → (step config before).2.Exact
  ok : trusted → ∀ value, (step config before).1 = .ok value → good value (step config before).2.store
  failed : trusted → ∀ failure, (step config before).1 = .error failure → bad failure

namespace Lowers

variable {good : α → Store → Prop} {better : β → Store → Prop} {bad : Failure → Prop}

theorem pure {value : α} (exact : trusted → before.Exact) (holds : trusted → good value before.store) :
    Lowers trusted (Pure.pure value : Session α) config before good bad where
  kept := rfl
  proper _ failed := by cases failed
  exact := exact
  ok sure _ same := by
    cases same
    exact holds sure
  failed _ _ same := by cases same

private theorem fail {failure : Failure} (exact : trusted → before.Exact) (holds : bad failure)
    (proper : ∀ cause, failure = .fault cause → cause.Proper) :
    Lowers trusted (Session.fail failure : Session α) config before good bad where
  kept := rfl
  proper cause failed := by
    cases failed
    exact proper cause rfl
  exact := exact
  ok _ _ same := by cases same
  failed _ _ same := by
    cases same
    exact holds

private theorem bind {step : Session α} {next : α → Session β} (first : Lowers trusted step config before good bad)
    (rest : ∀ value middle, step config before = (.ok value, middle) → middle.subst = before.subst →
      (trusted → before.Adds middle ∧ good value middle.store) → Lowers trusted (next value) config middle better bad) :
    Lowers trusted (step >>= next) config before better bad := by
  obtain ⟨kept, proper, exact, ok, failed⟩ := first
  cases outcome : step config before with
  | mk result middle =>
    rw [outcome] at kept proper exact ok failed
    cases result with
    | error failure =>
      constructor <;> simp only [run_bind, outcome]
      · exact kept
      · exact fun cause stopped => proper cause (by cases stopped; rfl)
      · exact exact
      · exact fun _ _ returned => by cases returned
      · exact fun sure _ stopped => failed sure _ (by cases stopped; rfl)
    | ok value =>
      have later := rest value middle outcome kept fun sure =>
        ⟨⟨(grows_of_run outcome).entries, exact sure⟩, ok sure value rfl⟩
      constructor <;> simp only [run_bind, outcome]
      · exact later.kept.trans kept
      · exact later.proper
      · exact later.exact
      · exact later.ok
      · exact later.failed

private theorem read {see : View → α} {next : α → Session β}
    (rest : Lowers trusted (next (see before.toView)) config before better bad) :
    Lowers trusted (Session.read see >>= next) config before better bad :=
  ⟨rest.kept, rest.proper, rest.exact, rest.ok, rest.failed⟩

private theorem imp {worse : Failure → Prop} {step : Session α} (lowers : Lowers trusted step config before good bad)
    (implies : ∀ failure, bad failure → worse failure) : Lowers trusted step config before good worse where
  kept := lowers.kept
  proper := lowers.proper
  exact := lowers.exact
  ok := lowers.ok
  failed sure failure same := implies failure (lowers.failed sure failure same)

private theorem alike {step : Session α} {value : α} {after : State} (exact : trusted → before.Exact)
    (run : step config before = (.ok value, after)) (alike : before.Alike after) :
    Lowers trusted step config before (fun result _ => result = value) bad := by
  constructor <;> rw [run]
  · exact alike.subst
  · exact fun _ failed => by cases failed
  · intro sure
    refine .of_denotes (by rw [alike.store]; exact (exact sure).valid) ?_
    rw [alike.memo, alike.store, alike.subst]
    exact fun _ => (exact sure).denotes
  · exact fun _ _ returned => by cases returned; rfl
  · exact fun _ _ failed => by cases failed

private theorem withinDecl {step : Session α} (lowers : Lowers trusted step config before good bad)
    (placed : ∀ error name, bad (.refused error) → bad (.refused (error.inDecl name))) :
    Lowers trusted (Session.withinDecl step) config before good bad := by
  obtain ⟨kept, proper, exact, ok, failed⟩ := lowers
  unfold Session.withinDecl
  refine ⟨?_, ?_, ?_, ?_, fun sure failure stopped => ?_⟩
  · rw [mapError_state]; exact kept
  · simp only [mapError_faults]; exact proper
  · rw [mapError_state]; exact exact
  · simp only [mapError_state, mapError_returns]; exact ok
  · rw [run_mapError] at stopped
    split at stopped
    next error after run =>
      cases stopped
      exact placed error _ (failed sure _ (by rw [run]))
    next => exact failed sure failure stopped

end Lowers

/-- How a type cannot be resolved: a variable is left in what it comes to, or a part is missing. -/
inductive Unresolvable (type : Ty) : Failure → Prop
  | unbound {id : Nat} {decl : String} (inside : id ∈ type.vars) :
      Unresolvable type (.refused ⟨.unresolved id, decl, none⟩)
  | missing (lacking : ¬ type.Whole) : Unresolvable type (.fault .unknownTy)

namespace Unresolvable

variable {type left right : Ty} {failure : Failure}

private theorem domain (unresolvable : Unresolvable left failure) : Unresolvable (.arrow left right) failure := by
  cases unresolvable with
  | unbound inside => exact .unbound (List.mem_append_left _ inside)
  | missing lacking => exact .missing fun whole => lacking whole.1

private theorem codomain (unresolvable : Unresolvable right failure) : Unresolvable (.arrow left right) failure := by
  cases unresolvable with
  | unbound inside => exact .unbound (List.mem_append_right _ inside)
  | missing lacking => exact .missing fun whole => lacking whole.2

theorem refused (unresolvable : Unresolvable type failure)
    (whole : type.Whole) :
    type.vars ≠ [] ∧ ∃ error, failure = .refused error ∧ error.kind = .unresolvedTypeVariable := by
  cases unresolvable with
  | unbound inside => exact ⟨List.ne_nil_of_mem inside, _, rfl, rfl⟩
  | missing lacking => exact absurd whole lacking

private theorem not_ground (unresolvable : Unresolvable type failure) : ¬ type.Ground := by
  rw [Ty.ground_iff]
  cases unresolvable with
  | unbound inside => exact fun ground => List.ne_nil_of_mem inside ground.2
  | missing lacking => exact fun ground => lacking ground.1

private theorem inDecl {error : TypeError} (unresolvable : Unresolvable type (.refused error)) (name : String) :
    Unresolvable type (.refused (error.inDecl name)) := by
  cases unresolvable with
  | unbound inside => exact .unbound inside

end Unresolvable

/-- A step resolves a type that comes to a tree to the number of the tree. -/
abbrev LowersTo (trusted : Prop) (tree : Ty) (step : Session TypeId) (config : Config) (before : State) : Prop :=
  Lowers trusted step config before (fun id store => store.Denotes id tree) (Unresolvable tree)

private theorem intern_lowers {entry : Entry} {tree : Ty} (exact : trusted → before.Exact)
    (issued : trusted → ∀ part ∈ Store.parts entry, part < before.store.size)
    (denotes : trusted → ∀ id (store : Store), before.store.entries <+: store.entries →
      store.entries[id]? = some entry → store.Denotes id tree) :
    LowersTo trusted tree (intern entry) config before := by
  have valid (sure : trusted) := Store.intern_valid (exact sure).valid entry
  have grown := before.store.intern_grown entry
  cases granted : before.store.intern entry with
  | mk result store =>
    rw [granted] at valid grown
    have exact' (sure : trusted) : State.Exact { before with store } :=
      .of_denotes (valid sure) fun _ member => ((exact sure).denotes member).mono grown
    constructor <;> simp only [intern, run, Request.answer, granted]
    · cases result <;> rfl
    · cases result with
      | ok => exact fun _ stopped => by cases stopped
      | error refusal => cases refusal <;> (intro _ stopped; cases stopped; simp [Store.Refusal.fault, Fault.Proper])
    · cases result <;> exact exact'
    · cases result with
      | ok id =>
        intro sure _ returned
        cases returned
        exact denotes sure id store grown (Store.intern_ok (exact sure).valid granted).2.2
      | error => exact fun _ _ returned => by cases returned
    · cases result with
      | ok => exact fun _ _ failed => by cases failed
      | error =>
        -- The parts were issued, so that an exact state grants the request.
        intro sure
        obtain ⟨id, more, granted'⟩ := Store.intern_issued (issued sure)
        cases granted.symm.trans granted'

private theorem memorize_lowers {type : Ty} {id : TypeId} {bad : Failure → Prop} (exact : trusted → before.Exact)
    (denotes : trusted → before.store.Denotes id (before.subst.apply type)) :
    Lowers trusted (request (.memorize type id)) config before (fun _ store => store = before.store) bad where
  kept := rfl
  proper _ stopped := by cases stopped
  exact sure := by
    refine .of_denotes (exact sure).valid ?_
    exact List.forall_mem_cons.mpr ⟨denotes sure, fun _ member => (exact sure).denotes member⟩
  ok _ _ _ := rfl
  failed _ _ failed := by cases failed

private theorem remember_lowers {type : Ty} {resolve : Session TypeId} (exact : trusted → before.Exact)
    (lowers : LowersTo trusted (before.subst.apply type) resolve config before) :
    LowersTo trusted (before.subst.apply type) (remember type resolve) config before := by
  apply Lowers.read
  split
  next id known => exact .pure exact fun sure => (exact sure).denotes (mem_of_lookup_eq known)
  next =>
    refine .bind lowers fun id middle _ same resolved => ?_
    have denotes (sure : trusted) : middle.store.Denotes id (before.subst.apply type) := (resolved sure).2
    refine .bind (memorize_lowers (fun sure => (resolved sure).1.exact) (same ▸ denotes)) ?_
    intro _ final _ _ noted
    refine .pure (fun sure => (noted sure).1.exact) fun sure => ?_
    rw [(noted sure).2]
    exact denotes sure

private theorem typeIdWith_lowers {follow : Ty → Session TypeId} {s : Subst} {type : Ty} (acyclic : s.Acyclic)
    (bound : ∀ id ∈ type.vars, ∀ inner, s.lookup id = some inner → ∀ before : State, before.subst = s →
      (trusted → before.Exact) → LowersTo trusted (s.apply inner) (follow inner) config before)
    (same : before.subst = s) (exact : trusted → before.Exact) :
    LowersTo trusted (s.apply type) (typeIdWith follow type) config before := by
  induction type generalizing before with
  | var v =>
    subst same
    refine remember_lowers exact (.read ?_)
    cases found : before.subst.lookup v.id with
    | some inner =>
      rw [Subst.apply_bound acyclic found]
      exact bound v.id (by simp [Ty.vars]) inner found before rfl exact
    | none =>
      rw [Subst.apply_unbound found]
      exact .fail exact (.unbound (by simp [Ty.vars])) fun _ same => by cases same
  | arrow domain codomain left right =>
    have split : LowersTo trusted (s.apply (.arrow domain codomain)) (do
        let first ← typeIdWith follow domain
        let second ← typeIdWith follow codomain
        intern (.arrow first second)) config before := by
      rw [Subst.apply_arrow]
      refine .bind ((left (fun id member => bound id (List.mem_append_left _ member)) same exact).imp
        fun _ => .domain) fun first middle _ same' resolved => ?_
      have exact' (sure : trusted) := (resolved sure).1.exact
      refine .bind ((right (fun id member => bound id (List.mem_append_right _ member))
        (same'.trans same) exact').imp fun _ => .codomain) fun second final _ _ resolved' => ?_
      have denotes (sure : trusted) := (resolved sure).2.mono (resolved' sure).1.grown
      refine intern_lowers (fun sure => (resolved' sure).1.exact) (fun sure => ?_) fun sure id store grown found => ?_
      · simp [Store.parts, (denotes sure).issued, (resolved' sure).2.issued]
      · exact .arrow found ((denotes sure).mono grown) ((resolved' sure).2.mono grown)
    subst same
    exact remember_lowers exact split
  | atom a =>
    subst same
    refine remember_lowers exact ?_
    rw [Subst.apply_atom]
    exact intern_lowers exact (fun _ _ member => by cases member) fun _ _ _ _ found => .atom found
  | missing =>
    subst same
    refine remember_lowers exact ?_
    rw [Subst.apply_missing]
    exact .fail exact (.missing id) fun _ same => by cases same; simp [Fault.Proper]

private theorem typeIdN_lowers {steps : Nat} {s : Subst} {type : Ty} (acyclic : s.Acyclic)
    (settled : s.Settles steps type) (same : before.subst = s) (exact : trusted → before.Exact) :
    LowersTo trusted (s.apply type) (typeIdN steps type) config before := by
  induction steps generalizing type before with
  | zero =>
    refine typeIdWith_lowers acyclic (fun id member inner found => ?_) same exact
    rw [settled id member] at found
    cases found
  | succ steps ih =>
    refine typeIdWith_lowers acyclic (fun id member inner found before same exact => ?_) same exact
    exact ih (settled id member inner found) same exact

/-- A type is resolved to the number of what it comes to. -/
theorem typeId_lowers (acyclic : before.subst.Acyclic) (exact : trusted → before.Exact) (type : Ty) :
    LowersTo trusted (before.subst.apply type) (typeId type) config before :=
  .read (typeIdN_lowers acyclic (acyclic.settles type) rfl exact)

private theorem typeId_resolves {s : Subst} (acyclic : s.Acyclic) (same : before.subst = s) (exact : before.Exact)
    (type : Ty) : LowersTo True (s.apply type) (typeId type) config before := by
  subst same
  exact typeId_lowers acyclic (fun _ => exact) type

/-- The types of an expression are resolved to the numbers of what they come to, unless one of them cannot
be resolved. -/
theorem resolveTypes_lowers {s : Subst} (acyclic : s.Acyclic) (same : before.subst = s) (exact : before.Exact)
    (typed : Typed Ty) :
    Lowers True (resolveTypes typed) config before
      (fun resolved store => (typed.All fun type => (s.apply type).Ground) ∧
        store.Lasts fun store => resolved.map store.unfold = typed.map s.apply)
      fun failure => ¬ typed.All fun type => ¬ Unresolvable (s.apply type) failure := by
  induction typed generalizing before with
  | lam type pat body ih =>
    refine .bind ((typeId_resolves acyclic same exact type).imp fun _ stops all => all.1 stops) ?_
    intro id middle _ same' resolved
    obtain ⟨adds, denotes⟩ := resolved trivial
    refine .bind ((ih (same'.trans same) adds.exact).imp fun _ stops all => stops all.2) fun body' _ _ _ resolved => ?_
    obtain ⟨adds', ground, trees⟩ := resolved trivial
    refine .pure (fun _ => adds'.exact) fun _ => ⟨⟨denotes.ground, ground⟩, fun more later ordered => ?_⟩
    simp only [Typed.map, trees more later ordered, denotes.lasts more (adds'.grown.trans later) ordered]
  | letElse type pat bound thenBranch elseBranch first second third =>
    refine .bind ((typeId_resolves acyclic same exact type).imp fun _ stops all => all.1 stops) ?_
    intro id _ _ kept resolved
    replace same := kept.trans same
    obtain ⟨adds, denotes⟩ := resolved trivial
    refine .bind ((first same adds.exact).imp fun _ stops all => stops all.2.1) fun bound' _ _ kept resolved => ?_
    replace same := kept.trans same
    obtain ⟨adds, ground, trees⟩ := resolved trivial
    refine .bind ((second same adds.exact).imp fun _ stops all => stops all.2.2.1) fun then' _ _ kept resolved => ?_
    replace same := kept.trans same
    obtain ⟨adds', ground', trees'⟩ := resolved trivial
    refine .bind ((third same adds'.exact).imp fun _ stops all => stops all.2.2.2) fun else' _ _ _ resolved => ?_
    obtain ⟨adds'', ground'', trees''⟩ := resolved trivial
    refine .pure (fun _ => adds''.exact) fun _ => ⟨⟨denotes.ground, ground, ground', ground''⟩, ?_⟩
    intro more later ordered
    have later' := adds''.grown.trans later
    simp only [Typed.map, trees'' more later ordered, trees' more later' ordered,
      trees more (adds'.grown.trans later') ordered,
      denotes.lasts more (adds.grown.trans (adds'.grown.trans later')) ordered]
  | call type func arg first second =>
    refine .bind ((typeId_resolves acyclic same exact type).imp fun _ stops all => all.1 stops) ?_
    intro id _ _ kept resolved
    replace same := kept.trans same
    obtain ⟨adds, denotes⟩ := resolved trivial
    refine .bind ((first same adds.exact).imp fun _ stops all => stops all.2.1) fun func' _ _ kept resolved => ?_
    replace same := kept.trans same
    obtain ⟨adds, ground, trees⟩ := resolved trivial
    refine .bind ((second same adds.exact).imp fun _ stops all => stops all.2.2) fun arg' _ _ _ resolved => ?_
    obtain ⟨adds', ground', trees'⟩ := resolved trivial
    refine .pure (fun _ => adds'.exact) fun _ => ⟨⟨denotes.ground, ground, ground'⟩, fun more later ordered => ?_⟩
    have later' := adds'.grown.trans later
    simp only [Typed.map, trees' more later ordered, trees more later' ordered,
      denotes.lasts more (adds.grown.trans later') ordered]
  | lit type | name type | impossible type | invalid type =>
    refine .bind ((typeId_resolves acyclic same exact type).imp fun _ stops all => all stops) ?_
    intro id _ _ _ resolved
    obtain ⟨adds, denotes⟩ := resolved trivial
    refine .pure (fun _ => adds.exact) fun _ => ⟨denotes.ground, fun more later ordered => ?_⟩
    simp only [Typed.map, denotes.lasts more later ordered]

private theorem showType_run {id : TypeId} {tree : Ty} (ordered : before.store.Ordered)
    (denotes : before.store.Denotes id tree)
    (config : Config) : showType id config before = (.ok tree.render, before) := by
  unfold showType
  rw [read_bind, denotes.render ordered]
  rfl

/-- A declaration of the program is a declared one, and its types are the trees that those come to. -/
structure Finished (tree : Ty → Ty) (params : List String) (declared : DeclaredDecl) (body : Typed Ty)
    (decl : CheckedDecl) (store : Store) : Prop where
  name : decl.name = declared.name
  params : decl.params = params
  type : store.unfold decl.type = tree declared.type
  body : decl.body.map store.unfold = body.map tree

def paramsOf (config : Config) (state : State) (name : String) : List String :=
  ((state.scope.find? (config.normalize name)).map Template.params).getD []

private theorem finish_lowers {s : Subst} (acyclic : s.Acyclic) (same : before.subst = s) (exact : before.Exact)
    (declared : DeclaredDecl) (body : Typed Ty) :
    Lowers True (finish declared body) config before
      (fun decl store => declared.All (fun type => (s.apply type).Ground) body ∧
        store.Lasts (Finished s.apply (paramsOf config before declared.name) declared body decl))
      fun failure => ¬ declared.All (fun type => ¬ Unresolvable (s.apply type) failure) body := by
  refine .bind (.alike (fun _ => exact) rfl ⟨rfl, rfl, rfl, rfl, rfl, rfl, rfl⟩) fun _ _ run kept resolved => ?_
  cases run
  obtain ⟨adds, _⟩ := resolved trivial
  refine .withinDecl ?_ fun error name stops all =>
    stops ⟨fun lacks => all.1 (lacks.inDecl name), all.2.imp fun _ sound lacks => sound (lacks.inDecl name)⟩
  replace same := kept.trans same
  refine .bind ((typeId_resolves acyclic same adds.exact declared.type).imp fun _ stops all => all.1 stops) ?_
  intro id middle run kept resolved
  have scope := ((typeId_uses (.refl _) declared.type).leaves run).scope (by decide)
  obtain ⟨adds, denotes⟩ := resolved trivial
  replace same := kept.trans same
  refine .bind (.alike (fun _ => adds.exact) rfl (.refl _)) fun template _ run kept resolved => ?_
  cases run
  obtain ⟨adds, found⟩ := resolved trivial
  refine .bind ((resolveTypes_lowers acyclic (kept.trans same) adds.exact body).imp fun _ stops all => stops all.2) ?_
  intro body' resolved _ _ trees
  obtain ⟨adds, ground, trees⟩ := trees trivial
  have shown := showType_run adds.exact.valid.ordered (denotes.mono adds.grown) config
  refine .bind (.alike (fun _ => adds.exact) shown (.refl _)) fun text _ run _ _ => ?_
  cases shown.symm.trans run
  obtain ⟨_, traced, alike⟩ := trace_run (fun _ => "substitute " ++ declared.name ++ " : " ++ _) config _
  refine .bind (.alike (fun _ => adds.exact) traced alike) fun _ _ _ _ noted => ?_
  obtain ⟨adds', _⟩ := noted trivial
  refine .pure (fun _ => adds'.exact) fun _ => ⟨⟨denotes.ground, ground⟩, fun more later ordered => ⟨rfl, ?_, ?_, ?_⟩⟩
  · rw [paramsOf, ← scope]
  · exact denotes.lasts more (adds.grown.trans (adds'.grown.trans later)) ordered
  · exact trees more (adds'.grown.trans later) ordered

/-- The declarations of the program are the declared ones, in their order, each with the body that was
checked for it; `start` is the place of the first. -/
structure FinishedAll (tree : Ty → Ty) (params : String → List String) (bodies : List (Nat × Typed Ty))
    (start : Nat) (declared : List DeclaredDecl) (decls : List CheckedDecl) (store : Store) : Prop where
  signatures : decls.map (fun decl => (decl.name, Template.mk decl.params (store.unfold decl.type))) =
    declared.map fun decl => (decl.name, Template.mk (params decl.name) (tree decl.type))
  places : ∀ index decl, decls[index]? = some decl → ∃ source body, declared[index]? = some source ∧
    bodies.lookup (start + index) = some body ∧ Finished tree (params source.name) source body decl store

private theorem finishAll_lowers {s : Subst} {params : String → List String} (acyclic : s.Acyclic)
    (same : before.subst = s)
    (exact : before.Exact) (bodies : List (Nat × Typed Ty)) (start : Nat) (declared : List DeclaredDecl)
    (known : paramsOf config before = params) :
    Lowers True (finishAll bodies start declared) config before
      (fun decls store => AllFrom (fun type => (s.apply type).Ground) bodies start declared ∧
        store.Lasts (FinishedAll s.apply params bodies start declared decls))
      fun failure => ¬ AllFrom (fun type => ¬ Unresolvable (s.apply type) failure) bodies start declared := by
  induction declared generalizing start before with
  | nil =>
    refine .pure (fun _ => exact) fun _ => ⟨fun _ _ found => (by cases found), fun _ _ _ => ⟨rfl, ?_⟩⟩
    exact fun _ _ found => by cases found
  | cons decl rest ih =>
    unfold finishAll
    simp only [allFrom_cons]
    cases found : bodies.lookup start with
    | none => exact .fail (fun _ => exact) (by simp) fun _ same => by cases same; simp [Fault.Proper]
    | some body =>
      refine .bind ((finish_lowers acyclic same exact decl body).imp fun _ stops all => ?_) ?_
      · obtain ⟨⟨_, listed, sound⟩, _⟩ := all
        cases listed
        exact stops sound
      intro checked middle run kept resolved
      obtain ⟨adds, ground, finished⟩ := resolved trivial
      have scope := ((finish_uses (.refl _) decl body).leaves run).scope (by decide)
      have known' : paramsOf config middle = params := by
        rw [← known]
        unfold paramsOf
        rw [scope]
      refine .bind ((ih (kept.trans same) adds.exact (start + 1) known').imp fun _ stops all => stops all.2) ?_
      intro others _ _ _ resolved
      obtain ⟨adds', ground', finishedAll⟩ := resolved trivial
      refine .pure (fun _ => adds'.exact) fun _ => ⟨⟨⟨body, rfl, ground⟩, ground'⟩, fun more later ordered => ?_⟩
      -- The numbers of this declaration keep their trees while the others are resolved.
      obtain ⟨signatures, places⟩ := finishedAll more later ordered
      have first := finished more (adds'.grown.trans later) ordered
      rw [known] at first
      refine ⟨?_, fun index other placed => ?_⟩
      · rw [List.map_cons, List.map_cons, signatures, first.name, first.params, first.type]
      · cases index with
        | zero =>
          cases placed
          exact ⟨decl, body, rfl, found, first⟩
        | succ index =>
          obtain ⟨source, body', placed', found', same⟩ := places index other placed
          rw [Nat.add_assoc, Nat.add_comm 1] at found'
          exact ⟨source, body', placed', found', same⟩

private theorem traceScope_run (entries : List (String × Template)) (config : Config) (before : State) :
    ∃ after, traceScope entries config before = (.ok (), after) ∧ before.Alike after := by
  induction entries generalizing before with
  | nil => exact ⟨before, rfl, .refl before⟩
  | cons entry rest ih =>
    obtain ⟨middle, first, alike⟩ := trace_run (fun view => "context " ++ entry.1 ++ " : " ++
      (view.subst.apply entry.2.type).render) config before
    obtain ⟨after, others, alike'⟩ := ih middle
    exact ⟨after, (bind_run first).trans others, alike.trans alike'⟩

/-- Declarations are resolved to the numbers of what their types come to, unless one of them cannot be
resolved. -/
theorem resolveAll_lowers {s : Subst} (acyclic : s.Acyclic) (same : before.subst = s) (exact : before.Exact)
    (declared : List DeclaredDecl) (bodies : List (Nat × Typed Ty)) :
    Lowers True (resolveAll declared bodies) config before
      (fun program _ => AllFrom (fun type => (s.apply type).Ground) bodies 0 declared ∧
        FinishedAll s.apply (paramsOf config before) bodies 0 declared program.decls program.store)
      fun failure => ¬ AllFrom (fun type => ¬ Unresolvable (s.apply type) failure) bodies 0 declared := by
  obtain ⟨middle, reported, alike⟩ := trace_run (fun view => "solved " ++ toString view.subst.size ++ " of " ++
    toString view.nextVar ++ " type variables") config before
  refine .bind (.alike (fun _ => exact) reported alike) fun _ _ run kept resolved => ?_
  cases reported.symm.trans run
  obtain ⟨adds, _⟩ := resolved trivial
  obtain ⟨shown, traced, alike'⟩ := traceScope_run middle.scope.entries config middle
  refine .read (.bind (.alike (fun _ => adds.exact) traced alike') fun _ _ run kept' resolved => ?_)
  cases traced.symm.trans run
  obtain ⟨adds, _⟩ := resolved trivial
  have forgotten : Lowers True forgetTypes config shown (fun _ _ => True) fun failure =>
      ¬ AllFrom (fun type => ¬ Unresolvable (s.apply type) failure) bodies 0 declared :=
    ⟨rfl, fun _ failed => (by cases failed), fun _ => .begun adds.exact.valid rfl, fun _ _ _ => trivial,
      fun _ _ failed => by cases failed⟩
  refine .bind forgotten fun _ _ run kept'' resolved => ?_
  cases run
  have known : paramsOf config { shown with memo := [] } = paramsOf config before := by
    unfold paramsOf
    rw [alike'.scope, alike.scope]
  refine .bind (finishAll_lowers acyclic (kept''.trans (kept'.trans (kept.trans same))) (resolved trivial).1.exact
    bodies 0 declared known) fun checked final _ _ resolved => ?_
  obtain ⟨adds, ground, lasts⟩ := resolved trivial
  refine .bind (.alike (fun _ => adds.exact) rfl ⟨rfl, rfl, rfl, rfl, rfl, rfl, rfl⟩) fun _ left run _ entered => ?_
  cases run
  refine .read (.bind (.alike (fun _ => (entered trivial).1.exact) rfl (.refl _)) fun _ _ run _ asked => ?_)
  cases run
  exact .pure (fun _ => (asked trivial).1.exact) fun _ =>
    ⟨ground, lasts final.store List.prefix_rfl adds.exact.valid.ordered⟩

/-- What is resolved after elaboration. -/
theorem elaborateAll_exact {decls : List (Option Decl)} {cache : Regex.Cache} {after : State}
    {result : Except Failure (List DeclaredDecl × List (Nat × Typed Ty))}
    (run : elaborateAll decls config (.fresh cache) = (result, after)) :
    after.subst.Acyclic ∧ after.Exact := by
  have leaves := (elaborateAll_uses (.refl _) decls).leaves run
  have store : after.store = .empty := leaves.store (by decide)
  exact ⟨(grows_of_run run).acyclic Subst.acyclic_empty, .begun (store ▸ Store.valid_empty) (leaves.memo (by decide))⟩

/-- The declarations from a place on have bodies, and all types come to trees. -/
abbrev ResolvableFrom (s : Subst) : List (Nat × Typed Ty) → Nat → List DeclaredDecl → Prop :=
  AllFrom fun type => (s.apply type).Ground

/-- Declarations are resolved if and only if all their types come to trees. -/
theorem resolveAll_iff (acyclic : before.subst.Acyclic) (exact : before.Exact)
    (declared : List DeclaredDecl) (bodies : List (Nat × Typed Ty)) :
    (∃ program after, resolveAll declared bodies config before = (.ok program, after)) ↔
      ResolvableFrom before.subst bodies 0 declared := by
  have lowers : Lowers True (resolveAll declared bodies) config before _ _ :=
    resolveAll_lowers acyclic rfl exact declared bodies
  constructor
  · rintro ⟨program, after, run⟩
    exact (lowers.ok trivial program (congrArg Prod.fst run)).1
  · intro ground
    cases outcome : resolveAll declared bodies config before with
    | mk result after =>
      cases result with
      | ok program => exact ⟨program, after, rfl⟩
      | error failure =>
        refine absurd ?_ (lowers.failed trivial failure (congrArg Prod.fst outcome))
        exact ground.imp fun _ ground lacks => lacks.not_ground ground

theorem FinishedAll.bodies {tree : Ty → Ty} {params : String → List String} {bodies : List (Nat × Typed Ty)}
    {declared : List DeclaredDecl} {decls : List CheckedDecl} {store : Store}
    (finished : FinishedAll tree params bodies 0 declared decls store) (decl : CheckedDecl)
    (member : decl ∈ decls) : ∃ index source body, declared[index]? = some source ∧
      bodies.lookup index = some body ∧ Finished tree (params source.name) source body decl store := by
  obtain ⟨index, found⟩ := List.getElem?_of_mem member
  obtain ⟨source, body, placed, checked, same⟩ := finished.places index decl found
  rw [Nat.zero_add] at checked
  exact ⟨index, source, body, placed, checked, same⟩

private theorem FinishedAll.agree {s : Subst} {params : String → List String} {bodies : List (Nat × Typed Ty)}
    {start : Nat} {declared : List DeclaredDecl} {decls : List CheckedDecl} {store : Store}
    (finished : FinishedAll s.apply params bodies start declared decls store)
    (resolvable : ResolvableFrom s bodies start declared) (agrees : s.Agrees assigned) :
    FinishedAll (·.image assigned) params bodies start declared decls store := by
  have tree {type : Ty} (ground : (s.apply type).Ground) : s.apply type = type.image assigned := by
    rw [← agrees.apply, Ty.image_closed _ (Ty.ground_iff.mp ground).2]
  refine ⟨finished.signatures.trans (List.map_congr_left fun decl member => ?_), fun index decl found => ?_⟩
  · obtain ⟨index, found⟩ := List.getElem?_of_mem member
    obtain ⟨body, _, ground, _⟩ := resolvable index decl found
    rw [tree ground]
  · obtain ⟨source, body, placed, checked, same⟩ := finished.places index decl found
    obtain ⟨body', checked', ground, ground'⟩ := resolvable index source placed
    cases checked.symm.trans checked'
    exact ⟨source, body, placed, checked, same.name, same.params, same.type.trans (tree ground),
      same.body.trans (Typed.map_eq_map_iff.mpr (ground'.imp fun _ => tree))⟩

/-- Resolution gives every type the number of the tree that it stands for. -/
theorem resolveAll_finished {declared : List DeclaredDecl} {bodies : List (Nat × Typed Ty)} {program : Program}
    (acyclic : before.subst.Acyclic) (exact : before.Exact) (agrees : before.subst.Agrees assigned)
    (run : resolveAll declared bodies config before = (.ok program, after)) :
    FinishedAll (·.image assigned) (paramsOf config before) bodies 0 declared program.decls program.store := by
  have lowers : Lowers True (resolveAll declared bodies) config before _ _ :=
    resolveAll_lowers acyclic rfl exact declared bodies
  obtain ⟨resolvable, finished⟩ := lowers.ok trivial program (congrArg Prod.fst run)
  exact finished.agree resolvable agrees

/-- The warnings of a program are those that were given while its bodies were checked. -/
theorem resolveAll_warnings {declared : List DeclaredDecl} {bodies : List (Nat × Typed Ty)} {program : Program}
    (run : resolveAll declared bodies config before = (.ok program, after)) : program.warnings = before.warnings := by
  rw [← ((resolveAll_uses (.refl _) declared bodies).leaves run).warnings (by decide)]
  obtain ⟨_, _, _, run⟩ := bind_ok run
  obtain ⟨_, _, _, run⟩ := bind_ok run
  obtain ⟨_, _, _, run⟩ := bind_ok run
  obtain ⟨_, _, _, run⟩ := bind_ok run
  obtain ⟨_, _, _, run⟩ := bind_ok run
  obtain ⟨_, _, left, run⟩ := bind_ok run
  cases left
  cases run
  rfl

end Session

end Checking

end RefinementTypes
