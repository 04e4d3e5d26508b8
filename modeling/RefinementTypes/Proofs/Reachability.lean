import RefinementTypes.Proofs.Additions
import RefinementTypes.Proofs.Interning
import RefinementTypes.Proofs.Soundness

/-! Stores without idle entries. A number is added to the store only as the type of something in the program, or as a
part of such a type; so every number of the final store is reached from the types of the program, and every type of the
program is in the store. -/

namespace RefinementTypes

namespace Store

/-- A number is among the given ones, or is a part of a type that they reach. -/
inductive Reaches (store : Store) (roots : List TypeId) : TypeId → Prop
  | root {id : TypeId} (member : id ∈ roots) : Reaches store roots id
  | part {id inner : TypeId} {entry : Entry} (reached : Reaches store roots id)
      (issued : store.entries[id]? = some entry) (inside : inner ∈ parts entry) : Reaches store roots inner

variable {store more : Store} {roots others : List TypeId} {id : TypeId} {entry : Entry}

theorem Reaches.mono (reached : store.Reaches roots id) (grown : store.entries <+: more.entries)
    (within : ∀ root ∈ roots, more.Reaches others root) : more.Reaches others id := by
  induction reached with
  | root member => exact within _ member
  | part _ issued inside ih =>
    obtain ⟨rest, same⟩ := grown
    refine .part ih ?_ inside
    rw [← same, List.getElem?_append_left (List.getElem?_eq_some_iff.mp issued).1]
    exact issued

/-- The given numbers are issued, and they reach all that are. -/
structure Covered (store : Store) (roots : List TypeId) : Prop where
  valid : store.Valid
  issued : ∀ id ∈ roots, id < store.size
  reached : ∀ id, id < store.size → store.Reaches roots id

private theorem covered_empty : Store.empty.Covered [] where
  valid := valid_empty
  issued _ member := by cases member
  reached _ less := absurd less (Nat.not_lt_zero _)

private theorem Covered.congr (covered : store.Covered roots) (same : ∀ id, id ∈ others ↔ id ∈ roots) :
    store.Covered others where
  valid := covered.valid
  issued id member := covered.issued id ((same id).mp member)
  reached id less := (covered.reached id less).mono List.prefix_rfl fun root member => .root ((same root).mpr member)

private theorem Covered.cons (covered : store.Covered roots) (issued : id < store.size) :
    store.Covered (id :: roots) where
  valid := covered.valid
  issued := List.forall_mem_cons.mpr ⟨issued, covered.issued⟩
  reached other less :=
    (covered.reached other less).mono List.prefix_rfl fun _ member => .root (List.mem_cons_of_mem _ member)

private theorem intern_only (granted : store.intern entry = (.ok id, more)) {new : TypeId} (beyond : store.size ≤ new)
    (less : new < more.size) : new = id := by
  have interns : Interns store entry (.ok id, more) := granted ▸ store.intern_interns entry
  cases interns with
  | known => exact absurd less (Nat.not_lt.mpr beyond)
  | issued =>
    have last : new < (store.entries ++ [entry]).length := less
    rw [List.length_append] at last
    exact Nat.le_antisymm (Nat.le_of_lt_succ last) beyond

/-- Instead of the parts of a type, the type itself may be given. -/
theorem Covered.intern (covered : store.Covered roots) (granted : store.intern entry = (.ok id, more))
    (within : ∀ root ∈ roots, root ∈ parts entry ∨ root ∈ others) (kept : ∀ other ∈ others, other ∈ roots) :
    more.Covered (id :: others) := by
  obtain ⟨valid, grown, issued⟩ := intern_ok covered.valid granted
  have least : store.size ≤ more.size := grown.length_le
  refine ⟨valid, List.forall_mem_cons.mpr ⟨(List.getElem?_eq_some_iff.mp issued).1, fun other member => ?_⟩, ?_⟩
  · exact Nat.lt_of_lt_of_le (covered.issued other (kept other member)) least
  · intro other less
    rcases Nat.lt_or_ge other store.size with old | new
    · refine (covered.reached other old).mono grown fun root member => ?_
      rcases within root member with inside | kept
      · exact .part (.root List.mem_cons_self) issued inside
      · exact .root (List.mem_cons_of_mem _ kept)
    · rw [intern_only granted new less]
      exact .root List.mem_cons_self

end Store

namespace Checking

def Typed.types {τ : Type} : Typed τ → List τ
  | .lam type _ body => type :: body.types
  | .letElse type _ bound thenBranch elseBranch => type :: (bound.types ++ thenBranch.types ++ elseBranch.types)
  | .call type func arg => type :: (func.types ++ arg.types)
  | .lit type _ | .name type _ | .impossible type | .invalid type => [type]

def CheckedDecl.types (decl : CheckedDecl) : List TypeId := decl.type :: decl.body.types

def Program.types (program : Program) : List TypeId := program.decls.flatMap CheckedDecl.types

/-- The given numbers reach all that are issued, and what is remembered of types is issued. -/
structure State.Covered (state : State) (roots : List TypeId) : Prop where
  table : state.store.Covered roots
  memo : ∀ entry ∈ state.memo, entry.2 < state.store.size

namespace Session

variable {α β : Type} {config : Config} {before after : State} {roots : List TypeId}

/-- If a step that resolves types succeeds, the numbers that it returns take the place of those given. -/
def Covers (roots : List TypeId) (step : Session α) (config : Config) (before : State)
    (result : α → List TypeId) : Prop :=
  before.Covered roots → ∀ value after, step config before = (.ok value, after) → after.Covered (result value)

namespace Covers

variable {result : α → List TypeId} {final : β → List TypeId}

theorem pure {value : α} (same : ∀ id, id ∈ result value ↔ id ∈ roots) :
    Covers roots (Pure.pure value : Session α) config before result := by
  intro covered value after run
  cases run
  exact ⟨covered.table.congr same, covered.memo⟩

private theorem fail {failure : Failure} : Covers roots (Session.fail failure : Session α) config before result := by
  intro _ value after run
  cases run

private theorem bind {step : Session α} {next : α → Session β} (first : Covers roots step config before result)
    (rest : ∀ value middle, Covers (result value) (next value) config middle final) :
    Covers roots (step >>= next) config before final := by
  intro covered value after run
  obtain ⟨found, middle, early, late⟩ := bind_ok run
  exact rest found middle (first covered found middle early) value after late

private theorem read {see : View → α} {next : α → Session β}
    (rest : Covers roots (next (see before.toView)) config before final) :
    Covers roots (Session.read see >>= next) config before final := rest

private theorem withinDecl {step : Session α} (covers : Covers roots step config before result) :
    Covers roots (Session.withinDecl step) config before result :=
  fun covered value after run => covers covered value after (withinDecl_ok run)

end Covers

private theorem Uses.covers {uses : List Use} {step : Session α} (step_uses : step.Uses uses)
    (aside : .intern ∉ uses ∧ .memo ∉ uses) : Covers roots step config before fun _ => roots := by
  intro covered _ after run
  have untouched := step_uses.leaves run
  refine ⟨?_, ?_⟩ <;> rw [untouched.store aside.1]
  · exact covered.table
  · rw [untouched.memo aside.2]
    exact covered.memo

private theorem intern_covers {entry : Entry} {rest : List TypeId}
    (within : ∀ root ∈ roots, root ∈ Store.parts entry ∨ root ∈ rest) (kept : ∀ other ∈ rest, other ∈ roots) :
    Covers roots (intern entry) config before fun id => id :: rest := by
  intro covered id after run
  cases granted : before.store.intern entry with
  | mk result store =>
    simp only [intern, Session.run, Request.answer, granted] at run
    cases result with
    | error refusal => cases run
    | ok issued =>
      cases run
      refine ⟨covered.table.intern granted within kept, fun entry member => ?_⟩
      exact Nat.lt_of_lt_of_le (covered.memo entry member)
        (Store.intern_ok covered.table.valid granted).2.1.length_le

private theorem remember_covers {type : Ty} {resolve : Session TypeId}
    (covers : Covers roots resolve config before fun id => id :: roots) :
    Covers roots (remember type resolve) config before fun id => id :: roots := by
  intro covered id after run
  unfold remember at run
  rw [read_bind] at run
  cases known : before.memo.lookup type with
  | some found =>
    rw [known] at run
    cases run
    exact ⟨covered.table.cons (covered.memo (type, id) (mem_of_lookup_eq known)), covered.memo⟩
  | none =>
    rw [known] at run
    obtain ⟨found, middle, resolved, run⟩ := bind_ok run
    cases run
    obtain ⟨table, memo⟩ := covers covered id middle resolved
    exact ⟨table, List.forall_mem_cons.mpr ⟨table.issued id List.mem_cons_self, memo⟩⟩

private theorem typeIdWith_covers {follow : Ty → Session TypeId}
    (follows : ∀ roots type before, Covers roots (follow type) config before fun id => id :: roots) (type : Ty) :
    Covers roots (typeIdWith follow type) config before fun id => id :: roots := by
  induction type generalizing before roots with
  | var v =>
    refine remember_covers (.read ?_)
    split
    next => exact follows roots _ before
    next => exact .fail
  | arrow domain codomain left right =>
    -- The numbers of the two parts need not be held any longer once the arrow has its own.
    refine remember_covers (.bind left fun first _ => .bind right fun second _ => intern_covers ?_ ?_)
    · intro root member
      simp only [Store.parts, List.mem_cons] at member ⊢
      grind
    · exact fun other member => List.mem_cons_of_mem _ (List.mem_cons_of_mem _ member)
  | atom a => exact remember_covers (intern_covers (fun _ member => .inr member) fun _ member => member)
  | missing => exact remember_covers .fail

private theorem typeId_covers (type : Ty) : Covers roots (typeId type) config before fun id => id :: roots := by
  apply Covers.read
  generalize before.subst.size = steps
  induction steps generalizing type before roots with
  | zero => exact typeIdWith_covers (fun _ _ _ => .fail) type
  | succ steps ih => exact typeIdWith_covers (fun _ type _ => ih type) type

private theorem resolveTypes_covers (typed : Typed Ty) :
    Covers roots (resolveTypes typed) config before fun resolved => resolved.types ++ roots := by
  induction typed generalizing before roots with
  | lam type pat body ih =>
    refine .bind (typeId_covers type) fun _ _ => .bind ih fun _ _ => .pure fun id => ?_
    simp only [Typed.types, List.mem_append, List.mem_cons]
    grind
  | letElse type pat bound thenBranch elseBranch first second third =>
    refine .bind (typeId_covers type) fun _ _ => .bind first fun _ _ => .bind second fun _ _ => ?_
    refine .bind third fun _ _ => .pure fun id => ?_
    simp only [Typed.types, List.mem_append, List.mem_cons]
    grind
  | call type func arg first second =>
    refine .bind (typeId_covers type) fun _ _ => .bind first fun _ _ => .bind second fun _ _ => .pure fun id => ?_
    simp only [Typed.types, List.mem_append, List.mem_cons]
    grind
  | lit | name | impossible | invalid => exact .bind (typeId_covers _) fun _ _ => .pure fun id => Iff.rfl

private theorem finish_covers (declared : DeclaredDecl) (body : Typed Ty) :
    Covers roots (finish declared body) config before fun decl => decl.types ++ roots := by
  refine .bind ((enterDecl_uses (.refl _) _).covers (by decide)) fun _ _ => .withinDecl ?_
  refine .bind (typeId_covers _) fun _ _ => .bind ((lookup_uses _ : Session.Uses [] _).covers (by decide)) fun _ _ => ?_
  refine .bind (resolveTypes_covers body) fun _ _ => ?_
  refine .bind ((showType_uses _ : Session.Uses [] _).covers (by decide)) fun _ _ => ?_
  refine .bind ((trace_uses _ : Session.Uses [] _).covers (by decide)) fun _ _ => .pure fun id => ?_
  simp only [CheckedDecl.types, List.mem_append, List.mem_cons]
  grind

private theorem finishAll_covers (bodies : List (Nat × Typed Ty)) (start : Nat) (declared : List DeclaredDecl) :
    Covers roots (finishAll bodies start declared) config before fun decls =>
      decls.flatMap CheckedDecl.types ++ roots := by
  induction declared generalizing start before roots with
  | nil => exact .pure fun _ => Iff.rfl
  | cons decl rest ih =>
    unfold finishAll
    split
    next => exact .fail
    next body _ =>
      refine .bind (finish_covers decl body) fun _ _ => .bind (ih _) fun _ _ => .pure fun id => ?_
      simp only [List.flatMap_cons, List.mem_append]
      grind

/-- From an empty store on, resolution leaves a store that the types of the program cover. -/
theorem resolveAll_covered {declared : List DeclaredDecl} {bodies : List (Nat × Typed Ty)} {program : Program}
    (empty : before.store = .empty) (run : resolveAll declared bodies config before = (.ok program, after)) :
    program.store.Covered program.types := by
  obtain ⟨_, reported, first, run⟩ := bind_ok run
  obtain ⟨_, _, second, run⟩ := bind_ok run
  cases second
  obtain ⟨_, shown, third, run⟩ := bind_ok run
  have alike := ((Quiet.trace _).result first).1.trans ((traceScope_quiet _).result third).1
  obtain ⟨_, _, fourth, run⟩ := bind_ok run
  cases fourth
  obtain ⟨checked, resolved, finished, run⟩ := bind_ok run
  obtain ⟨_, left, fifth, run⟩ := bind_ok run
  cases fifth
  cases run
  have covered : State.Covered { shown with memo := [] } [] := by
    refine ⟨?_, fun _ member => by cases member⟩
    change shown.store.Covered []
    rw [alike.store, empty]
    exact Store.covered_empty
  obtain ⟨table, _⟩ := finishAll_covers bodies 0 declared covered checked resolved finished
  simp only [List.append_nil] at table
  exact table

end Session

open Session

/-- Whatever a checker was used for before, the types of a program that it accepts are all in its store, and every
number of the store is that of such a type or is reached from one through the parts of arrows. The parts of a type have
smaller numbers than the type. -/
theorem accepted_store_reached (config : Config) (history : List (List (Option Decl))) (decls : List (Option Decl))
    (program : Program) (after : Checker)
    (run : ((Checker.new config).afterAll history).check decls = (.ok program, after)) :
    (∀ id ∈ program.types, id < program.store.size) ∧
      (∀ id, id < program.store.size → program.store.Reaches program.types id) ∧
      ∀ id entry, program.store.resolve id = .ok entry → ∀ part ∈ Store.parts entry, part < id := by
  obtain ⟨cache, _, run⟩ := ((Checker.Ready.new config).afterAll history).check_ok run
  obtain ⟨result, solved, elaborated, resolved⟩ := bind_ok run
  have empty := ((elaborateAll_uses (.refl _) decls).leaves elaborated).store (by decide)
  have covered := resolveAll_covered empty resolved
  refine ⟨covered.issued, covered.reached, fun id entry found => ?_⟩
  exact covered.valid.ordered id entry (Store.resolve_eq_ok.mp found)

/-- The second declaration has an arrow within an arrow, and a type of its own that is remembered from the first. -/
theorem accepted_store_reached_nested :
    let config : Config := ⟨id, .regular, false, false, 8⟩
    let decls : List (Option Decl) := [
      some ⟨"not", [], .arrow .bool .bool, .lam (.bind "x") (.name "x")⟩,
      some ⟨"twice", [], .arrow (.arrow .bool .bool) .wildcard,
        .lam (.bind "f") (.call (.name "f") (.call (.name "not") (.lit (some (.bool true)))))⟩]
    ∃ program after, ((Checker.new config).afterAll [[none]]).check decls = (.ok program, after) ∧
      program.store.size = 3 ∧ (∀ id ∈ program.types, id < program.store.size) ∧
      (∀ id, id < program.store.size → program.store.Reaches program.types id) ∧
      ∀ id entry, program.store.resolve id = .ok entry → ∀ part ∈ Store.parts entry, part < id := by
  intro config decls
  obtain ⟨program, after, run⟩ : ∃ program after,
      ((Checker.new config).afterAll [[none]]).check decls = (.ok program, after) :=
    Checker.exists_of_isOk (by decide +kernel)
  have size : (((Checker.new config).afterAll [[none]]).check decls).1.toOption.map (·.store.size) = some 3 := by
    decide +kernel
  rw [run] at size
  refine ⟨program, after, run, Option.some.inj size, ?_⟩
  exact accepted_store_reached config [[none]] decls program after run

end Checking

end RefinementTypes
