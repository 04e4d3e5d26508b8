import RefinementTypes.Proofs.Soundness

/-! Types of functions. A function is checked against a type that is an arrow, or is asked to be one where
it is not yet known. What it comes to in an accepted program is an arrow or what has been reported as an
error; where some expression is impossible it may also be the type of that, which fits anything. -/

namespace RefinementTypes

/-- A tree that may stand where a function is asked for. -/
def Ty.Functional (tree : Ty) : Prop := ∃ domain codomain, (arrow domain codomain).Admits tree

private theorem Ty.Functional.cases {tree : Ty} (functional : tree.Functional) :
    (∃ domain codomain, tree = arrow domain codomain) ∨ tree = atom .error ∨ tree = atom .bottom := by
  obtain ⟨domain, codomain, admits⟩ := functional
  cases admits with
  | refl => exact .inl ⟨domain, codomain, rfl⟩
  | bottom => exact .inr (.inr rfl)
  | errorFound => exact .inr (.inl rfl)
  | arrow => exact .inl ⟨_, _, rfl⟩

namespace Store

variable {store : Store} {id : TypeId}

private theorem resolve_of_unfold_atom {a : Atom} (same : store.unfold id = .atom a) :
    store.resolve id = .ok (.atom a) := by
  unfold unfold unfoldN at same
  unfold resolve
  split at same
  next found => cases same; rw [found]
  next => cases same
  next => cases same

private theorem resolve_of_unfold_arrow {first second : Ty} (same : store.unfold id = .arrow first second) :
    ∃ domain codomain, store.resolve id = .ok (.arrow domain codomain) := by
  unfold unfold unfoldN at same
  unfold resolve
  split at same
  next => cases same
  next domain codomain found =>
    rw [found]
    exact ⟨domain, codomain, rfl⟩
  next => cases same

end Store

namespace Checking

namespace Typed

variable {τ υ : Type}

def functions : Typed τ → List τ
  | lam type _ body => type :: body.functions
  | letElse _ _ bound thenBranch elseBranch => bound.functions ++ thenBranch.functions ++ elseBranch.functions
  | call _ func arg => func.functions ++ arg.functions
  | lit _ _ | name _ _ | impossible _ | invalid _ => []

private theorem functions_map (change : τ → υ) (typed : Typed τ) :
    (typed.map change).functions = typed.functions.map change := by
  induction typed with
  | lam _ _ _ body => simp [map, functions, body]
  | letElse _ _ _ _ _ first second third => simp [map, functions, first, second, third]
  | call _ _ _ first second => simp [map, functions, first, second]
  | lit | name | impossible | invalid => rfl

private theorem All.functions {property : τ → Prop} {typed : Typed τ} (all : typed.All property) :
    ∀ type ∈ typed.functions, property type := by
  induction typed with
  | lam _ _ _ body => exact List.forall_mem_cons.mpr ⟨all.1, body all.2⟩
  | letElse _ _ _ _ _ first second third =>
    simp only [Typed.functions, List.forall_mem_append]
    exact ⟨⟨first all.2.1, second all.2.2.1⟩, third all.2.2.2⟩
  | call _ _ _ first second => exact List.forall_mem_append.mpr ⟨first all.2.1, second all.2.2⟩
  | lit | name | impossible | invalid => exact fun _ member => by cases member

end Typed

namespace Session

variable {reading : Reading} {config : Config} {before : State}

/-- All functions in a checked expression have types that stand for trees of functions. -/
theorem elaborate_functions (expr : Expr) (expected : Option Ty) :
    Establishes reading (elaborate expr expected) config before fun typed =>
      ∀ type ∈ typed.functions, (type.image reading.trees).Functional := by
  induction expr, expected using elaborate_induction generalizing before with
  | anno expr type expected ih =>
    rw [elaborate]
    refine (settle_establishes _ _
      (.bind (.kept (lower_uses (.refl _) _ _) (by decide)) fun type _ _ => ?_)).imp fun _ => And.left
    exact (ih type).imp fun _ all _ => all
  | lam pat body type ih =>
    rw [elaborate]
    refine .bind (.locatedAt (splitFunction_establishes type)) ?_
    rintro ⟨domain, codomain⟩ _ _
    apply Establishes.keepingScope
    refine .bind (.locatedAt (bindPat_establishes pat domain)) fun pat' _ _ => ?_
    refine .bind (.locatedAt (ih codomain)) fun body' _ _ => .pure fun all _ admits => ?_
    -- The type was split into the parts of an arrow that admits it.
    exact List.forall_mem_cons.mpr ⟨⟨_, _, admits⟩, all⟩
  | letElse pat bound thenBranch elseBranch expected first second third =>
    rw [elaborate]
    refine .bind (.locatedAt first) fun bound' _ _ => .keepingScope ?_
    refine .bind (.locatedAt (bindPat_establishes pat bound'.type)) fun pat' _ _ => ?_
    refine .bind (.locatedAt second) fun then' _ _ => ?_
    refine .bind (.locatedAt (third then')) fun else' _ _ => .pure fun last middle _ early => ?_
    simp only [Typed.functions, List.forall_mem_append]
    exact ⟨⟨early, middle⟩, last⟩
  | call func arg expected first second =>
    rw [elaborate]
    refine (settle_establishes _ _ ?_).imp fun _ => And.left
    refine .bind (.locatedAt first) fun func' _ _ => .bind (.locatedAt (splitFunction_establishes _)) ?_
    rintro ⟨domain, codomain⟩ _ _
    refine .bind (.locatedAt (second domain)) fun arg' _ _ => .pure fun last _ early => ?_
    exact List.forall_mem_append.mpr ⟨early, last⟩
  | literal value type notBool notRegex =>
    rw [elaborate_literal type notBool notRegex]
    exact .bind (.locatedAt (conform_establishes _ _)) fun _ _ _ => .pure fun _ _ member => by cases member
  | literalFound value notBool notRegex =>
    rw [elaborate_literalFound notBool notRegex]
    exact .locatedAt .refuse
  | name label expected =>
    rw [elaborate]
    refine (settle_establishes _ _ (.of_uses (reference_uses (.refl _) label) (by decide) ?_)).imp fun _ => And.left
    intro typed _ run _ _ _ member
    obtain ⟨type, name, rfl⟩ := reference_name run
    cases member
  | bool | regex | impossible | invalid =>
    rw [elaborate]
    exact (settle_establishes _ _ (.pure fun _ member => by cases member)).imp fun _ => And.left
  | lamFound | op => rw [elaborate]; exact .locatedAt .refuse
  | absent | foreign => rw [elaborate]; exact .fault
  | missing => rw [elaborate]; exact .refuse

end Session

open Session

/-- Where no expression is impossible, none of the trees in a program is the type of an impossible one. -/
private theorem elaborateAll_proper {config : Config} {decls : List (Option Decl)} {cache : Regex.Cache}
    {declared : List DeclaredDecl} {bodies : List (Nat × Typed Ty)} {solved : State}
    (possible : ∀ decl, some decl ∈ decls → decl.body.ImpossibleFree)
    (run : elaborateAll decls config (.fresh cache) = (.ok (declared, bodies), solved)) :
    ∀ body ∈ bodies, ∀ type ∈ body.2.functions,
      (type.image (solved.subst.solution (.atom .error))).Over Ty.Proper 0 := by
  have within : Within Ty.Proper config decls :=
    .of_error (Ty.Proper.atom (by decide)) fun decl member => .inr (possible decl member)
  obtain ⟨_, allowed, _, all⟩ := (State.Over.fresh cache).elaborateAll within run
  have trees : ∀ id, (solved.subst.solution (.atom .error) id).Over Ty.Proper 0 :=
    Subst.solution_over (fun _ _ found => allowed.lookup found) (Ty.Proper.atom (by decide))
  intro body member type inside
  exact ((all body member).functions type inside).image trees

/-- Whatever a checker was used for before, every function in a program that it accepts has the type of a
function or one that was reported as an error; or, if some expression is impossible, the type of that. -/
theorem accepted_functions_typed (config : Config) (history : List (List (Option Decl)))
    (decls : List (Option Decl)) (program : Program) (after : Checker)
    (run : ((Checker.new config).afterAll history).check decls = (.ok program, after)) :
    ∀ decl ∈ program.decls, ∀ id ∈ decl.body.functions,
      (∃ domain codomain, program.store.resolve id = .ok (.arrow domain codomain)) ∨
      program.store.resolve id = .ok (.atom .error) ∨
      program.store.resolve id = .ok (.atom .bottom) ∧ ∃ decl, some decl ∈ decls ∧ ¬ decl.body.ImpossibleFree := by
  obtain ⟨cache, exact, run⟩ := ((Checker.Ready.new config).afterAll history).check_ok run
  obtain ⟨declared, bodies, solved, elaborated, _, solves, finished⟩ := checkDecls_ok run
  obtain ⟨_, back⟩ := elaborateAll_establishes (fun expr expected _ => elaborate_functions expr expected)
    decls exact _ _ elaborated
  intro decl member id inside
  obtain ⟨index, source, body, _, found, same⟩ := finished.bodies decl member
  have checked := mem_of_lookup_eq found
  -- Unfolded, the ids in the program are the trees that the types of the body stand for.
  have functions := congrArg Typed.functions same.body
  rw [Typed.functions_map, Typed.functions_map] at functions
  have inside' := List.mem_map_of_mem (f := program.store.unfold) inside
  rw [functions] at inside'
  obtain ⟨type, member', equal⟩ := List.mem_map.mp inside'
  have functional := (back solves).2 (index, body) checked type member'
  rcases functional.cases with ⟨first, second, tree⟩ | tree | tree
  · exact .inl (Store.resolve_of_unfold_arrow (equal.symm.trans tree))
  · exact .inr (.inl (Store.resolve_of_unfold_atom (equal.symm.trans tree)))
  · refine .inr (.inr ⟨Store.resolve_of_unfold_atom (equal.symm.trans tree), ?_⟩)
    refine Classical.byContradiction fun none => ?_
    have possible : ∀ decl, some decl ∈ decls → decl.body.ImpossibleFree := fun decl listed =>
      Classical.byContradiction fun impossible => none ⟨decl, listed, impossible⟩
    have proper := elaborateAll_proper possible elaborated (index, body) checked type member'
    change (type.image (solved.subst.solution (.atom .error))) = _ at tree
    rw [tree] at proper
    exact proper.1 rfl

/-- One function has an annotation, the other is passed to a name that was not declared. -/
theorem accepted_functions_typed_reported :
    let config : Config := ⟨id, .regular, true, false, 8⟩
    let decls : List (Option Decl) := [
      some ⟨"not", [], .arrow .bool .bool, .lam (.bind "x") (.name "x")⟩,
      some ⟨"use", [], .wildcard, .call (.name "nowhere") (.lam .wildcard (.name "not"))⟩]
    ∃ program after, ((Checker.new config).afterAll [[none]]).check decls = (.ok program, after) ∧
      ∀ decl ∈ program.decls, ∀ id ∈ decl.body.functions,
        (∃ domain codomain, program.store.resolve id = .ok (.arrow domain codomain)) ∨
        program.store.resolve id = .ok (.atom .error) ∨
        program.store.resolve id = .ok (.atom .bottom) ∧ ∃ decl, some decl ∈ decls ∧ ¬ decl.body.ImpossibleFree := by
  intro config decls
  obtain ⟨program, after, run⟩ : ∃ program after,
      ((Checker.new config).afterAll [[none]]).check decls = (.ok program, after) :=
    Checker.exists_of_isOk (by decide +kernel)
  exact ⟨program, after, run, accepted_functions_typed config [[none]] decls program after run⟩

/-- In either order, a function that is passed to one of unknown type comes to have the type of the
impossible expression beside it, and no error is reported. -/
theorem function_of_impossible_type :
    let truth : Expr := .lit (some (.bool true))
    let passed : Expr := .call (.name "f") (.lam .wildcard truth)
    let decls : List (Option Decl) := [
      some ⟨"f", [], .arrow .wildcard .wildcard, .lam (.bind "x") (.name "x")⟩,
      some ⟨"g", [], .bool, .letElse .wildcard (.letElse .wildcard truth .impossible passed) truth truth⟩]
    ∀ sourceOrder, ((Checker.new ⟨id, .regular, sourceOrder, false, 8⟩).check decls).1.toOption.map
      (fun program => program.decls.map fun decl =>
        (decl.name, decl.body.functions.map fun id => (program.store.resolve id).toOption)) =
      some [("f", [some (.arrow 0 0)]), ("g", [some (.atom .bottom)])] := by
  decide +kernel

end Checking

end RefinementTypes
