import RefinementTypes.Proofs.Agreement

/-! References to generic declarations. A declaration may be referred to before its own type is known; by the end
each reference has the type of the declaration with its parameters replaced, all at once. -/

namespace RefinementTypes

namespace Ty

/-- Where a type with its parameters replaced is a tree, the parameters may be taken to be replaced by trees. -/
theorem specialize_trees {params : List String} {replace : String → Ty} {type : Ty}
    (ground : (type.specialize params replace).Ground) :
    ∃ trees : String → Ty, (∀ name, (trees name).Ground) ∧
      type.specialize params replace = type.specialize params trees := by
  classical
  -- A parameter that the type does not mention may be replaced by anything.
  let trees (name : String) : Ty := if (replace name).Ground then replace name else .atom .bool
  have whole (name : String) : (trees name).Ground := by
    dsimp only [trees]
    split
    next tree => exact tree
    next => simp [Ground]
  refine ⟨trees, whole, ?_⟩
  induction type with
  | arrow domain codomain left right => simp only [specialize, left ground.1, right ground.2]
  | atom a =>
    cases a with
    | named name =>
      simp only [specialize] at ground ⊢
      split
      next inside =>
        rw [if_pos inside] at ground
        simp [trees, ground]
      next => rfl
    | bottom | bool | regex | range | string | error => rfl
  | var | missing => rfl

private theorem Over.present {type : Ty} {limit : Nat} (allowed : type.Over Solid limit) :
    type.Over (· ≠ missing) limit := by
  induction type with
  | arrow domain codomain left right => exact ⟨left allowed.1, right allowed.2⟩
  | atom | missing => exact allowed.2.2
  | var => exact allowed

end Ty

namespace Checking

namespace Typed

variable {τ υ : Type}

/-- The names that an expression refers to and does not bind, with the types that they have there. -/
def references (key : String → String) : Typed τ → List (String × τ)
  | lam _ pat body => (body.references key).filter fun entry => !pat.hides key entry.1
  | letElse _ pat bound thenBranch elseBranch =>
    bound.references key ++
      (thenBranch.references key ++ elseBranch.references key).filter fun entry => !pat.hides key entry.1
  | call _ func arg => func.references key ++ arg.references key
  | name type label => [(key label, type)]
  | lit _ _ | impossible _ | invalid _ => []

private theorem references_map (key : String → String) (change : τ → υ) (typed : Typed τ) :
    (typed.map change).references key = (typed.references key).map fun entry => (entry.1, change entry.2) := by
  induction typed with
  | lam type pat body ih => simp [map, references, ih, List.filter_map, Function.comp_def]
  | letElse type pat bound thenBranch elseBranch first second third =>
    simp [map, references, first, second, third, List.filter_map, Function.comp_def]
  | call type func arg first second => simp [map, references, first, second]
  | lit | name | impossible | invalid => rfl

private theorem All.references {property : τ → Prop} {key : String → String} {typed : Typed τ}
    (all : typed.All property) : ∀ entry ∈ typed.references key, property entry.2 := by
  induction typed with
  | lam type pat body ih =>
    intro entry member
    exact ih all.2 entry (List.mem_filter.mp member).1
  | letElse type pat bound thenBranch elseBranch first second third =>
    intro entry member
    rcases List.mem_append.mp member with member | member
    · exact first all.2.1 entry member
    rcases List.mem_append.mp (List.mem_filter.mp member).1 with member | member
    · exact second all.2.2.1 entry member
    · exact third all.2.2.2 entry member
  | call type func arg first second =>
    intro entry member
    rcases List.mem_append.mp member with member | member
    · exact first all.2.1 entry member
    · exact second all.2.2 entry member
  | name type label =>
    intro entry member
    cases List.mem_singleton.mp member
    exact all
  | lit | impossible | invalid => intro entry member; cases member

end Typed

private theorem Env.extend_of_not_hides {env : Env} {config : Config} {pat : Pat} {type : Ty} {name : String}
    (free : (pat.normalized config.normalize).hides config.normalize name = false) :
    env.extend config.key pat type name = env name := by
  cases pat with
  | bind label =>
    simp only [Pat.normalized, Pat.hides, decide_eq_false_iff_not] at free
    exact if_neg (Ne.symm free)
  | wildcard | lit | constructor | apply | missing | foreign => rfl

/-- By the rules, a reference has a type that the template of its name yields. -/
theorem Elaborates.references {config : Config} {env : Env} {expected : Bool} {expr : Expr} {tree : Typed Ty}
    (elaborates : Elaborates config env expected expr tree) :
    ∀ entry ∈ tree.references config.normalize, ∃ template, env entry.1 = some template ∧ template.Yields entry.2 := by
  induction elaborates with
  | anno _ _ _ ih => exact ih
  | lam _ _ ih =>
    intro entry member
    obtain ⟨member, free⟩ := List.mem_filter.mp member
    obtain ⟨template, found, yields⟩ := ih entry member
    rw [Env.extend_of_not_hides (by simpa using free)] at found
    exact ⟨template, found, yields⟩
  | letElse _ _ _ _ _ _ first second third =>
    intro entry member
    rcases List.mem_append.mp member with member | member
    · exact first entry member
    obtain ⟨member, free⟩ := List.mem_filter.mp member
    have inside := (List.mem_append.mp member).elim (second entry) (third entry)
    obtain ⟨template, found, yields⟩ := inside
    rw [Env.extend_of_not_hides (by simpa using free)] at found
    exact ⟨template, found, yields⟩
  | call _ _ _ _ first second =>
    intro entry member
    exact (List.mem_append.mp member).elim (first entry) (second entry)
  | name declared yields =>
    intro entry member
    cases List.mem_singleton.mp member
    exact ⟨_, declared, yields⟩
  | bool | regex | lit => intro entry member; cases member

open Session

/-- Whatever a checker was used for before, in a program that it accepts every reference has the type of the
declaration that it refers to with the parameters of that declaration replaced by trees, be the type of the
declaration found before or after the reference was checked. The program must contain nothing impossible and
nothing that has been reported, and must refer to declared names only. -/
theorem accepted_references_instances (config : Config) (history : List (List (Option Decl)))
    (decls : List (Option Decl)) (program : Program) (after : Checker) (within : Within Ty.Solid config decls)
    (run : ((Checker.new config).afterAll history).check decls = (.ok program, after)) :
    ∀ decl ∈ program.decls, ∀ entry ∈ decl.body.references config.normalize,
      ∃ template, program.context config entry.1 = some template ∧
        template.Instance (program.store.unfold entry.2) := by
  obtain ⟨cache, exact, run⟩ := ((Checker.Ready.new config).afterAll history).check_ok run
  obtain ⟨⟨declared, bodies⟩, solved, elaborated, resolved⟩ := bind_ok run
  obtain ⟨acyclic, begun⟩ := elaborateAll_exact elaborated
  have facts := (elaborateAll_ok rfl elaborated).1
  have agrees := acyclic.solution_agrees (.atom .bool)
  have finished := resolveAll_finished acyclic begun agrees resolved
  have solid : (Ty.atom .bool).Over Ty.Solid 0 := by simp [Ty.Solid]
  have typing := elaborateAll_typing exact within elaborated solid
  obtain ⟨_, allowed, _, all⟩ := (State.Over.fresh cache).elaborateAll within elaborated
  have trees := Subst.solution_over (fun _ _ found => allowed.lookup found) solid
  intro decl member entry inside
  obtain ⟨index, source, body, placed, checked, same⟩ := finished.bodies decl member
  -- The numbers in the body stand for the trees that the rules give it.
  have tree : decl.body.map program.store.unfold = treeAt (solved.subst.solution (.atom .bool)) bodies index := by
    rw [same.body, treeAt, checked, Option.getD_some]
  have inside' : (entry.1, program.store.unfold entry.2) ∈
      (decl.body.map program.store.unfold).references config.normalize := by
    rw [Typed.references_map]
    exact List.mem_map_of_mem inside
  have ground : (program.store.unfold entry.2).Ground := by
    have whole := (all _ (mem_of_lookup_eq checked)).imp fun _ fits => (fits.image trees).present
    rw [same.body] at inside'
    exact (Typed.all_map whole).references _ inside'
  obtain ⟨elaborates, _⟩ := typing.bodies index (source.entry _) (by rw [List.getElem?_map, placed]; rfl)
  rw [tree] at inside'
  obtain ⟨template, found, replace, _, yields⟩ := elaborates.references _ inside'
  refine ⟨template, ?_, ?_⟩
  · rw [context_eq facts finished, ← facts.scope]
    rw [← facts.env] at found
    exact found
  · replace yields : program.store.unfold entry.2 = _ := yields
    rw [yields] at ground ⊢
    exact Ty.specialize_trees ground

/-- The result of a generic function is found only after it was used in two ways. -/
theorem accepted_references_instances_deferred :
    let config : Config := ⟨id, .regular, true, false, 8⟩
    let decls : List (Option Decl) := [
      some ⟨"flag", [], .bool, .call (.name "same") (.lit (some (.bool true)))⟩,
      some ⟨"text", [], .string "a+", .call (.name "same") (.lit (some (.string "aa")))⟩,
      some ⟨"same", ["a"], .arrow (.named "a") .wildcard, .lam (.bind "x") (.name "x")⟩]
    ∃ program after, ((Checker.new config).afterAll [[none]]).check decls = (.ok program, after) ∧
      ∀ decl ∈ program.decls, ∀ entry ∈ decl.body.references config.normalize,
        ∃ template, program.context config entry.1 = some template ∧
          template.Instance (program.store.unfold entry.2) := by
  intro config decls
  obtain ⟨program, after, run⟩ : ∃ program after,
      ((Checker.new config).afterAll [[none]]).check decls = (.ok program, after) :=
    Checker.exists_of_isOk (by decide +kernel)
  have within : Within Ty.Solid config decls := by
    constructor
    · simp [decls, TypeExpr.Within]
    · simp [decls, Expr.Within]
    · simp [decls, Expr.freeNames, Pat.hides, Config.key, config]
  exact ⟨program, after, run, accepted_references_instances config [[none]] decls program after within run⟩

end Checking

end RefinementTypes
