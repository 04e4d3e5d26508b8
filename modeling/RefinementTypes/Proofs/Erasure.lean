import RefinementTypes.Proofs.Parameters
import RefinementTypes.Proofs.Typing

/-! Elaboration only adds types. What is checked is what was written, with names normalised and annotations left
out; a body with a form that has no rule is never accepted, wherever in the body it stands. -/

namespace RefinementTypes

def Pat.Supported : Pat → Prop
  | wildcard | bind _ | lit _ => True
  | constructor _ | apply _ _ | foreign _ | missing => False

namespace Expr

/-- An expression of forms that can be checked, in all its parts. -/
def Supported : Expr → Prop
  | anno expr _ => expr.Supported
  | lam pat body => pat.Supported ∧ body.Supported
  | letElse pat bound thenBranch elseBranch =>
    pat.Supported ∧ bound.Supported ∧ thenBranch.Supported ∧ elseBranch.Supported
  | call func arg => func.Supported ∧ arg.Supported
  | lit value => value.isSome
  | name _ | impossible | invalid => True
  | op _ _ | foreign _ | missing => False

mutual
/-- An expression without its annotations, and with its names normalised. -/
def stripped (normalize : String → String) : Expr → Expr
  | anno expr _ => expr.stripped normalize
  | lam pat body => lam (pat.normalized normalize) (body.stripped normalize)
  | letElse pat bound thenBranch elseBranch =>
    letElse (pat.normalized normalize) (bound.stripped normalize) (thenBranch.stripped normalize)
      (elseBranch.stripped normalize)
  | call func arg => call (func.stripped normalize) (arg.stripped normalize)
  | name label => name (normalize label)
  | op operator args => op operator (strippedAll normalize args)
  | lit value => lit value
  | impossible => impossible
  | invalid => invalid
  | foreign form => foreign form
  | missing => missing

def strippedAll (normalize : String → String) : List Expr → List Expr
  | [] => []
  | expr :: rest => expr.stripped normalize :: strippedAll normalize rest
end

end Expr

namespace Checking

namespace Typed

variable {τ υ : Type}

def erase : Typed τ → Expr
  | lam _ pat body => .lam pat body.erase
  | letElse _ pat bound thenBranch elseBranch => .letElse pat bound.erase thenBranch.erase elseBranch.erase
  | call _ func arg => .call func.erase arg.erase
  | lit _ value => .lit (some value)
  | name _ label => .name label
  | impossible _ => .impossible
  | invalid _ => .invalid

private theorem erase_map (change : τ → υ) (typed : Typed τ) : (typed.map change).erase = typed.erase := by
  induction typed with
  | lam type pat body ih => simp [map, erase, ih]
  | letElse type pat bound thenBranch elseBranch first second third => simp [map, erase, first, second, third]
  | call type func arg first second => simp [map, erase, first, second]
  | lit | name | impossible | invalid => rfl

end Typed

namespace Session

variable {config : Config} {before after : State}

/-- A checked expression is what was written, with types added. -/
def Adorns (config : Config) (expr : Expr) (typed : Typed Ty) : Prop :=
  expr.Supported ∧ typed.erase = expr.stripped config.normalize

private theorem settle_ok {expr : Expr} {expected : Option Ty} {step : Session (Typed Ty)} {typed : Typed Ty}
    (run : settle expr expected step config before = (.ok typed, after)) :
    ∃ middle, step config before = (.ok typed, middle) := by
  obtain ⟨result, middle, first, run⟩ := bind_ok run
  cases expected with
  | none =>
    cases run
    exact ⟨_, first⟩
  | some type =>
    obtain ⟨_, _, _, run⟩ := bind_ok run
    cases run
    exact ⟨middle, first⟩

theorem bindPat_supported {pat pat' : Pat} {type : Ty} (run : bindPat pat type config before = (.ok pat', after)) :
    pat.Supported := by
  cases pat with
  | wildcard | bind | lit => trivial
  | constructor | apply | foreign | missing => cases run

private theorem reference_adorns {label : String} {typed : Typed Ty}
    (run : reference label config before = (.ok typed, after)) : typed.erase = .name (config.normalize label) := by
  obtain ⟨name, _, normalized, run⟩ := bind_ok run
  cases normalized
  obtain ⟨found, _, _, run⟩ := bind_ok run
  cases found with
  | some template =>
    obtain ⟨_, _, _, run⟩ := bind_ok run
    cases run
    rfl
  | none =>
    obtain ⟨_, _, _, run⟩ := bind_ok run
    obtain ⟨_, _, _, run⟩ := bind_ok run
    cases run
    rfl

private theorem elaborate_adorns (expr : Expr) (expected : Option Ty) {typed : Typed Ty}
    (run : elaborate expr expected config before = (.ok typed, after)) : Adorns config expr typed := by
  induction expr, expected using elaborate_induction generalizing before after typed with
  | anno expr type expected ih =>
    rw [elaborate] at run
    obtain ⟨_, run⟩ := settle_ok run
    obtain ⟨lowered, _, _, run⟩ := bind_ok run
    exact ih lowered run
  | lam pat body type ih =>
    rw [elaborate] at run
    obtain ⟨⟨domain, codomain⟩, _, _, run⟩ := bind_ok run
    obtain ⟨_, run, _⟩ := keepingScope_ok run
    obtain ⟨pat', _, bound, run⟩ := bind_ok run
    obtain ⟨body', _, checked, run⟩ := bind_ok run
    cases run
    obtain ⟨supported, same⟩ := ih codomain (locatedAt_ok checked)
    refine ⟨⟨bindPat_supported (locatedAt_ok bound), supported⟩, ?_⟩
    simp [Typed.erase, Expr.stripped, same, bindPat_normalized (locatedAt_ok bound)]
  | letElse pat bound thenBranch elseBranch expected first second third =>
    rw [elaborate] at run
    obtain ⟨bound', _, checked, run⟩ := bind_ok run
    obtain ⟨_, run, _⟩ := keepingScope_ok run
    obtain ⟨pat', _, compared, run⟩ := bind_ok run
    obtain ⟨then', _, taken, run⟩ := bind_ok run
    obtain ⟨else', _, other, run⟩ := bind_ok run
    cases run
    obtain ⟨supported, same⟩ := first (locatedAt_ok checked)
    obtain ⟨supported', same'⟩ := second (locatedAt_ok taken)
    obtain ⟨supported'', same''⟩ := third then' (locatedAt_ok other)
    refine ⟨⟨bindPat_supported (locatedAt_ok compared), supported, supported', supported''⟩, ?_⟩
    simp [Typed.erase, Expr.stripped, same, same', same'', bindPat_normalized (locatedAt_ok compared)]
  | call func arg expected first second =>
    rw [elaborate] at run
    obtain ⟨_, run⟩ := settle_ok run
    obtain ⟨func', _, checked, run⟩ := bind_ok run
    obtain ⟨⟨domain, codomain⟩, _, _, run⟩ := bind_ok run
    obtain ⟨arg', _, checked', run⟩ := bind_ok run
    cases run
    obtain ⟨supported, same⟩ := first (locatedAt_ok checked)
    obtain ⟨supported', same'⟩ := second domain (locatedAt_ok checked')
    refine ⟨⟨supported, supported'⟩, ?_⟩
    simp [Typed.erase, Expr.stripped, same, same']
  | literal value type notBool notRegex =>
    rw [elaborate_literal type notBool notRegex] at run
    obtain ⟨_, _, _, run⟩ := bind_ok run
    cases run
    simp [Adorns, Expr.Supported, Typed.erase, Expr.stripped]
  | literalFound value notBool notRegex =>
    rw [elaborate_literalFound notBool notRegex] at run
    cases run
  | name label expected =>
    rw [elaborate] at run
    obtain ⟨_, run⟩ := settle_ok run
    refine ⟨trivial, ?_⟩
    rw [reference_adorns run, Expr.stripped]
  | bool | regex | impossible | invalid =>
    rw [elaborate] at run
    obtain ⟨_, run⟩ := settle_ok run
    cases run
    simp [Adorns, Expr.Supported, Typed.erase, Expr.stripped]
  | lamFound | op | absent | foreign | missing =>
    rw [elaborate] at run
    cases run

private theorem defineAll_each {claim : Expr → Typed Ty → Prop}
    (each : ∀ expr expected before typed after,
      elaborate expr expected config before = (.ok typed, after) → claim expr typed)
    {declared : List DeclaredDecl} {order : List Nat} {bodies : List (Nat × Typed Ty)}
    (run : defineAll declared order config before = (.ok bodies, after)) :
    ∀ entry ∈ bodies, ∃ decl, declared[entry.1]? = some decl ∧ claim decl.decl.body entry.2 := by
  induction order generalizing before after bodies with
  | nil =>
    cases run
    simp
  | cons index rest ih =>
    cases found : declared[index]? with
    | none =>
      rw [defineAll, found] at run
      cases run
    | some decl =>
      rw [defineAll, found] at run
      obtain ⟨body, _, defined, run⟩ := bind_ok run
      obtain ⟨others, _, later, run⟩ := bind_ok run
      cases run
      obtain ⟨_, _, _, defined⟩ := bind_ok defined
      obtain ⟨_, _, _, defined⟩ := bind_ok defined
      obtain ⟨body', _, checked, defined⟩ := bind_ok (withinDecl_ok defined)
      obtain ⟨_, _, _, defined⟩ := bind_ok defined
      cases defined
      obtain ⟨_, checked, _⟩ := keepingScope_ok checked
      intro entry member
      rcases List.mem_cons.mp member with rfl | member
      · exact ⟨decl, found, each _ _ _ _ _ checked⟩
      · exact ih later entry member

theorem elaborateAll_adorns {decls : List (Option Decl)} {declared : List DeclaredDecl}
    {bodies : List (Nat × Typed Ty)} (run : elaborateAll decls config before = (.ok (declared, bodies), after)) :
    ∀ entry ∈ bodies, ∃ decl, declared[entry.1]? = some decl ∧ Adorns config decl.decl.body entry.2 := by
  obtain ⟨_, _, _, _, defined, _⟩ := elaborateAll_phases run
  exact defineAll_each (fun expr expected _ _ _ checked => elaborate_adorns expr expected checked) defined

end Session

open Session

structure CheckedDecl.Adorns (config : Config) (source : Decl) (decl : CheckedDecl) : Prop where
  name : decl.name = config.normalize source.name
  params : decl.params = source.params.map config.normalize
  body : decl.body.erase = source.body.stripped config.normalize
  supported : source.body.Supported

/-- Whatever a checker was used for before, a program that it accepts has the declarations that were written, in
their order and under distinct names, and each of them differs from what was written by its types alone. -/
theorem accepted_adds_types (config : Config) (history : List (List (Option Decl)))
    (decls : List (Option Decl)) (program : Program) (after : Checker)
    (stable : ∀ decl, some decl ∈ decls → config.key decl.name = config.normalize decl.name)
    (run : ((Checker.new config).afterAll history).check decls = (.ok program, after)) :
    (∃ sources, decls = sources.map some ∧ List.Forall₂ (CheckedDecl.Adorns config) sources program.decls) ∧
      (program.decls.map (·.name)).Nodup ∧
      ∀ key, (program.context config key).isSome ↔ key ∈ program.decls.map (·.name) := by
  obtain ⟨cache, _, run⟩ := ((Checker.Ready.new config).afterAll history).check_ok run
  obtain ⟨declared, bodies, solved, elaborated, facts, _, finished⟩ := checkDecls_ok run
  have distinct := elaborateAll_distinct elaborated
  have stable' : ∀ decl ∈ declared, config.normalize decl.name = decl.name := by
    intro decl member
    rw [facts.names decl member]
    exact stable _ (facts.mem member)
  have names : program.decls.map (·.name) = declared.map (·.name) := by
    simpa [Function.comp_def] using congrArg (List.map Prod.fst) finished.signatures
  have keys : program.decls.map (fun decl => config.normalize decl.name) = program.decls.map (·.name) := by
    have again := congrArg (List.map config.normalize) names
    rw [List.map_map, List.map_map] at again
    exact (again.trans (List.map_congr_left stable')).trans names.symm
  refine ⟨⟨declared.map (·.decl), by rw [facts.listed, List.map_map]; rfl, ?_⟩, names ▸ distinct, ?_⟩
  · apply List.forall₂_iff_get.mpr
    refine ⟨by simpa using (congrArg List.length names).symm, ?_⟩
    intro index inside inside'
    obtain ⟨source, body, placed, found, same⟩ := finished.places index _ (List.getElem?_eq_getElem inside')
    have member := List.mem_of_getElem? placed
    rw [Nat.zero_add] at found
    obtain ⟨decl, placed', supported, erased⟩ := elaborateAll_adorns elaborated _ (mem_of_lookup_eq found)
    cases placed.symm.trans placed'
    have written : (declared.map (·.decl)).get ⟨index, inside⟩ = source.decl := by
      obtain ⟨_, same⟩ := List.getElem?_eq_some_iff.mp placed
      simp [same]
    rw [written]
    constructor
    · exact same.name.trans (facts.names source member)
    · exact same.params.trans (paramsOf_declared facts distinct stable' member)
    · have bare := congrArg Typed.erase same.body
      rw [Typed.erase_map, Typed.erase_map] at bare
      exact bare.trans erased
    · exact supported
  · intro key
    rw [← keys, Program.context, List.lookup_isSome_iff]
    simp [eq_comm (a := key)]

/-- A function is annotated inside its body, and called under another spelling of its name before it is defined. -/
theorem accepted_adds_types_annotated :
    let config : Config := ⟨fun label => if label = "Same" then "same" else label, .regular, true, false, 8⟩
    let decls : List (Option Decl) := [
      some ⟨"use", [], .wildcard, .letElse (.bind "x") (.lit (some (.bool true)))
        (.anno (.name "x") .bool) (.call (.name "Same") (.name "x"))⟩,
      some ⟨"Same", ["a"], .arrow (.named "a") (.named "a"), .anno (.lam (.bind "x") (.name "x")) .wildcard⟩]
    ∃ program after, ((Checker.new config).afterAll [[none]]).check decls = (.ok program, after) ∧
      ((∃ sources, decls = sources.map some ∧ List.Forall₂ (CheckedDecl.Adorns config) sources program.decls) ∧
        (program.decls.map (·.name)).Nodup ∧
        ∀ key, (program.context config key).isSome ↔ key ∈ program.decls.map (·.name)) := by
  intro config decls
  obtain ⟨program, after, run⟩ : ∃ program after,
      ((Checker.new config).afterAll [[none]]).check decls = (.ok program, after) :=
    Checker.exists_of_isOk (by decide +kernel)
  have stable : ∀ decl, some decl ∈ decls → config.key decl.name = config.normalize decl.name := by
    simp [decls, config, Config.key]
  exact ⟨program, after, run, accepted_adds_types config [[none]] decls program after stable run⟩

end Checking

end RefinementTypes
