import Mathlib.Data.List.Nodup
import RefinementTypes.Proofs.Soundness
import RefinementTypes.Proofs.Ownership

/-! Parameters stay within their declarations. The types of a program that is accepted mention only the
parameters of the declarations that they are types of, provided that no declaration with parameters takes
part in a type that another one without parameters leaves to be found. -/

namespace RefinementTypes.Checking

/-- Declarations name only their own parameters in what they write. -/
structure NamesOwn (config : Config) (decls : List (Option Decl)) : Prop where
  types : ∀ decl, some decl ∈ decls → decl.type.NamesIn config.normalize (decl.params.map config.normalize)
  bodies : ∀ decl, some decl ∈ decls →
    decl.body.Annotated (·.NamesIn config.normalize (decl.params.map config.normalize))

/-- Where a declaration with parameters refers to one without, the latter leaves no part of its type to be
found. -/
def KeepsApart (config : Config) (decls : List (Option Decl)) : Prop :=
  ∀ decl, some decl ∈ decls → decl.params ≠ [] → ∀ other, some other ∈ decls → other.params = [] →
    config.key other.name ∈ decl.body.freeNames config.key → other.type.WildcardFree

namespace Session

variable {config : Config} {before after : State} {owner : Owner}

private theorem declareAll_owned (owned : before.Owned owner) {named : List NamedDecl}
    (own : ∀ decl ∈ named, decl.decl.type.NamesIn config.normalize (decl.decl.params.map config.normalize)) :
    Runs ownership (declareAll named) config owner before fun later declared =>
      ∀ decl ∈ declared, decl.type.Belongs later (decl.decl.params.map config.normalize) := by
  induction named generalizing before owner with
  | nil => exact .pure owned fun _ member => by cases member
  | cons decl rest ih =>
    obtain ⟨first, others⟩ := List.forall_mem_cons.mp own
    refine .bind ((Quiet.enterDecl _).owned owned) fun _ _ _ _ _ _ owned _ => ?_
    refine .bind (lower_owned owned .immutable first) fun type _ _ _ _ _ owned belongs => ?_
    refine .bind ((generalize_quiet _ type).owned owned) fun template _ _ _ _ kept owned' _ => ?_
    replace belongs := belongs.mono (owned.more kept)
    refine .bind ((declare_uses (.refl _) _ template).owned owned' (by decide)) fun _ _ _ _ _ kept owned _ => ?_
    replace belongs := belongs.mono (owned'.more kept)
    refine .bind ((Quiet.trace _).owned owned) fun _ _ _ _ _ kept owned' _ => ?_
    replace belongs := belongs.mono (owned.more kept)
    refine .bind (ih owned' others) fun declared _ _ _ _ kept owned belong => .pure owned ?_
    exact List.forall_mem_cons.mpr ⟨belongs.mono (owned'.more kept), belong⟩

private theorem define_owned (owned : before.Owned owner) {declared : DeclaredDecl} {params : List String}
    (annotated : declared.decl.body.Annotated (·.NamesIn config.normalize params))
    (usable : Usable owner params before.scope (declared.decl.body.freeNames config.key))
    (belongs : declared.type.Belongs owner params) :
    Runs ownership (define declared) config owner before fun _ _ => True := by
  refine .bind ((Quiet.enterDecl _).owned owned) fun _ _ _ entered _ kept owned' _ => ?_
  refine .bind ((Quiet.trace _).owned owned') fun _ _ later reported _ kept' owned'' _ => .withinDecl ?_
  have alike := ((Quiet.enterDecl _).result entered).1.trans ((Quiet.trace _).result reported).1
  have usable' := ((usable.later owned kept).later owned' kept').same alike.scope
  have belongs' := (belongs.mono (owned.more kept)).mono (owned'.more kept')
  have expected : ∀ type ∈ some (declared.type.setMutability .mutable), type.Belongs later params := by
    rintro _ ⟨⟩
    exact Ty.belongs_setMutability.mpr belongs'
  have checking := elaborate_owned owned'' _ _ annotated usable' expected
  refine .bind (.keepingScope checking fun _ _ _ _ owned => owned.same rfl rfl rfl) fun _ _ _ _ _ _ owned _ => ?_
  exact .bind (solve_owned owned false) fun _ _ _ _ _ _ owned _ => .pure owned trivial

private theorem defineAll_owned (owned : before.Owned owner) {declared : List DeclaredDecl} (order : List Nat)
    (annotated : ∀ decl ∈ declared,
      decl.decl.body.Annotated (·.NamesIn config.normalize (decl.decl.params.map config.normalize)))
    (usable : ∀ decl ∈ declared, Usable owner (decl.decl.params.map config.normalize) before.scope
      (decl.decl.body.freeNames config.key))
    (belong : ∀ decl ∈ declared, decl.type.Belongs owner (decl.decl.params.map config.normalize)) :
    Runs ownership (defineAll declared order) config owner before fun _ _ => True := by
  induction order generalizing before owner with
  | nil => exact .pure owned trivial
  | cons index rest ih =>
    unfold defineAll
    split
    next => exact .fault trivial
    next decl found =>
      have member := List.mem_of_getElem? found
      refine .bind (define_owned owned (annotated decl member) (usable decl member) (belong decl member)) ?_
      intro body middle _ run _ kept owned' _
      have scope := ((define_uses (.refl _) decl).leaves run).scope (by decide)
      have usable' := fun decl member => ((usable decl member).later owned kept).same scope
      have belong' := fun decl member => (belong decl member).mono (owned.more kept)
      exact .bind (ih owned' usable' belong') fun _ _ _ _ _ _ owned _ => .pure owned trivial

/-- Once names have been declared, each declaration may refer to what it does refer to. -/
theorem Declared.usable {decls : List (Option Decl)} {declared : List DeclaredDecl} {state : State}
    (facts : Declared config decls declared state) (apart : KeepsApart config decls)
    (belong : ∀ decl ∈ declared, decl.type.Belongs owner (decl.decl.params.map config.normalize))
    {decl : DeclaredDecl} (member : decl ∈ declared) :
    Usable owner (decl.decl.params.map config.normalize) state.scope (decl.decl.body.freeNames config.key) := by
  intro name inside template found
  rw [facts.scope] at found
  obtain ⟨source, member', same⟩ := List.mem_map.mp (List.mem_reverse.mp (mem_of_lookup_eq found))
  cases same
  have belongs := belong source member'
  change (source.type.setMutability .immutable).Belongs owner _
  rw [Ty.belongs_setMutability]
  by_cases generic : source.decl.params = []
  · rw [generic, List.map_nil] at belongs
    simp only [generic, List.map_nil, List.isEmpty_nil, if_true]
    by_cases generic' : decl.decl.params = []
    · rw [generic', List.map_nil]
      exact belongs
    · -- A type that is written in full belongs to every declaration.
      rw [facts.names source member'] at inside
      have closed := facts.closed source member'
        (apart _ (facts.mem member) generic' _ (facts.mem member') generic inside)
      exact belongs.anywhere closed
  · simpa [generic] using belongs

private theorem prepare_owned (owned : before.Owned owner) {decls : List (Option Decl)} (own : NamesOwn config decls) :
    Runs ownership (prepare decls) config owner before fun later (declared, _) =>
      ∀ decl ∈ declared, decl.type.Belongs later (decl.decl.params.map config.normalize) := by
  refine .bind ((validate_quiet _ _).owned owned) fun named validated _ _ _ _ owned facts => ?_
  have types : ∀ decl ∈ named,
      decl.decl.type.NamesIn config.normalize (decl.decl.params.map config.normalize) := by
    intro decl member
    apply own.types
    rw [facts.1]
    exact List.mem_map_of_mem member
  refine .bind (declareAll_owned owned types) fun declared _ _ _ _ _ owned belong => ?_
  refine .bind ((Quiet.trace _).owned owned) fun _ _ _ _ _ kept owned' _ => ?_
  refine .bind ((checkingOrder_quiet _).owned owned') fun order _ _ _ _ kept' owned'' _ => .pure owned'' ?_
  exact fun decl member => ((belong decl member).mono (owned.more kept)).mono (owned'.more kept')

private theorem elaborateAll_owned (owned : before.Owned owner) (empty : before.scope = .empty)
    {decls : List (Option Decl)} (own : NamesOwn config decls) (apart : KeepsApart config decls) :
    Runs ownership (elaborateAll decls) config owner before fun later (declared, _) =>
      ∀ decl ∈ declared, decl.type.Belongs later (decl.decl.params.map config.normalize) := by
  refine .bind (prepare_owned owned own) ?_
  rintro ⟨declared, order⟩ ready later run _ _ owned' belong
  have facts := (prepare_readied run).declared empty
  have usable := fun decl (member : decl ∈ declared) => facts.usable apart belong member
  have annotated := fun decl (member : decl ∈ declared) => own.bodies _ (facts.mem member)
  -- What follows keeps the declarations that variables belong to.
  refine Runs.imp (?_ : Runs ownership _ config later ready fun _ result => result.1 = declared) ?_
  · refine .bind (defineAll_owned owned' order annotated usable belong) fun _ _ _ _ _ _ owned _ => ?_
    refine .bind ((Quiet.enterDecl _).owned owned) fun _ _ _ _ _ _ owned _ => ?_
    exact .bind (solve_owned owned true) fun _ _ _ _ _ _ owned _ => .pure owned rfl
  · rintro last ⟨_, bodies⟩ kept rfl decl member
    exact (belong decl member).mono (owned'.more kept)

private theorem validate_distinct (seen : List String) (decls : List (Option Decl)) :
    Quiet (validate seen decls) config before fun named =>
      (named.map NamedDecl.name).Nodup ∧ ∀ decl ∈ named, decl.name ∉ seen := by
  induction decls generalizing seen before with
  | nil => exact .pure ⟨.nil, fun _ member => by cases member⟩
  | cons decl rest ih =>
    cases decl with
    | none => exact .fail
    | some decl =>
      refine .bind (normalize_quiet decl.name) fun name _ _ => ?_
      dsimp only
      split
      next => exact .bind .fail fun _ _ => False.elim
      next new =>
        apply Quiet.asking
        split
        next => exact .fail
        next =>
          split
          next => exact .fail
          next =>
            refine .bind (ih _) fun others _ facts => .pure ⟨?_, ?_⟩
            · rw [List.map_cons, List.nodup_cons]
              refine ⟨fun member => ?_, facts.1⟩
              obtain ⟨other, inside, same⟩ := List.mem_map.mp member
              exact facts.2 other inside (same ▸ List.mem_cons_self)
            · refine List.forall_mem_cons.mpr ⟨by simpa using new, fun other inside seen => ?_⟩
              exact facts.2 other inside (List.mem_cons_of_mem _ seen)

theorem paramsOf_declared {decls : List (Option Decl)} {declared : List DeclaredDecl} {state : State}
    (facts : Declared config decls declared state) (distinct : (declared.map (·.name)).Nodup)
    (stable : ∀ decl ∈ declared, config.normalize decl.name = decl.name) {decl : DeclaredDecl}
    (member : decl ∈ declared) : paramsOf config state decl.name = decl.decl.params.map config.normalize := by
  rw [paramsOf, facts.scope]
  cases found : (declared.map (signature config)).reverse.lookup (config.normalize decl.name) with
  | none =>
    have absent := List.lookup_eq_none_iff.mp found (signature config decl)
      (List.mem_reverse.mpr (List.mem_map_of_mem member))
    simp [signature] at absent
  | some template =>
    obtain ⟨source, member', same⟩ := List.mem_map.mp (List.mem_reverse.mp (mem_of_lookup_eq found))
    rw [signature, Prod.mk.injEq, stable source member', stable decl member] at same
    cases List.inj_on_of_nodup_map distinct member' member same.1
    rw [← same.2]
    rfl

theorem elaborateAll_distinct {decls : List (Option Decl)} {declared : List DeclaredDecl}
    {bodies : List (Nat × Typed Ty)} (run : elaborateAll decls config before = (.ok (declared, bodies), after)) :
    (declared.map (·.name)).Nodup := by
  obtain ⟨_, _, _, prepared, _⟩ := elaborateAll_phases run
  obtain ⟨named, _, _, first, second, _⟩ := prepare_ok prepared
  obtain ⟨_, distinct, _⟩ := (validate_distinct _ _).result first
  rw [← (declareAll_ok second).1, List.map_map] at distinct
  exact distinct

end Session

open Session

/-- Whatever a checker was used for before, in a program that it accepts the type of a declaration mentions
only the parameters of that declaration: provided that declarations name only their own parameters, and
that those with parameters refer to no others that leave part of their types to be found. -/
theorem accepted_names_own_params (config : Config) (history : List (List (Option Decl)))
    (decls : List (Option Decl)) (program : Program) (after : Checker) (own : NamesOwn config decls)
    (apart : KeepsApart config decls)
    (stable : ∀ decl, some decl ∈ decls → config.key decl.name = config.normalize decl.name)
    (run : ((Checker.new config).afterAll history).check decls = (.ok program, after)) :
    ∀ decl ∈ program.decls, ∀ name ∈ (program.store.unfold decl.type).names, name ∈ decl.params := by
  obtain ⟨cache, _, run⟩ := ((Checker.Ready.new config).afterAll history).check_ok run
  obtain ⟨declared, bodies, solved, elaborated, facts, _, finished⟩ := checkDecls_ok run
  obtain ⟨_, owner, _, owned, belong⟩ :=
    (elaborateAll_owned (.fresh cache) rfl own apart).ends _ _ elaborated
  have stable' : ∀ decl ∈ declared, config.normalize decl.name = decl.name := by
    intro decl member
    rw [facts.names decl member]
    exact stable _ (facts.mem member)
  intro decl member name mentioned
  obtain ⟨_, source, _, placed, _, same⟩ := finished.bodies decl member
  have member' := List.mem_of_getElem? placed
  rw [same.params, paramsOf_declared facts (elaborateAll_distinct elaborated) stable' member']
  rw [same.type, Subst.image_solution owned.acyclic, Ty.names_image rfl] at mentioned
  exact (owned.apply (belong source member')).mem_params mentioned

/-- A function leaves the type of its result to be found. It is used with and without a parameter in
its place, together with a constant that has a type of its own. -/
theorem accepted_names_own_params_inferred :
    let config : Config := ⟨id, .regular, false, false, 8⟩
    let decls : List (Option Decl) := [
      some ⟨"pick", ["a"], .arrow (.named "a") .wildcard, .lam (.bind "x") (.name "x")⟩,
      some ⟨"flag", [], .bool, .lit (some (.bool true))⟩,
      some ⟨"use", [], .wildcard, .call (.name "pick") (.name "flag")⟩,
      some ⟨"choose", ["b"], .arrow (.named "b") .wildcard,
        .lam (.bind "y") (.letElse .wildcard (.name "flag") (.call (.name "pick") (.name "y")) (.name "y"))⟩]
    ∃ program after, ((Checker.new config).afterAll [[none]]).check decls = (.ok program, after) ∧
      ∀ decl ∈ program.decls, ∀ name ∈ (program.store.unfold decl.type).names, name ∈ decl.params := by
  intro config decls
  obtain ⟨program, after, run⟩ : ∃ program after,
      ((Checker.new config).afterAll [[none]]).check decls = (.ok program, after) :=
    Checker.exists_of_isOk (by decide +kernel)
  have own : NamesOwn config decls := by
    refine ⟨?_, ?_⟩
    · simp [decls, TypeExpr.NamesIn, config]
    · simp [decls, Expr.Annotated]
  have apart : KeepsApart config decls := by
    simp [KeepsApart, decls, Expr.freeNames, Pat.hides, Config.key, config, TypeExpr.WildcardFree]
  have stable : ∀ decl, some decl ∈ decls → config.key decl.name = config.normalize decl.name :=
    fun _ _ => rfl
  exact ⟨program, after, run, accepted_names_own_params config [[none]] decls program after own apart stable run⟩

/-- A function whose type is left to be found is called by another one with a value of its parameter. -/
def escaping : List Decl := [
  ⟨"g", [], .wildcard, .lam (.bind "x") (.lit (some (.bool true)))⟩,
  ⟨"f", ["a"], .arrow (.named "a") .bool, .lam (.bind "y") (.call (.name "g") (.name "y"))⟩]

/-- In either order, the function that is called comes to mention a parameter that it does not have. -/
theorem parameter_escapes :
    NamesOwn ⟨id, .regular, false, false, 8⟩ (escaping.map some) ∧
    ∀ sourceOrder, ((Checker.new ⟨id, .regular, sourceOrder, false, 8⟩).check (escaping.map some)).1.toOption.map
      (fun program => program.decls.map fun decl =>
        (decl.name, decl.params, (program.store.unfold decl.type).names)) =
      some [("g", [], ["a"]), ("f", ["a"], ["a"])] := by
  refine ⟨⟨?_, ?_⟩, ?_⟩
  · simp [escaping, TypeExpr.NamesIn]
  · simp [escaping, Expr.Annotated]
  · decide +kernel

end RefinementTypes.Checking
