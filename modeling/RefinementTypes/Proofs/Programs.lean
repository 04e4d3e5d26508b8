import RefinementTypes.Proofs.Phases
import RefinementTypes.Proofs.Coverage
import RefinementTypes.Proofs.Completeness

/-! Types of whole programs. What checking finds for the declarations of a program follows the typing
rules; and what follows the typing rules is found, in whichever order bodies are checked, unless checking
stops short. -/

namespace RefinementTypes

namespace Checking

/-- What the names of declarations stand for if these have the given types; of two declarations of one
name the last counts. -/
def Env.declaring (config : Config) (entries : List (Decl × Ty)) : Env := fun key =>
  (entries.map fun (decl, type) =>
    (config.key decl.name, Template.mk (decl.params.map config.normalize) type)).reverse.lookup key

/-- Types for a program: one for each declaration, which its annotation allows, and a tree for each body
by the rules, where all names have their types. -/
structure Typing (config : Config) (entries : List (Decl × Ty)) (trees : Nat → Typed Ty) : Prop where
  definite : ∀ entry ∈ entries, entry.2.Definite
  denotes : ∀ entry ∈ entries, entry.1.type.Denotes config.normalize entry.2
  bodies : ∀ index entry, entries[index]? = some entry →
    Elaborates config (.declaring config entries) true entry.1.body (trees index) ∧ (trees index).type = entry.2

/-- The type that a declaration has under an assignment. -/
def DeclaredDecl.entry (assigned : Assignment) (declared : DeclaredDecl) : Decl × Ty :=
  (declared.decl, declared.type.image assigned)

namespace Session

variable {config : Config} {before after : State} {assigned : Assignment}

theorem Declared.env {decls : List (Option Decl)} {declared : List DeclaredDecl} {state : State}
    (facts : Declared config decls declared state) (assigned : Assignment) :
    Env.of assigned state.scope = .declaring config (declared.map (·.entry assigned)) := by
  funext key
  rw [Env.of, facts.scope, ← lookup_mapSnd, List.map_reverse, List.map_map, Env.declaring, List.map_map]
  congr 2
  refine List.map_congr_left fun decl member => ?_
  simp only [Function.comp_apply, signature, DeclaredDecl.entry, Config.key, facts.names decl member,
    Ty.image_setMutability]

section Found

variable (definite : ∀ id, (assigned id).Definite)

private theorem define_sound (allowed : before.Over Ty.Solid) {declared : DeclaredDecl}
    (within : declared.decl.body.Within Ty.Solid)
    (known : Known Ty.Solid before.scope (declared.decl.body.freeNames config.key))
    (valid : declared.type.Over Ty.Solid before.nextVar) :
    Establishes (.exactly assigned definite) (define declared) config before fun body =>
      Elaborates config (.of assigned before.scope) true declared.decl.body (body.map (·.image assigned)) ∧
        body.type.image assigned = declared.type.image assigned := by
  refine .bind (Quiet.enterDecl _).establishes fun _ entered first => ?_
  refine .bind .trace fun _ ready second => .withinDecl ?_
  have alike := ((Quiet.enterDecl _).result first).1.trans ((Quiet.trace _).result second).1
  have expected : ∀ type ∈ some (declared.type.setMutability .mutable), type.Over Ty.Solid ready.nextVar := by
    rintro _ ⟨⟩
    rw [alike.nextVar]
    exact Ty.over_setMutability.mpr valid
  have checking := elaborate_sound definite (allowed.alike alike) _ _ within (known.same alike.scope) expected
  refine .bind (.keepingScope checking) fun body _ _ => .bind (solve_establishes false) fun _ _ _ => ?_
  refine .pure fun _ typing _ _ => ?_
  have same := typing.2 _ rfl
  rw [Ty.image_setMutability] at same
  rw [← alike.scope]
  exact ⟨typing.1, same.symm⟩

private theorem defineAll_sound (allowed : before.Over Ty.Solid) {declared : List DeclaredDecl} (order : List Nat)
    (within : ∀ decl ∈ declared, decl.decl.body.Within Ty.Solid)
    (known : ∀ decl ∈ declared, Known Ty.Solid before.scope (decl.decl.body.freeNames config.key))
    (valid : ∀ decl ∈ declared, decl.type.Over Ty.Solid before.nextVar) :
    Establishes (.exactly assigned definite) (defineAll declared order) config before fun bodies =>
      ∀ body ∈ bodies, ∃ decl, declared[body.1]? = some decl ∧
        Elaborates config (.of assigned before.scope) true decl.decl.body (body.2.map (·.image assigned)) ∧
        body.2.type.image assigned = decl.type.image assigned := by
  induction order generalizing before with
  | nil => exact .pure fun _ member => by cases member
  | cons index rest ih =>
    unfold defineAll
    split
    next => exact .fault
    next decl found =>
      have member := List.mem_of_getElem? found
      have within' := within decl member
      have known' := known decl member
      have valid' := valid decl member
      refine .bind (define_sound definite allowed within' known' valid') fun body middle run => ?_
      obtain ⟨issued, allowed', _⟩ := allowed.define within' known' valid' run
      have scope := ((define_uses (.refl _) decl).leaves run).scope (by decide)
      have others := ih allowed' (fun decl member => (known decl member).same scope) fun decl member =>
        (valid decl member).mono issued
      refine .bind others fun bodies _ _ => .pure fun all first => ?_
      rw [scope] at all
      exact List.forall_mem_cons.mpr ⟨⟨decl, found, first⟩, all⟩

private theorem declareAll_denotes (assigned : Assignment) {named : List NamedDecl} {declared : List DeclaredDecl}
    (within : ∀ decl ∈ named, decl.decl.type.Within Ty.Solid)
    (run : declareAll named config before = (.ok declared, after)) :
    ∀ decl ∈ declared, decl.decl.type.Denotes config.normalize (decl.type.image assigned) := by
  induction named generalizing declared before with
  | nil =>
    cases run
    exact fun _ member => by cases member
  | cons decl rest ih =>
    obtain ⟨here, others⟩ := List.forall_mem_cons.mp within
    obtain ⟨_, _, _, run⟩ := bind_ok run
    obtain ⟨type, _, lowered, run⟩ := bind_ok run
    obtain ⟨_, _, _, run⟩ := bind_ok run
    obtain ⟨_, _, _, run⟩ := bind_ok run
    obtain ⟨_, _, _, run⟩ := bind_ok run
    obtain ⟨rest', _, again, run⟩ := bind_ok run
    cases run
    exact List.forall_mem_cons.mpr ⟨lower_denotes assigned here lowered, ih others again⟩

private theorem prepare_denotes (assigned : Assignment) {decls : List (Option Decl)} {declared : List DeclaredDecl}
    {order : List Nat} (within : Within Ty.Solid config decls)
    (run : prepare decls config before = (.ok (declared, order), after)) :
    ∀ decl ∈ declared, decl.decl.type.Denotes config.normalize (decl.type.image assigned) := by
  obtain ⟨named, validated, known, first, second, _, _⟩ := prepare_ok run
  obtain ⟨_, listed, _⟩ := (validate_quiet _ _).result first
  refine declareAll_denotes assigned (fun decl member => within.types _ ?_) second
  rw [listed]
  exact List.mem_map_of_mem member

/-- What elaboration finds are types for the program. -/
theorem elaborateAll_sound (allowed : before.Over Ty.Solid) (empty : before.scope = .empty)
    {decls : List (Option Decl)} (within : Within Ty.Solid config decls) :
    Establishes (.exactly assigned definite) (elaborateAll decls) config before fun (declared, bodies) =>
      ∀ trees : Nat → Typed Ty,
        (∀ index body, bodies.lookup index = some body → trees index = body.map (·.image assigned)) →
          Typing config (declared.map (·.entry assigned)) trees := by
  refine .bind (.kept (prepare_uses (.refl _) decls) (by decide)) ?_
  rintro ⟨declared, order⟩ ready run
  have readied := prepare_readied run
  have facts := readied.declared empty
  have denotes := prepare_denotes assigned within run
  obtain ⟨_, allowed', valid⟩ := allowed.prepare within run
  have checking := defineAll_sound definite allowed' order
    (fun decl (member : decl ∈ declared) => within.bodies _ (facts.mem member)) (readied.known within) valid
  refine .bind checking fun bodies _ checked => .bind (Quiet.enterDecl _).establishes fun _ _ _ => ?_
  refine .bind (solve_establishes true) fun _ _ _ => .pure fun _ _ typed _ trees same => ⟨?_, ?_, ?_⟩
  · intro entry member
    obtain ⟨decl, inside, rfl⟩ := List.mem_map.mp member
    exact (valid decl inside).definite.image definite
  · intro entry member
    obtain ⟨decl, inside, rfl⟩ := List.mem_map.mp member
    exact denotes decl inside
  · -- Every declaration has a place in the order, so its body was checked.
    intro index entry placed
    rw [List.getElem?_map, Option.map_eq_some_iff] at placed
    obtain ⟨decl, placed, rfl⟩ := placed
    obtain ⟨body, found⟩ := defineAll_lookup readied.order checked placed
    obtain ⟨source, placed', typing, result⟩ := typed (index, body) (mem_of_lookup_eq found)
    cases placed.symm.trans placed'
    rw [same index body found, Typed.type_map, ← facts.env assigned]
    exact ⟨typing, result⟩

end Found

section Sought

private theorem traceRecursion_runs (meets : before.Meets config assigned) (components : List (List Nat)) :
    Runs (solutions config) (traceRecursion components) config assigned before fun _ _ => True := by
  induction components generalizing before assigned with
  | nil => exact .pure meets trivial
  | cons component rest ih =>
    unfold traceRecursion
    dsimp only
    split
    next => exact .bind (trace_runs meets _) fun _ _ _ _ _ _ meets _ => ih meets
    next => exact ih meets

private theorem checkingOrder_runs (meets : before.Meets config assigned) {decls : List Decl}
    (analysed : (Dependencies.analyze config.normalize decls).problem = none) :
    Runs (solutions config) (checkingOrder decls) config assigned before fun _ _ => True := by
  apply Runs.asking
  split
  next => exact .pure meets trivial
  next =>
    simp only [analysed]
    exact .bind (traceRecursion_runs meets _) fun _ _ _ _ _ _ meets _ => .pure meets trivial

private theorem enterDecl_runs (meets : before.Meets config assigned) (name : String) :
    Runs (solutions config) (enterDecl name) config assigned before fun _ _ => True :=
  (Quiet.enterDecl name).runs meets rfl

/-- Names can be declared so that they have given types, if these are allowed by the annotations. -/
theorem declareAll_runs (meets : before.Meets config assigned) {named : List NamedDecl} {entries : List (Decl × Ty)}
    (listed : named.map NamedDecl.decl = entries.map Prod.fst) (definite : ∀ entry ∈ entries, entry.2.Definite)
    (denotes : ∀ entry ∈ entries, entry.1.type.Denotes config.normalize entry.2) :
    Runs (solutions config) (declareAll named) config assigned before fun later declared =>
      declared.map (·.entry later) = entries := by
  induction named generalizing before assigned entries with
  | nil =>
    cases entries with
    | nil => exact .pure meets rfl
    | cons entry rest => cases listed
  | cons decl rest ih =>
    cases entries with
    | nil => cases listed
    | cons entry others =>
      obtain ⟨here, there⟩ := List.cons.inj listed
      obtain ⟨definite, definite'⟩ := List.forall_mem_cons.mp definite
      obtain ⟨denotes, denotes'⟩ := List.forall_mem_cons.mp denotes
      rw [← here] at denotes
      refine .bind (enterDecl_runs meets _) fun _ _ _ _ _ _ meets _ => ?_
      refine .bind (lower_runs meets .immutable definite denotes) fun type _ later lowered _ _ meets' same => ?_
      have fits :=
        (meets.allowed.keeps (lower_follows (fun _ _ _ _ => trivial) _ denotes.within (.inl trivial)) lowered).2.2
      refine Runs.imp (?_ : Runs (solutions config) _ config later _ fun latest declared =>
        ∃ rest', declared = ⟨decl, type⟩ :: rest' ∧ rest'.map (·.entry latest) = others) ?_
      · refine .bind ((generalize_quiet _ type).runs meets' rfl) fun _ _ _ run _ _ meets _ => ?_
        cases run
        refine .bind (declare_runs meets _ (Ty.over_setMutability.mpr fits)) fun _ _ _ _ _ _ meets _ => ?_
        refine .bind (trace_runs meets _) fun _ _ _ _ _ _ meets _ => ?_
        exact .bind (ih meets there definite' denotes') fun rest' _ _ _ _ _ meets same => .pure meets ⟨rest', rfl, same⟩
      · rintro latest _ kept ⟨rest', rfl, rfl⟩
        rw [List.map_cons, DeclaredDecl.entry, Ty.image_later fits kept, same, here]

private theorem define_runs (meets : before.Meets config assigned) {declared : DeclaredDecl} {tree : Typed Ty}
    (within : declared.decl.body.Within Ty.Solid)
    (known : Known Ty.Solid before.scope (declared.decl.body.freeNames config.key))
    (valid : declared.type.Over Ty.Solid before.nextVar)
    (typing : Elaborates config (.of assigned before.scope) true declared.decl.body tree)
    (result : tree.type = declared.type.image assigned) :
    Runs (solutions config) (define declared) config assigned before fun later body =>
      body.map (·.image later) = tree := by
  refine .bind (enterDecl_runs meets _) fun _ _ _ entered more kept meets' _ => ?_
  refine .bind (trace_runs meets' _) fun _ ready later reported more' kept' meets'' _ => .withinDecl ?_
  have scope := (((Quiet.enterDecl _).result entered).1.trans ((Quiet.trace _).result reported).1).scope
  have kept'' := kept.trans kept' more
  have expected : ∀ type ∈ some (declared.type.setMutability .mutable), type.Over Ty.Solid ready.nextVar := by
    rintro _ ⟨⟩
    exact Ty.over_setMutability.mpr ((valid.mono more).mono more')
  have wanted : ∀ type ∈ some (declared.type.setMutability .mutable), type.image later = tree.type := by
    rintro _ ⟨⟩
    rw [Ty.image_setMutability, Ty.image_later valid kept'', result]
  rw [← Env.of_later meets.allowed kept'', ← scope] at typing
  have checking := elaborate_runs meets'' _ _ expected wanted within (known.same scope) typing
  refine .bind (.keepingScope checking fun _ _ more _ inner => inner.rescope meets''.allowed more) ?_
  rintro body _ latest run _ _ meets rfl
  obtain ⟨inner, checked, rfl⟩ := keepingScope_ok run
  have all := (meets''.allowed.elaborate within (known.same scope) expected checked).2.2
  exact .bind (solve_runs meets false) fun _ _ _ _ _ kept meets _ => .pure meets (all.map_later kept)

private theorem defineAll_runs (meets : before.Meets config assigned) {declared : List DeclaredDecl} {order : List Nat}
    {trees : Nat → Typed Ty} (placed : ∀ index ∈ order, index < declared.length)
    (within : ∀ decl ∈ declared, decl.decl.body.Within Ty.Solid)
    (known : ∀ decl ∈ declared, Known Ty.Solid before.scope (decl.decl.body.freeNames config.key))
    (valid : ∀ decl ∈ declared, decl.type.Over Ty.Solid before.nextVar)
    (typing : ∀ index decl, declared[index]? = some decl →
      Elaborates config (.of assigned before.scope) true decl.decl.body (trees index) ∧
        (trees index).type = decl.type.image assigned) :
    Runs (solutions config) (defineAll declared order) config assigned before fun later bodies =>
      ∀ body ∈ bodies, body.2.map (·.image later) = trees body.1 := by
  induction order generalizing before assigned with
  | nil => exact .pure meets fun _ member => by cases member
  | cons index rest ih =>
    obtain ⟨first, others⟩ := List.forall_mem_cons.mp placed
    have here := List.getElem?_eq_getElem first
    have member := List.getElem_mem first
    generalize declared[index] = decl at here member
    simp only [defineAll, here]
    obtain ⟨tree, result⟩ := typing index decl here
    have within' := within decl member
    have known' := known decl member
    have valid' := valid decl member
    refine .bind (define_runs meets within' known' valid' tree result) ?_
    intro body middle later run more kept meets' same
    obtain ⟨_, _, all⟩ := meets.allowed.define within' known' valid' run
    have scope := ((define_uses (.refl _) _).leaves run).scope (by decide)
    have rest' := ih meets' others (fun decl member => (known decl member).same scope)
      (fun decl member => (valid decl member).mono more) fun index decl placed => by
        rw [scope, Env.of_later meets.allowed kept,
          Ty.image_later (valid decl (List.mem_of_getElem? placed)) kept]
        exact typing index decl placed
    refine .bind rest' fun bodies _ _ _ _ kept' meets others => .pure meets ?_
    exact List.forall_mem_cons.mpr ⟨(all.map_later kept').trans same, others⟩

private theorem prepare_runs (meets : before.Meets config assigned) {decls : List (Option Decl)}
    {named : List NamedDecl} {validated : State} (valid : validate [] decls config before = (.ok named, validated))
    (within : Within Ty.Solid config decls)
    (analysed : (Dependencies.analyze config.normalize (decls.filterMap id)).problem = none)
    {entries : List (Decl × Ty)} (listed : decls.filterMap id = entries.map Prod.fst)
    (definite : ∀ entry ∈ entries, entry.2.Definite)
    (denotes : ∀ entry ∈ entries, entry.1.type.Denotes config.normalize entry.2) :
    Runs (solutions config) (prepare decls) config assigned before fun later (declared, _) =>
      declared.map (·.entry later) = entries := by
  obtain ⟨_, written, _⟩ := (validate_quiet _ _).result valid
  have all : decls.filterMap id = named.map NamedDecl.decl := by simp [written, List.filterMap_map]
  rw [all] at analysed listed
  refine .bind ((validate_quiet [] decls).runs meets valid) fun named' _ _ valid' _ _ meets' _ => ?_
  cases valid.symm.trans valid'
  refine .bind (declareAll_runs meets' listed definite denotes) ?_
  rintro declared ready later run _ _ meets rfl
  have types : ∀ decl ∈ named, decl.decl.type.Within Ty.Solid := fun decl member =>
    within.types _ (written ▸ List.mem_map_of_mem member)
  have fits := (meets'.allowed.keeps (declareAll_follows (fun _ _ _ _ => trivial) types (.inl trivial)
    fun _ _ _ => .inl trivial) run).2.2
  refine .bind (trace_runs meets _) fun _ _ _ _ more kept meets _ => ?_
  refine .bind (checkingOrder_runs meets analysed) fun order _ latest _ _ kept' meets _ => .pure meets ?_
  refine List.map_congr_left fun decl member => ?_
  rw [DeclaredDecl.entry, DeclaredDecl.entry, Ty.image_later (fits decl member) (kept.trans kept' more)]

/-- What follows the typing rules is found, if elaboration ends. -/
theorem elaborateAll_runs (meets : before.Meets config assigned) (empty : before.scope = .empty)
    {decls : List (Option Decl)} {named : List NamedDecl} {validated : State}
    (valid : validate [] decls config before = (.ok named, validated)) (within : Within Ty.Solid config decls)
    (analysed : (Dependencies.analyze config.normalize (decls.filterMap id)).problem = none)
    {entries : List (Decl × Ty)} {trees : Nat → Typed Ty}
    (listed : decls.filterMap id = entries.map Prod.fst) (typing : Typing config entries trees) :
    Runs (solutions config) (elaborateAll decls) config assigned before fun later (declared, bodies) =>
      declared.map (·.entry later) = entries ∧ ∀ body ∈ bodies, body.2.map (·.image later) = trees body.1 := by
  refine .bind (prepare_runs meets valid within analysed listed typing.definite typing.denotes) ?_
  rintro ⟨declared, order⟩ ready later run _ _ meets' rfl
  have readied := prepare_readied run
  have facts := readied.declared empty
  have known := readied.known within
  have fits := (meets.allowed.prepare within run).2.2
  have placed : ∀ index ∈ order, index < declared.length := fun index member =>
    List.mem_range.mp (readied.order.mem_iff.mp member)
  have bodies := fun decl (member : decl ∈ declared) => within.bodies _ (facts.mem member)
  have typing' : ∀ index decl, declared[index]? = some decl →
      Elaborates config (.of later ready.scope) true decl.decl.body (trees index) ∧
        (trees index).type = decl.type.image later := by
    intro index decl placed
    rw [facts.env later]
    refine typing.bodies index (decl.entry later) ?_
    rw [List.getElem?_map, placed, Option.map_some]
  -- What follows keeps the types that the names were declared with.
  refine Runs.imp (?_ : Runs (solutions config) _ config later ready fun last result =>
    result.1 = declared ∧ ∀ body ∈ result.2, body.2.map (·.image last) = trees body.1) ?_
  · refine .bind (defineAll_runs meets' placed bodies known fits typing') ?_
    intro checked defined _ run' _ _ meets'' same
    have all := (meets'.allowed.keeps (defineAll_follows (fun _ _ _ _ => trivial)
      (fun _ => solve_follows (fun _ _ _ _ => trivial) (fun _ => trivial) false) (.inl trivial) bodies known
      (.inl trivial) fun _ _ decl found => Ty.over_setMutability.mpr (fits decl (List.mem_of_getElem? found))) run').2.2
    refine .bind (enterDecl_runs meets'' _) fun _ _ _ _ more kept meets _ => ?_
    refine .bind (solve_runs meets true) fun _ _ _ _ _ kept' meets _ => .pure meets ⟨rfl, fun body member => ?_⟩
    exact ((all body member).map_later (kept.trans kept' more)).trans (same body member)
  · rintro latest ⟨_, bodies⟩ kept ⟨rfl, same⟩
    refine ⟨List.map_congr_left fun decl member => ?_, same⟩
    rw [DeclaredDecl.entry, DeclaredDecl.entry, Ty.image_later (fits decl member) kept]

end Sought

end Session

end Checking

end RefinementTypes
