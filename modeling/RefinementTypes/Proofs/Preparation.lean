import RefinementTypes.Proofs.Embedding
import RefinementTypes.Proofs.Scanning
import RefinementTypes.Proofs.Validity

/-! What is prepared before bodies are checked. Declarations of two sets are validated, declared and ordered one set
after the other, and up to the numbers of variables as they are in sessions of their own, if the sets declare different
names and refer to nothing of each other. -/

namespace RefinementTypes.Checking

namespace Session

variable {config : Config} {before after : State}

/-- Declarations pass validation, if these names have been seen before. -/
inductive Passes (config : Config) : List String → List (Option Decl) → List NamedDecl → Prop
  | nil {seen : List String} : Passes config seen [] []
  | cons {seen : List String} {decl : Decl} {decls : List (Option Decl)} {named : List NamedDecl}
      (new : config.normalize decl.name ∉ seen)
      (params : firstRepeated? [] (decl.params.map config.normalize) = none) (body : decl.body ≠ .missing)
      (rest : Passes config (config.normalize decl.name :: seen) decls named) :
      Passes config seen (some decl :: decls) (⟨config.normalize decl.name, decl⟩ :: named)

private theorem validate_iff {seen : List String} {decls : List (Option Decl)} {named : List NamedDecl} :
    validate seen decls config before = (.ok named, after) ↔ after = before ∧ Passes config seen decls named := by
  induction decls generalizing seen named with
  | nil =>
    constructor
    · intro run
      cases run
      exact ⟨rfl, .nil⟩
    · rintro ⟨rfl, ⟨⟩⟩
      rfl
  | cons decl rest ih =>
    cases decl with
    | none =>
      constructor
      · intro run
        cases run
      · rintro ⟨_, ⟨⟩⟩
    | some decl =>
      constructor
      · intro run
        obtain ⟨name, _, normalized, run⟩ := bind_ok run
        cases normalized
        by_cases again : seen.contains (config.normalize decl.name) = true
        · simp only [again, if_true] at run
          cases run
        simp only [again] at run
        obtain ⟨_, _, asked, run⟩ := bind_ok run
        cases asked
        cases params : firstRepeated? [] (decl.params.map config.normalize) with
        | some param =>
          simp only [params] at run
          cases run
        | none =>
          by_cases body : decl.body = .missing
          · simp only [params, body] at run
            cases run
          · simp only [params] at run
            obtain ⟨others, _, later, run⟩ := bind_ok run
            cases run
            obtain ⟨rfl, passes⟩ := ih.mp later
            exact ⟨rfl, .cons (fun member => again (List.contains_iff_mem.mpr member)) params body passes⟩
      · rintro ⟨rfl, passes⟩
        cases passes with
        | cons new params body passes =>
          have later := (@ih (config.normalize decl.name :: seen) _).mpr ⟨rfl, passes⟩
          have run : normalize decl.name config after = (.ok (config.normalize decl.name), after) := rfl
          have fresh : seen.contains (config.normalize decl.name) = false := by simpa using new
          unfold validate
          rw [bind_run run]
          simp only [fresh, Bool.false_eq_true, if_false]
          have asked : Session.config config after = (.ok config, after) := rfl
          rw [bind_run asked]
          simp only [params]
          rw [bind_run later]
          rfl

namespace Passes

variable {seen : List String} {decls first second : List (Option Decl)} {named left right : List NamedDecl}

private theorem listed (passes : Passes config seen decls named) : decls = named.map fun named => some named.decl := by
  induction passes with
  | nil => rfl
  | cons _ _ _ _ ih => rw [List.map_cons, ← ih]

private theorem present (passes : Passes config seen decls named) : decls.filterMap id = named.map NamedDecl.decl := by
  rw [passes.listed, List.filterMap_map]
  exact congrFun List.filterMap_eq_map named

/-- Only names that are declared matter. -/
theorem fewer {others : List String} (passes : Passes config seen decls named)
    (sub : ∀ decl, some decl ∈ decls → config.normalize decl.name ∈ others → config.normalize decl.name ∈ seen) :
    Passes config others decls named := by
  induction passes generalizing others with
  | nil => exact .nil
  | @cons seen decl decls named new params body rest ih =>
    refine .cons (fun again => new (sub decl List.mem_cons_self again)) params body (ih fun other member again => ?_)
    rcases List.mem_cons.mp again with same | again
    · exact same ▸ List.mem_cons_self
    · exact List.mem_cons_of_mem _ (sub other (List.mem_cons_of_mem _ member) again)

private theorem append (passes : Passes config seen first left) (passes' : Passes config [] second right)
    (new : ∀ decl, some decl ∈ second → config.normalize decl.name ∉ seen)
    (apart : ∀ decl other, some decl ∈ first → some other ∈ second →
      config.normalize decl.name ≠ config.normalize other.name) :
    Passes config seen (first ++ second) (left ++ right) := by
  induction passes with
  | nil => exact passes'.fewer fun decl member again => absurd again (new decl member)
  | cons here params body _ ih =>
    refine .cons here params body (ih (fun other member again => ?_) fun decl other member =>
      apart decl other (List.mem_cons_of_mem _ member))
    rcases List.mem_cons.mp again with same | again
    · exact apart _ other List.mem_cons_self member same.symm
    · exact new other member again

private theorem split (passes : Passes config seen (first ++ second) named) :
    ∃ left right, named = left ++ right ∧ Passes config seen first left ∧ Passes config [] second right := by
  induction first generalizing seen named with
  | nil => exact ⟨[], named, rfl, .nil, passes.fewer fun _ _ again => by cases again⟩
  | cons decl rest ih =>
    cases passes with
    | cons new params body passes =>
      obtain ⟨left, right, rfl, passes, passes'⟩ := ih passes
      exact ⟨_ :: left, right, rfl, .cons new params body passes, passes'⟩

private theorem supported (passes : Passes config seen decls named)
    (supported : ∀ decl, some decl ∈ decls → decl.body.Supported) : ∀ decl ∈ named, decl.decl.body.Supported := by
  intro decl member
  apply supported
  rw [passes.listed]
  exact List.mem_map_of_mem member

end Passes

def bodyOrder (config : Config) (decls : List Decl) : List Nat :=
  if config.sourceOrder then List.range decls.length else (Dependencies.analyze config.normalize decls).order

private theorem bodyOrder_append {first second : List Decl} (supported : ∀ decl ∈ first, decl.body.Supported)
    (supported' : ∀ decl ∈ second, decl.body.Supported) (apart : Dependencies.Apart config.normalize first second)
    (apart' : Dependencies.Apart config.normalize second first) :
    bodyOrder config (first ++ second) =
      bodyOrder config first ++ (bodyOrder config second).map (first.length + ·) := by
  unfold bodyOrder
  split
  next => rw [List.length_append, List.range_add]
  next => exact Dependencies.order_append supported supported' apart apart'

private theorem traceRecursion_lines (components : List (List Nat)) (config : Config) (before : State) :
    ∃ lines, traceRecursion components config before = (.ok (), { before with trace := lines }) := by
  induction components generalizing before with
  | nil => exact ⟨before.trace, rfl⟩
  | cons component rest ih =>
    unfold traceRecursion
    dsimp only
    split
    next =>
      obtain ⟨lines, reported⟩ := trace_lines (fun _ => "mutually-recursive declarations: [" ++
        " ".intercalate (component.map toString) ++ "]") config before
      obtain ⟨lines', run⟩ := ih { before with trace := lines }
      exact ⟨lines', (bind_run reported).trans run⟩
    next => exact ih before

private theorem checkingOrder_run {decls : List Decl} (supported : ∀ decl ∈ decls, decl.body.Supported)
    (config : Config) (before : State) :
    ∃ lines, checkingOrder decls config before = (.ok (bodyOrder config decls), { before with trace := lines }) := by
  have asked : Session.config config before = (.ok config, before) := rfl
  unfold checkingOrder bodyOrder
  rw [bind_run asked]
  cases config.sourceOrder with
  | true => exact ⟨before.trace, rfl⟩
  | false =>
    simp only [Bool.false_eq_true, if_false, (Dependencies.analyze_supported supported).1]
    obtain ⟨lines, run⟩ := traceRecursion_lines (Dependencies.analyze config.normalize decls).components config before
    exact ⟨lines, by rw [bind_run run]; rfl⟩

private theorem prepare_run {decls : List (Option Decl)} {named : List NamedDecl} {declared : List DeclaredDecl}
    {known : State} (passes : Passes config [] decls named) (supported : ∀ decl ∈ named, decl.decl.body.Supported)
    (run : declareAll named config before = (.ok declared, known)) :
    ∃ lines, prepare decls config before =
      (.ok (declared, bodyOrder config (named.map NamedDecl.decl)), { known with trace := lines }) := by
  have validated := (@validate_iff config before before _ _ _).mpr ⟨rfl, passes⟩
  have supported' : ∀ decl ∈ named.map NamedDecl.decl, decl.body.Supported := List.forall_mem_map.mpr supported
  obtain ⟨lines, reported⟩ :=
    trace_lines (fun state => "declared " ++ toString state.scope.size ++ " names") config known
  obtain ⟨lines', chosen⟩ := checkingOrder_run supported' config { known with trace := lines }
  refine ⟨lines', ?_⟩
  unfold prepare
  rw [bind_run validated, bind_run run, bind_run reported, bind_run chosen]
  rfl

private theorem prepare_passes {decls : List (Option Decl)} {declared : List DeclaredDecl} {order : List Nat}
    {ready : State} (supported : ∀ decl, some decl ∈ decls → decl.body.Supported)
    (run : prepare decls config before = (.ok (declared, order), ready)) :
    ∃ named known lines, Passes config [] decls named ∧ declareAll named config before = (.ok declared, known) ∧
      order = bodyOrder config (named.map NamedDecl.decl) ∧ ready = { known with trace := lines } := by
  obtain ⟨named, _, validated, rest⟩ := bind_ok run
  obtain ⟨rfl, passes⟩ := validate_iff.mp validated
  obtain ⟨_, known, second, rest⟩ := bind_ok rest
  obtain ⟨_, _, _, rest⟩ := bind_ok rest
  obtain ⟨_, _, _, rest⟩ := bind_ok rest
  cases rest
  obtain ⟨lines, again⟩ := prepare_run passes (passes.supported supported) second
  cases run.symm.trans again
  exact ⟨named, known, lines, passes, second, rfl, rfl⟩

private theorem bind_nested {α β γ : Type} {step : Session α} {next : α → Session β} {inner : α → Session γ}
    {last : γ → Session β} (same : ∀ value middle, next value config middle = (inner value >>= last) config middle) :
    (step >>= next) config before = ((step >>= inner) >>= last) config before :=
  (run_bind_congr same).trans (run_bind_assoc _ _ _ _ _).symm

private theorem bind_appended {α : Type} {first second both : Session (List α)} (item : α)
    (same : both config before = (do return (← first) ++ (← second) : Session (List α)) config before) :
    (both >>= fun items => pure (item :: items)) config before =
      ((first >>= fun items => pure (item :: items)) >>= fun left => second >>= fun right => pure (left ++ right))
        config before := by
  rw [run_bind, same, run_bind_assoc, run_bind, run_bind]
  rcases first config before with ⟨_ | left, middle⟩
  · rfl
  · have made : (pure (item :: left) : Session (List α)) config middle = (.ok (item :: left), middle) := rfl
    dsimp only
    rw [run_bind, bind_run made, run_bind]
    rcases second config middle with ⟨_ | _, _⟩ <;> rfl

private theorem declareAll_append (first second : List NamedDecl) (config : Config) (before : State) :
    declareAll (first ++ second) config before = (do
      let left ← declareAll first
      let right ← declareAll second
      return left ++ right : Session (List DeclaredDecl)) config before := by
  induction first generalizing before with
  | nil =>
    rw [List.nil_append, declareAll, bind_run rfl, run_bind]
    rcases declareAll second config before with ⟨_ | _, _⟩ <;> rfl
  | cons decl rest ih =>
    rw [List.cons_append, declareAll, declareAll]
    refine bind_nested fun _ _ => bind_nested fun type _ => bind_nested fun _ _ => bind_nested fun _ _ => ?_
    exact bind_nested fun _ middle => bind_appended _ (ih middle)

theorem defineAll_append (declared : List DeclaredDecl) (first second : List Nat) (config : Config) (before : State) :
    defineAll declared (first ++ second) config before = (do
      let left ← defineAll declared first
      let right ← defineAll declared second
      return left ++ right : Session (List (Nat × Typed Ty))) config before := by
  induction first generalizing before with
  | nil =>
    rw [List.nil_append, defineAll, bind_run rfl, run_bind]
    rcases defineAll declared second config before with ⟨_ | _, _⟩ <;> rfl
  | cons index rest ih =>
    cases found : declared[index]? with
    | none =>
      simp only [List.cons_append, defineAll, found]
      rfl
    | some decl =>
      simp only [List.cons_append, defineAll, found]
      exact bind_nested fun body middle => bind_appended _ (ih middle)

end Session

theorem DeclaredDecl.renumber_fixed {rename : Nat → Nat} (declared : DeclaredDecl)
    (fixed : ∀ id ∈ declared.type.vars, rename id = id) : declared.renumber rename = declared := by
  rw [renumber, Ty.renumber_fixed _ fixed]

namespace Session

variable {config : Config} {cache : Regex.Cache} {outer known : State} {named : List NamedDecl}
  {declared : List DeclaredDecl}

/-- Where only names have been declared, others are declared as they are in a fresh session, with later variables. -/
theorem declareAll_later (subst : outer.subst = .empty) (worklist : outer.worklist = []) (exact : cache.Exact)
    (intact : Intact outer.cache outer.store) :
    (∀ declared' known', declareAll named config outer = (.ok declared', known') →
      ∃ declared known, declareAll named config (.fresh cache) = (.ok declared, known) ∧
        declared' = declared.map (DeclaredDecl.renumber (outer.nextVar + ·)) ∧
        known'.nextVar = outer.nextVar + known.nextVar) ∧
    ∀ declared known, declareAll named config (.fresh cache) = (.ok declared, known) →
      ∃ declared' known', declareAll named config outer = (.ok declared', known') := by
  obtain ⟨frame, same, pending, _, _, encloses⟩ := @Frame.exists_encloses (outer.nextVar + ·)
    (fun _ _ => Nat.add_left_cancel) (fun _ => True) { State.fresh cache with decl := outer.decl } outer rfl
    (fun _ _ => (Nat.add_assoc _ _ _).symm) rfl rfl rfl subst worklist (fun _ known => absurd trivial known) rfl
    ⟨exact, Store.valid_empty⟩ intact
  have mirrors : Mirrors frame _ (declareAll named) (declareAll named) config _ outer _ :=
    declareAll_mirrors encloses named
  constructor
  · intro declared' known' run
    obtain ⟨declared, after, own, rfl, encloses'⟩ := mirrors.back _ _ run
    obtain ⟨place, again⟩ := declareAll_elsewhere own ""
    refine ⟨declared, _, again, by rw [same], ?_⟩
    rw [encloses'.nextVar, same]
  · intro declared known run
    obtain ⟨place, again⟩ := declareAll_elsewhere run outer.decl
    exact mirrors.forth pending _ _ again

private theorem declareAll_bare (exact : cache.Exact)
    (run : declareAll named config (.fresh cache) = (.ok declared, known)) :
    known.subst = .empty ∧ known.worklist = [] ∧ Intact known.cache known.store := by
  have left := (declareAll_uses (.refl _) named).leaves run
  refine ⟨left.subst (by decide), left.worklist (by decide) (by decide), ?_, ?_⟩
  · exact left.cache (by decide) ▸ exact
  · exact left.store (by decide) ▸ Store.valid_empty

/-- Two lists of names are declared together if and only if each of them is declared on its own. -/
theorem declareAll_beside {cache₁ cache₂ : Regex.Cache} (exact : cache.Exact) (exact₁ : cache₁.Exact)
    (exact₂ : cache₂.Exact) (first second : List NamedDecl) :
    (∀ declared known, declareAll (first ++ second) config (.fresh cache) = (.ok declared, known) →
      ∃ left known₁ right known₂, declareAll first config (.fresh cache₁) = (.ok left, known₁) ∧
        declareAll second config (.fresh cache₂) = (.ok right, known₂) ∧
        declared = left ++ right.map (DeclaredDecl.renumber (known₁.nextVar + ·)) ∧
        known.nextVar = known₁.nextVar + known₂.nextVar) ∧
    ∀ left known₁ right known₂, declareAll first config (.fresh cache₁) = (.ok left, known₁) →
      declareAll second config (.fresh cache₂) = (.ok right, known₂) →
      ∃ declared known, declareAll (first ++ second) config (.fresh cache) = (.ok declared, known) := by
  have early := @declareAll_later config cache₁ (.fresh cache) first rfl rfl exact₁ ⟨exact, Store.valid_empty⟩
  rw [declareAll_append]
  constructor
  · intro declared known run
    obtain ⟨left', middle, run₁, run⟩ := bind_ok run
    obtain ⟨right', _, run₂, run⟩ := bind_ok run
    cases run
    obtain ⟨left, known₁, own₁, rfl, issued₁⟩ := early.1 _ _ run₁
    obtain ⟨subst, worklist, intact⟩ := declareAll_bare exact run₁
    obtain ⟨right, known₂, own₂, rfl, issued₂⟩ := (declareAll_later subst worklist exact₂ intact).1 _ _ run₂
    have zero : (State.fresh cache).nextVar = 0 := rfl
    rw [zero, Nat.zero_add] at issued₁
    have same : left.map (DeclaredDecl.renumber ((State.fresh cache).nextVar + ·)) = left := by
      refine (List.map_congr_left fun decl _ => ?_).trans (List.map_id left)
      exact decl.renumber_fixed fun _ _ => Nat.zero_add _
    exact ⟨left, known₁, right, known₂, own₁, own₂, by rw [same, issued₁], by rw [issued₂, issued₁]⟩
  · intro left known₁ right known₂ own₁ own₂
    obtain ⟨left', middle, run₁⟩ := early.2 _ _ own₁
    obtain ⟨subst, worklist, intact⟩ := declareAll_bare exact run₁
    obtain ⟨right', known, run₂⟩ := (declareAll_later subst worklist exact₂ intact).2 _ _ own₂
    refine ⟨left' ++ right', known, ?_⟩
    rw [bind_run run₁, bind_run run₂]
    rfl

/-- What is known of a session in which all names have been declared and no body has been checked. -/
structure AllDeclared (config : Config) (decls : List (Option Decl)) (declared : List DeclaredDecl) (order : List Nat)
    (ready : State) : Prop where
  facts : Declared config decls declared ready
  order : order.Perm (List.range declared.length)
  subst : ready.subst = .empty
  worklist : ready.worklist = []
  warnings : ready.warnings = []
  intact : Intact ready.cache ready.store
  allowed : ready.Over fun _ => True
  types : ∀ decl ∈ declared, decl.type.Over (fun _ => True) ready.nextVar

theorem prepare_allDeclared {decls : List (Option Decl)} {order : List Nat} {ready : State} (exact : cache.Exact)
    (run : prepare decls config (.fresh cache) = (.ok (declared, order), ready)) :
    AllDeclared config decls declared order ready := by
  have readied := prepare_readied run
  have left := (prepare_uses (.refl _) decls).leaves run
  have within : Within (fun _ => True) config decls := .of_error trivial fun _ _ => .inl trivial
  obtain ⟨_, allowed, types⟩ := (State.Over.fresh cache).prepare within run
  exact {
    facts := readied.declared rfl
    order := readied.order
    subst := left.subst (by decide)
    worklist := left.worklist (by decide) (by decide)
    warnings := left.warnings (by decide)
    intact := ⟨left.cache (by decide) ▸ exact, left.store (by decide) ▸ Store.valid_empty⟩
    allowed := allowed
    types := types }

/-- Two sets of declarations are prepared together if and only if each of them is prepared on its own. -/
theorem prepare_beside {first second : List (Option Decl)} {cache₁ cache₂ : Regex.Cache} (exact : cache.Exact)
    (exact₁ : cache₁.Exact) (exact₂ : cache₂.Exact)
    (supported : ∀ decl, some decl ∈ first → decl.body.Supported)
    (supported' : ∀ decl, some decl ∈ second → decl.body.Supported)
    (apart : Dependencies.Apart config.normalize (first.filterMap id) (second.filterMap id))
    (apart' : Dependencies.Apart config.normalize (second.filterMap id) (first.filterMap id))
    (distinct : ∀ decl other, some decl ∈ first → some other ∈ second →
      config.normalize decl.name ≠ config.normalize other.name) :
    (∀ declared order ready, prepare (first ++ second) config (.fresh cache) = (.ok (declared, order), ready) →
      ∃ left order₁ ready₁ right order₂ ready₂,
        prepare first config (.fresh cache₁) = (.ok (left, order₁), ready₁) ∧
        prepare second config (.fresh cache₂) = (.ok (right, order₂), ready₂) ∧
        declared = left ++ right.map (DeclaredDecl.renumber (ready₁.nextVar + ·)) ∧
        order = order₁ ++ order₂.map (left.length + ·) ∧ ready.nextVar = ready₁.nextVar + ready₂.nextVar) ∧
    ∀ left order₁ ready₁ right order₂ ready₂,
      prepare first config (.fresh cache₁) = (.ok (left, order₁), ready₁) →
      prepare second config (.fresh cache₂) = (.ok (right, order₂), ready₂) →
      ∃ declared order ready, prepare (first ++ second) config (.fresh cache) = (.ok (declared, order), ready) := by
  have both : ∀ decl, some decl ∈ first ++ second → decl.body.Supported := by
    intro decl member
    exact (List.mem_append.mp member).elim (supported decl) (supported' decl)
  constructor
  · intro declared order ready run
    obtain ⟨named, known, lines, passes, joint, rfl, rfl⟩ := prepare_passes both run
    obtain ⟨named₁, named₂, rfl, passes₁, passes₂⟩ := passes.split
    obtain ⟨left, known₁, right, known₂, own₁, own₂, rfl, issued⟩ :=
      (declareAll_beside exact exact₁ exact₂ _ _).1 _ _ joint
    obtain ⟨lines₁, run₁⟩ := prepare_run passes₁ (passes₁.supported supported) own₁
    obtain ⟨lines₂, run₂⟩ := prepare_run passes₂ (passes₂.supported supported') own₂
    refine ⟨left, _, _, right, _, _, run₁, run₂, rfl, ?_, issued⟩
    rw [passes₁.present, passes₂.present] at apart apart'
    rw [List.map_append, bodyOrder_append (List.forall_mem_map.mpr (passes₁.supported supported))
      (List.forall_mem_map.mpr (passes₂.supported supported')) apart apart', List.length_map,
      ← (declareAll_ok own₁).1, List.length_map]
  · intro left order₁ ready₁ right order₂ ready₂ run₁ run₂
    obtain ⟨named₁, known₁, lines₁, passes₁, own₁, rfl, rfl⟩ := prepare_passes supported run₁
    obtain ⟨named₂, known₂, lines₂, passes₂, own₂, rfl, rfl⟩ := prepare_passes supported' run₂
    obtain ⟨declared, known, joint⟩ := (declareAll_beside exact exact₁ exact₂ _ _).2 _ _ _ _ own₁ own₂
    have passes := passes₁.append passes₂ (fun _ _ => List.not_mem_nil) distinct
    obtain ⟨lines, run⟩ := prepare_run passes (passes.supported both) joint
    exact ⟨declared, _, _, run⟩

end Session

end RefinementTypes.Checking
