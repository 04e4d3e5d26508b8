import RefinementTypes.Proofs.Joining
import RefinementTypes.Proofs.Agreement

/-! Declarations that have nothing to do with each other. Where neither of two sets of declarations refers to a name of
the other, both are accepted together if and only if each of them is accepted on its own, and then with the same types
and the same warnings. -/

namespace RefinementTypes.Checking

private theorem Typed.all_map_iff {τ υ : Type} {inside other : τ → Prop} {property : υ → Prop} {change : τ → υ}
    {typed : Typed τ} (known : typed.All inside) (same : ∀ type, inside type → (property (change type) ↔ other type)) :
    (typed.map change).All property ↔ typed.All other := by
  induction typed with
  | lam _ _ _ body => exact and_congr (same _ known.1) (body known.2)
  | letElse _ _ _ _ _ first second third =>
    exact and_congr (same _ known.1) (and_congr (first known.2.1) (and_congr (second known.2.2.1) (third known.2.2.2)))
  | call _ _ _ first second => exact and_congr (same _ known.1) (and_congr (first known.2.1) (second known.2.2))
  | lit | name | impossible | invalid => exact same _ known

private theorem Typed.all_of_forall {τ : Type} {property : τ → Prop} (holds : ∀ type, property type) (typed : Typed τ) :
    typed.All property := by
  induction typed with
  | lam _ _ _ body => exact ⟨holds _, body⟩
  | letElse _ _ _ _ _ first second third => exact ⟨holds _, first, second, third⟩
  | call _ _ _ first second => exact ⟨holds _, first, second⟩
  | lit | name | impossible | invalid => exact holds _

private theorem lookup_moved {α β : Type} (start : Nat) (view : α → β) (entries : List (Nat × α)) (index : Nat) :
    (entries.map fun entry => (start + entry.1, view entry.2)).lookup (start + index) =
      (entries.lookup index).map view := by
  induction entries with
  | nil => rfl
  | cons entry rest ih =>
    rw [List.map_cons, lookup_cons_ite, lookup_cons_ite, ih]
    simp only [Nat.add_left_cancel_iff]
    split <;> rfl

section

variable {rename : Nat → Nat} {inside : Nat → Prop} {s t : Subst}

private theorem ground_renumber (same : Subst.Matches rename inside s t) {declared : DeclaredDecl} {body : Typed Ty}
    (type : ∀ id ∈ declared.type.vars, inside id) (types : body.All fun type => ∀ id ∈ type.vars, inside id) :
    (declared.renumber rename).All (fun type => (t.apply type).Ground) (body.map (Ty.renumber rename)) ↔
      declared.All (fun type => (s.apply type).Ground) body := by
  have each (type : Ty) (known : ∀ id ∈ type.vars, inside id) :
      (t.apply (type.renumber rename)).Ground ↔ (s.apply type).Ground := by
    rw [same.apply type known, Ty.ground_renumber]
  exact and_congr (each declared.type type) (Typed.all_map_iff types each)

/-- Declarations whose types come to trees are written in the same way after renumbering. -/
theorem written_renumber (same : Subst.Matches rename inside s t) {declared : List DeclaredDecl}
    (known : ∀ decl ∈ declared, ∀ id ∈ decl.type.vars, inside id)
    (ground : ∀ decl ∈ declared, (s.apply decl.type).Ground) :
    (declared.map (DeclaredDecl.renumber rename)).map (fun decl => (decl.name, (t.apply decl.type).render)) =
      declared.map fun decl => (decl.name, (s.apply decl.type).render) := by
  rw [List.map_map]
  apply List.map_congr_left
  intro decl member
  have tree := same.apply decl.type (known decl member)
  rw [Ty.renumber_ground (ground decl member)] at tree
  rw [Function.comp_apply, DeclaredDecl.renumber, tree]

end

private theorem allFrom_append {property : Ty → Prop} {bodies : List (Nat × Typed Ty)} {start : Nat}
    {left right : List DeclaredDecl} : AllFrom property bodies start (left ++ right) ↔
      AllFrom property bodies start left ∧ AllFrom property bodies (start + left.length) right := by
  induction left generalizing start with
  | nil => exact (and_iff_right fun _ _ found => by cases found).symm
  | cons decl rest ih =>
    rw [List.cons_append, allFrom_cons, allFrom_cons, ih, and_assoc, List.length_cons, Nat.add_assoc, Nat.add_comm 1]

private theorem allFrom_renumber {property other : Ty → Prop} {bodies bodies' : List (Nat × Typed Ty)}
    {start start' : Nat} {declared : List DeclaredDecl} {rename : Nat → Nat}
    (each : ∀ index decl, declared[index]? = some decl →
      ((∃ body, bodies'.lookup (start' + index) = some body ∧ (decl.renumber rename).All property body) ↔
        ∃ body, bodies.lookup (start + index) = some body ∧ decl.All other body)) :
    AllFrom property bodies' start' (declared.map (DeclaredDecl.renumber rename)) ↔
      AllFrom other bodies start declared := by
  constructor
  · intro all index decl found
    refine (each index decl found).mp (all index _ ?_)
    rw [List.getElem?_map, found, Option.map_some]
  · intro all index decl found
    rw [List.getElem?_map, Option.map_eq_some_iff] at found
    obtain ⟨source, found, rfl⟩ := found
    exact (each index source found).mpr (all index source found)

/-- No name that the others declare is free in a body. -/
def Ignores (normalize : String → String) (decls others : List (Option Decl)) : Prop :=
  ∀ decl ∈ decls.filterMap id, ∀ other ∈ others.filterMap id, normalize other.name ∉ decl.body.occurrences normalize

/-- Two sets of declarations that have nothing to do with each other. -/
structure Independent (normalize : String → String) (first second : List (Option Decl)) : Prop where
  distinct : ∀ decl ∈ first.filterMap id, ∀ other ∈ second.filterMap id, normalize decl.name ≠ normalize other.name
  forth : Ignores normalize first second
  back : Ignores normalize second first

private theorem mem_present {decls : List (Option Decl)} {decl : Decl} :
    decl ∈ decls.filterMap id ↔ some decl ∈ decls := by
  simp

private theorem Ignores.apart {normalize : String → String} {decls others : List (Option Decl)}
    (ignores : Ignores normalize decls others) (supported : ∀ decl, some decl ∈ decls → decl.body.Supported) :
    Dependencies.Apart normalize (decls.filterMap id) (others.filterMap id) := by
  intro decl member name free other listed same
  subst same
  rw [← (supported decl (mem_present.mp member)).occurrences] at free
  exact ignores decl member other listed free

namespace Session

variable {config : Config}

private theorem ResolvableFrom.ground {s : Subst} {bodies : List (Nat × Typed Ty)} {declared : List DeclaredDecl}
    (resolvable : ResolvableFrom s bodies 0 declared) : ∀ decl ∈ declared, (s.apply decl.type).Ground := by
  intro decl member
  obtain ⟨index, found⟩ := List.getElem?_of_mem member
  obtain ⟨_, _, ground, _⟩ := resolvable index decl found
  exact ground

section

variable {left right : List DeclaredDecl} {ready after after₁ after₂ : State}
  {bodies bodies₁ bodies₂ : List (Nat × Typed Ty)} {rename rename' : Nat → Nat}
  (joined : Joined left right ready bodies bodies₁ bodies₂ after after₁ after₂ rename rename')

include joined

private theorem Joined.lookup_first {index : Nat} (inside : index < left.length) :
    bodies.lookup index = (bodies₁.lookup index).map (Typed.map (Ty.renumber rename)) := by
  have later : (bodies₂.map fun entry =>
      (left.length + entry.1, entry.2.map (Ty.renumber rename'))).lookup index = none := by
    rw [List.lookup_eq_none_iff]
    intro entry member
    obtain ⟨source, _, rfl⟩ := List.mem_map.mp member
    simp only [bne_iff_ne, ne_eq]
    omega
  rw [joined.appended, List.lookup_append, later, Option.or_none]
  exact lookup_mapSnd _ _ _

private theorem Joined.lookup_second (index : Nat) :
    bodies.lookup (left.length + index) = (bodies₂.lookup index).map (Typed.map (Ty.renumber rename')) := by
  have sooner : (bodies₁.map fun entry => (entry.1, entry.2.map (Ty.renumber rename))).lookup
      (left.length + index) = none := by
    rw [List.lookup_eq_none_iff]
    intro entry member
    obtain ⟨source, listed, rfl⟩ := List.mem_map.mp member
    have placed := joined.placed source listed
    simp only [bne_iff_ne, ne_eq]
    omega
  rw [joined.appended, List.lookup_append, sooner, Option.none_or]
  exact lookup_moved _ _ _ _

private theorem Joined.resolvable_first : ResolvableFrom after.subst bodies 0 left ↔
    ResolvableFrom after₁.subst bodies₁ 0 left := by
  conv_lhs => rw [← joined.fixed]
  apply allFrom_renumber
  intro index decl found
  rw [Nat.zero_add]
  have type : ∀ id ∈ decl.type.vars, id < after₁.nextVar :=
    fun _ member => Ty.Over.below (joined.types decl (List.mem_of_getElem? found)) member
  have same {body : Typed Ty} (checked : bodies₁.lookup index = some body) :
      (decl.renumber rename).All (fun type => (after.subst.apply type).Ground) (body.map (Ty.renumber rename)) ↔
        decl.All (fun type => (after₁.subst.apply type).Ground) body := by
    have types := joined.within (index, body) (mem_of_lookup_eq checked)
    exact ground_renumber joined.first type (types.imp fun _ known _ member => Ty.Over.below known member)
  rw [joined.lookup_first (List.getElem?_eq_some_iff.mp found).1]
  cases checked : bodies₁.lookup index with
  | none => simp
  | some body => simp [same checked]

private theorem Joined.resolvable_second :
    ResolvableFrom after.subst bodies left.length (right.map (DeclaredDecl.renumber (ready.nextVar + ·))) ↔
      ResolvableFrom after₂.subst bodies₂ 0 right := by
  rw [← joined.moved]
  apply allFrom_renumber
  intro index decl _
  rw [Nat.zero_add]
  have same (body : Typed Ty) :
      (decl.renumber rename').All (fun type => (after.subst.apply type).Ground) (body.map (Ty.renumber rename')) ↔
        decl.All (fun type => (after₂.subst.apply type).Ground) body :=
    ground_renumber joined.second (fun _ _ => trivial) (Typed.all_of_forall (fun _ _ _ => trivial) body)
  rw [joined.lookup_second]
  cases bodies₂.lookup index with
  | none => simp
  | some body => simp [same body]

/-- A joint session can be resolved if and only if each of the two can. -/
theorem Joined.resolvable :
    ResolvableFrom after.subst bodies 0 (left ++ right.map (DeclaredDecl.renumber (ready.nextVar + ·))) ↔
      ResolvableFrom after₁.subst bodies₁ 0 left ∧ ResolvableFrom after₂.subst bodies₂ 0 right := by
  refine allFrom_append.trans ?_
  rw [Nat.zero_add]
  exact and_congr joined.resolvable_first joined.resolvable_second

private theorem Joined.resolveAll_iff (exact : after.Exact) (exact₁ : after₁.Exact) (exact₂ : after₂.Exact) :
    (∃ program last, resolveAll (left ++ right.map (DeclaredDecl.renumber (ready.nextVar + ·))) bodies config after =
        (.ok program, last)) ↔
      (∃ program last, resolveAll left bodies₁ config after₁ = (.ok program, last)) ∧
        ∃ program last, resolveAll right bodies₂ config after₂ = (.ok program, last) := by
  rw [Session.resolveAll_iff joined.first.acyclic' exact, Session.resolveAll_iff joined.first.acyclic exact₁,
    Session.resolveAll_iff joined.second.acyclic exact₂, joined.resolvable]

/-- A joint session writes the types of the two, and reports their warnings. -/
theorem Joined.resolved (exact : after.Exact) (exact₁ : after₁.Exact) (exact₂ : after₂.Exact)
    {program program₁ program₂ : Program} {last last₁ last₂ : State}
    (run : resolveAll (left ++ right.map (DeclaredDecl.renumber (ready.nextVar + ·))) bodies config after =
      (.ok program, last)) (run₁ : resolveAll left bodies₁ config after₁ = (.ok program₁, last₁))
    (run₂ : resolveAll right bodies₂ config after₂ = (.ok program₂, last₂)) :
    program.printed = program₁.printed ++ program₂.printed ∧
      program.warnings = program₁.warnings ++ program₂.warnings := by
  have resolvable₁ := (Session.resolveAll_iff joined.first.acyclic exact₁ _ _).mp ⟨_, _, run₁⟩
  have resolvable₂ := (Session.resolveAll_iff joined.second.acyclic exact₂ _ _).mp ⟨_, _, run₂⟩
  have first := written_renumber joined.first
    (fun decl member _ inside => Ty.Over.below (joined.types decl member) inside) resolvable₁.ground
  have second := written_renumber joined.second (fun _ _ _ _ => trivial) resolvable₂.ground
  rw [joined.fixed] at first
  rw [joined.moved] at second
  constructor
  · rw [resolveAll_written joined.first.acyclic' exact run, List.map_append, first, second,
      resolveAll_written joined.first.acyclic exact₁ run₁,
      resolveAll_written joined.second.acyclic exact₂ run₂]
  · rw [resolveAll_warnings run, resolveAll_warnings run₁, resolveAll_warnings run₂, joined.warnings]

end

section

variable {decls : List (Option Decl)} {declared : List DeclaredDecl} {bodies : List (Nat × Typed Ty)}
  {before after : State}

private theorem elaborateAll_iff : elaborateAll decls config before = (.ok (declared, bodies), after) ↔
    ∃ order ready, prepare decls config before = (.ok (declared, order), ready) ∧
      complete declared order config ready = (.ok bodies, after) := by
  constructor
  · intro run
    obtain ⟨order, ready, defined, prepared, checked, solved⟩ := elaborateAll_phases run
    exact ⟨order, ready, prepared, complete_iff.mpr ⟨defined, checked, solved⟩⟩
  · intro phases
    obtain ⟨order, ready, prepared, completed⟩ := phases
    obtain ⟨middle, defined, solved⟩ := complete_iff.mp completed
    have entered : enterDecl "" config middle = (.ok (), { middle with decl := "" }) := rfl
    unfold elaborateAll
    rw [bind_run prepared]
    dsimp only
    rw [bind_run defined, bind_run entered, bind_run solved]
    rfl

private theorem elaborateAll_supported (empty : before.scope = .empty)
    (run : elaborateAll decls config before = (.ok (declared, bodies), after)) :
    ∀ decl, some decl ∈ decls → decl.body.Supported := by
  intro decl member
  rw [(elaborateAll_ok empty run).1.listed] at member
  obtain ⟨source, listed, same⟩ := List.mem_map.mp member
  cases same
  obtain ⟨index, found⟩ := List.getElem?_of_mem listed
  obtain ⟨body, checked⟩ := elaborateAll_lookup run found
  obtain ⟨_, again, supported, _⟩ := elaborateAll_adorns run (index, body) (mem_of_lookup_eq checked)
  cases found.symm.trans again
  exact supported

end

/-- What was scanned for is what is looked up, since names are normalised once and for all. -/
theorem AllDeclared.apart (idempotent : ∀ label, config.normalize (config.normalize label) = config.normalize label)
    {decls others : List (Option Decl)} {declared declared' : List DeclaredDecl} {order order' : List Nat}
    {ready ready' : State} (known : AllDeclared config decls declared order ready)
    (known' : AllDeclared config others declared' order' ready')
    (apart : Dependencies.Apart config.normalize (decls.filterMap id) (others.filterMap id)) :
    ∀ decl ∈ declared, ∀ name ∈ decl.decl.body.freeNames config.key, ∀ other ∈ declared',
      config.normalize other.name ≠ name := by
  have key : config.key = config.normalize := funext idempotent
  intro decl member name free other listed
  rw [key] at free
  rw [known'.facts.names other listed, idempotent]
  exact apart decl.decl (mem_present.mpr (known.facts.mem member)) name free other.decl
    (mem_present.mpr (known'.facts.mem listed))

section

variable {first second : List (Option Decl)} {cache cache₁ cache₂ : Regex.Cache}
  (idempotent : ∀ label, config.normalize (config.normalize label) = config.normalize label)
  (independent : Independent config.normalize first second)
  (exact : cache.Exact) (exact₁ : cache₁.Exact) (exact₂ : cache₂.Exact)

include idempotent independent exact exact₁ exact₂

private theorem prepare_joint (supported : ∀ decl, some decl ∈ first → decl.body.Supported)
    (supported' : ∀ decl, some decl ∈ second → decl.body.Supported) {declared : List DeclaredDecl} {order : List Nat}
    {both : State} (run : prepare (first ++ second) config (.fresh cache) = (.ok (declared, order), both)) :
    ∃ left order₁ ready₁ right order₂ ready₂,
      prepare first config (.fresh cache₁) = (.ok (left, order₁), ready₁) ∧
      prepare second config (.fresh cache₂) = (.ok (right, order₂), ready₂) ∧
      declared = left ++ right.map (DeclaredDecl.renumber (ready₁.nextVar + ·)) ∧
      order = order₁ ++ order₂.map (left.length + ·) ∧
      Joint config first second left right order₁ order₂ ready₁ ready₂ both := by
  have apart := independent.forth.apart supported
  have apart' := independent.back.apart supported'
  have distinct := fun decl other member listed =>
    independent.distinct decl (mem_present.mpr member) other (mem_present.mpr listed)
  obtain ⟨left, order₁, ready₁, right, order₂, ready₂, run₁, run₂, rfl, rfl, issued⟩ :=
    (prepare_beside exact exact₁ exact₂ supported supported' apart apart' distinct).1 _ _ _ run
  have known₁ := prepare_allDeclared exact₁ run₁
  have known₂ := prepare_allDeclared exact₂ run₂
  have known := prepare_allDeclared exact run
  exact ⟨left, order₁, ready₁, right, order₂, ready₂, run₁, run₂, rfl, rfl, known₁, known₂, known, issued,
    known₁.apart idempotent known₂ apart, known₂.apart idempotent known₁ apart'⟩

private theorem elaborateAll_back {declared : List DeclaredDecl} {bodies : List (Nat × Typed Ty)} {after : State}
    (run : elaborateAll (first ++ second) config (.fresh cache) = (.ok (declared, bodies), after)) :
    ∃ left bodies₁ after₁ right bodies₂ after₂ ready rename rename',
      elaborateAll first config (.fresh cache₁) = (.ok (left, bodies₁), after₁) ∧
      elaborateAll second config (.fresh cache₂) = (.ok (right, bodies₂), after₂) ∧
      declared = left ++ right.map (DeclaredDecl.renumber (ready.nextVar + ·)) ∧
      Joined left right ready bodies bodies₁ bodies₂ after after₁ after₂ rename rename' := by
  have supported := elaborateAll_supported rfl run
  obtain ⟨order, both, prepared, completed⟩ := elaborateAll_iff.mp run
  obtain ⟨left, order₁, ready₁, right, order₂, ready₂, run₁, run₂, rfl, rfl, joint⟩ :=
    prepare_joint idempotent independent exact exact₁ exact₂
      (fun decl member => supported decl (List.mem_append_left _ member))
      (fun decl member => supported decl (List.mem_append_right _ member)) prepared
  obtain ⟨bodies₁, after₁, bodies₂, after₂, rename, rename', completed₁, completed₂, joined⟩ :=
    joint.complete_back completed
  exact ⟨left, bodies₁, after₁, right, bodies₂, after₂, ready₁, rename, rename',
    elaborateAll_iff.mpr ⟨_, _, run₁, completed₁⟩, elaborateAll_iff.mpr ⟨_, _, run₂, completed₂⟩, rfl, joined⟩

private theorem elaborateAll_forth {left right : List DeclaredDecl} {bodies₁ bodies₂ : List (Nat × Typed Ty)}
    {after₁ after₂ : State} (run₁ : elaborateAll first config (.fresh cache₁) = (.ok (left, bodies₁), after₁))
    (run₂ : elaborateAll second config (.fresh cache₂) = (.ok (right, bodies₂), after₂)) :
    ∃ declared bodies after,
      elaborateAll (first ++ second) config (.fresh cache) = (.ok (declared, bodies), after) := by
  have supported := elaborateAll_supported rfl run₁
  have supported' := elaborateAll_supported rfl run₂
  have distinct := fun decl other member listed =>
    independent.distinct decl (mem_present.mpr member) other (mem_present.mpr listed)
  obtain ⟨order₁, ready₁, prepared₁, completed₁⟩ := elaborateAll_iff.mp run₁
  obtain ⟨order₂, ready₂, prepared₂, completed₂⟩ := elaborateAll_iff.mp run₂
  obtain ⟨declared, order, both, prepared⟩ := (prepare_beside exact exact₁ exact₂ supported supported'
    (independent.forth.apart supported) (independent.back.apart supported')
    distinct).2 _ _ _ _ _ _ prepared₁ prepared₂
  obtain ⟨_, _, _, _, _, _, again₁, again₂, rfl, rfl, joint⟩ :=
    prepare_joint idempotent independent exact exact₁ exact₂ supported supported' prepared
  cases prepared₁.symm.trans again₁
  cases prepared₂.symm.trans again₂
  obtain ⟨bodies, after, completed⟩ := joint.complete_forth completed₁ completed₂
  exact ⟨_, bodies, after, elaborateAll_iff.mpr ⟨_, _, prepared, completed⟩⟩

/-- Independent declarations are accepted together if and only if they are accepted apart. -/
theorem checkDecls_append_iff :
    (∃ program after, checkDecls (first ++ second) config (.fresh cache) = (.ok program, after)) ↔
      (∃ program after, checkDecls first config (.fresh cache₁) = (.ok program, after)) ∧
        ∃ program after, checkDecls second config (.fresh cache₂) = (.ok program, after) := by
  constructor
  · intro ⟨program, last, run⟩
    obtain ⟨⟨declared, bodies⟩, after, elaborated, resolved⟩ := bind_ok run
    obtain ⟨left, bodies₁, after₁, right, bodies₂, after₂, ready, _, _, run₁, run₂, rfl, joined⟩ :=
      elaborateAll_back idempotent independent exact exact₁ exact₂ elaborated
    obtain ⟨⟨program₁, last₁, resolved₁⟩, program₂, last₂, resolved₂⟩ :=
      (joined.resolveAll_iff (elaborateAll_exact elaborated).2 (elaborateAll_exact run₁).2
        (elaborateAll_exact run₂).2).mp ⟨_, _, resolved⟩
    exact ⟨⟨program₁, last₁, (bind_run run₁).trans resolved₁⟩, program₂, last₂, (bind_run run₂).trans resolved₂⟩
  · intro ⟨⟨program₁, last₁, run₁⟩, program₂, last₂, run₂⟩
    obtain ⟨⟨left, bodies₁⟩, after₁, elaborated₁, resolved₁⟩ := bind_ok run₁
    obtain ⟨⟨right, bodies₂⟩, after₂, elaborated₂, resolved₂⟩ := bind_ok run₂
    obtain ⟨declared, bodies, after, elaborated⟩ :=
      elaborateAll_forth idempotent independent exact exact₁ exact₂ elaborated₁ elaborated₂
    obtain ⟨_, _, _, _, _, _, ready, _, _, again₁, again₂, rfl, joined⟩ :=
      elaborateAll_back idempotent independent exact exact₁ exact₂ elaborated
    cases elaborated₁.symm.trans again₁
    cases elaborated₂.symm.trans again₂
    obtain ⟨program, last, resolved⟩ :=
      (joined.resolveAll_iff (elaborateAll_exact elaborated).2 (elaborateAll_exact elaborated₁).2
        (elaborateAll_exact elaborated₂).2).mpr ⟨⟨_, _, resolved₁⟩, _, _, resolved₂⟩
    exact ⟨program, last, (bind_run elaborated).trans resolved⟩

private theorem checkDecls_append {program program₁ program₂ : Program} {last last₁ last₂ : State}
    (run : checkDecls (first ++ second) config (.fresh cache) = (.ok program, last))
    (run₁ : checkDecls first config (.fresh cache₁) = (.ok program₁, last₁))
    (run₂ : checkDecls second config (.fresh cache₂) = (.ok program₂, last₂)) :
    program.printed = program₁.printed ++ program₂.printed ∧
      program.warnings = program₁.warnings ++ program₂.warnings := by
  obtain ⟨⟨declared, bodies⟩, after, elaborated, resolved⟩ := bind_ok run
  obtain ⟨⟨left, bodies₁⟩, after₁, elaborated₁, resolved₁⟩ := bind_ok run₁
  obtain ⟨⟨right, bodies₂⟩, after₂, elaborated₂, resolved₂⟩ := bind_ok run₂
  obtain ⟨_, _, _, _, _, _, ready, _, _, again₁, again₂, rfl, joined⟩ :=
    elaborateAll_back idempotent independent exact exact₁ exact₂ elaborated
  cases elaborated₁.symm.trans again₁
  cases elaborated₂.symm.trans again₂
  exact joined.resolved (elaborateAll_exact elaborated).2 (elaborateAll_exact elaborated₁).2
    (elaborateAll_exact elaborated₂).2 resolved resolved₁ resolved₂

end

private theorem isOk_iff {α : Type} {step : Session α} {before : State} :
    (step config before).1.isOk = true ↔ ∃ value after, step config before = (.ok value, after) := by
  cases outcome : step config before with
  | mk result after => cases result <;> simp [Except.isOk, Except.toBool]

end Session

open Session

/-- Whatever three checkers were used for before: one accepts two independent sets of declarations together if and only
if the others accept each of them on its own. All declarations then have the types that they have on their own, and the
warnings are those of the first set, followed by those of the second. -/
theorem independent_checked_together (config : Config) (history history₁ history₂ : List (List (Option Decl)))
    (first second : List (Option Decl))
    (idempotent : ∀ label, config.normalize (config.normalize label) = config.normalize label)
    (independent : Independent config.normalize first second) :
    ((((Checker.new config).afterAll history).check (first ++ second)).1.isOk ↔
      (((Checker.new config).afterAll history₁).check first).1.isOk ∧
        (((Checker.new config).afterAll history₂).check second).1.isOk) ∧
    ∀ program program₁ program₂,
      (((Checker.new config).afterAll history).check (first ++ second)).1 = .ok program →
      (((Checker.new config).afterAll history₁).check first).1 = .ok program₁ →
      (((Checker.new config).afterAll history₂).check second).1 = .ok program₂ →
      program.printed = program₁.printed ++ program₂.printed ∧
        program.warnings = program₁.warnings ++ program₂.warnings := by
  have ready := Checker.Ready.new config
  obtain ⟨cache, exact, run⟩ := (ready.afterAll history).check_eq (first ++ second)
  obtain ⟨cache₁, exact₁, run₁⟩ := (ready.afterAll history₁).check_eq first
  obtain ⟨cache₂, exact₂, run₂⟩ := (ready.afterAll history₂).check_eq second
  rw [run, run₁, run₂, isOk_iff, isOk_iff, isOk_iff]
  refine ⟨checkDecls_append_iff idempotent independent exact exact₁ exact₂, ?_⟩
  intro program program₁ program₂ together alone alone'
  exact checkDecls_append idempotent independent exact exact₁ exact₂ (Prod.ext together rfl) (Prod.ext alone rfl)
    (Prod.ext alone' rfl)

/-- The second set binds a name that the first one declares, and both sets have types to be found and a warning. -/
theorem independent_checked_together_warned :
    let config : Config := ⟨fun label => if label = "Same" then "same" else label, .regular, false, false, 8⟩
    let first : List (Option Decl) := [
      some ⟨"use", [], .wildcard, .call (.name "Same") (.lit (some (.bool true)))⟩,
      some ⟨"same", ["a"], .arrow (.named "a") (.named "a"), .lam (.bind "x") (.name "x")⟩,
      some ⟨"lost", [], .wildcard, .name "nowhere"⟩]
    let second : List (Option Decl) := [
      some ⟨"text", [], .string "a+", .call (.name "copy") (.lit (some (.string "aa")))⟩,
      some ⟨"copy", ["a"], .arrow (.named "a") (.named "a"), .lam (.bind "Same") (.name "Same")⟩,
      some ⟨"gone", [], .wildcard, .name "nowhere"⟩]
    ∃ program program₁ program₂,
      (((Checker.new config).afterAll [[none]]).check (first ++ second)).1 = .ok program ∧
      (((Checker.new config).afterAll []).check first).1 = .ok program₁ ∧
      (((Checker.new config).afterAll [second]).check second).1 = .ok program₂ ∧
      program.printed = program₁.printed ++ program₂.printed ∧
        program.warnings = program₁.warnings ++ program₂.warnings := by
  intro config first second
  have idempotent : ∀ label, config.normalize (config.normalize label) = config.normalize label := by
    intro label
    by_cases same : label = "Same" <;> simp [config, same]
  have independent : Independent config.normalize first second :=
    ⟨by decide +kernel, by unfold Ignores; decide +kernel, by unfold Ignores; decide +kernel⟩
  obtain ⟨accepted, agree⟩ :=
    independent_checked_together config [[none]] [] [second] first second idempotent independent
  obtain ⟨program₁, after₁, run₁⟩ : ∃ program after,
      ((Checker.new config).afterAll []).check first = (.ok program, after) :=
    Checker.exists_of_isOk (by decide +kernel)
  obtain ⟨program₂, after₂, run₂⟩ : ∃ program after,
      ((Checker.new config).afterAll [second]).check second = (.ok program, after) :=
    Checker.exists_of_isOk (by decide +kernel)
  obtain ⟨program, after, run⟩ := Checker.exists_of_isOk (accepted.mpr ⟨by rw [run₁]; rfl, by rw [run₂]; rfl⟩)
  have same := agree program program₁ program₂ (by rw [run]) (by rw [run₁]) (by rw [run₂])
  exact ⟨program, program₁, program₂, by rw [run], by rw [run₁], by rw [run₂], same⟩

end RefinementTypes.Checking
