import RefinementTypes.Proofs.Literals
import RefinementTypes.Proofs.Mirroring

/-! Checking inside a frame. Bodies are checked in a session that runs inside another one as they are in a session of
their own, if they refer to no hidden name. -/

namespace RefinementTypes.Checking

def DeclaredDecl.renumber (rename : Nat → Nat) (declared : DeclaredDecl) : DeclaredDecl :=
  { declared with type := declared.type.renumber rename }

namespace Session

variable {frame : Frame} {hidden fewer : String → Prop} {config : Config} {inner outer before : State}

private theorem lower_mirrors (encloses : frame.Encloses hidden inner outer) (mutability : Mutability)
    (written : TypeExpr) :
    Mirrors frame hidden (lower mutability written) (lower mutability written) config inner outer fun type type' =>
      type' = type.renumber frame.rename := by
  induction written generalizing inner outer with
  | arrow domain codomain left right =>
    refine .bind (left encloses) fun first _ _ _ same encloses => ?_
    subst same
    refine .bind (right encloses) fun second _ _ _ same encloses => ?_
    subst same
    exact .pure encloses rfl
  | wildcard | missing =>
    refine .bind (freshVar_mirrors encloses mutability) fun v _ _ _ same encloses => ?_
    subst same
    exact .pure encloses rfl
  | named name => exact .of_ok rfl rfl rfl encloses
  | bool | regex | range | string | invalid => exact .pure encloses rfl
  | foreign => exact .fail

/-- A name that a pattern binds is known to both sessions in the scope of the pattern. -/
theorem bindPat_mirrors (encloses : frame.Encloses hidden inner outer) (pat : Pat) (type : Ty) :
    Mirrors frame (fun name => hidden name ∧ pat.hides config.key name = false) (bindPat pat type)
      (bindPat pat (type.renumber frame.rename)) config inner outer Eq := by
  have open_ (free : ∀ name, pat.hides config.key name = false) :
      frame.Encloses (fun name => hidden name ∧ pat.hides config.key name = false) inner outer :=
    encloses.mono fun name away => ⟨away, free name⟩
  cases pat with
  | bind label =>
    have declared : Mirrors frame (fun name => hidden name ∧ (Pat.bind label).hides config.key name = false)
        (declare (config.normalize label) ⟨[], type⟩)
        (declare (config.normalize label) ⟨[], type.renumber frame.rename⟩) config inner outer fun _ _ => True := by
      apply declare_mirrors encloses
      intro other unlike away
      refine ⟨away, decide_eq_false (Ne.symm unlike)⟩
    have run (state : State) : normalize label config state = (.ok (config.normalize label), state) := rfl
    refine .of_run (bind_run (run inner)) (bind_run (run outer)) ?_
    exact .bind declared fun _ _ _ _ _ encloses => .bind (.trace encloses) fun _ _ _ _ _ encloses =>
      .pure encloses rfl
  | lit value =>
    exact .bind (conform_mirrors (open_ fun _ => rfl) value type) fun _ _ _ _ _ encloses => .pure encloses rfl
  | wildcard => exact .pure (open_ fun _ => rfl) rfl
  | constructor | apply | missing | foreign => exact .fail

private theorem scoped_mirrors {α α' : Type} {same : α → α' → Prop} {next : Pat → Session α} {next' : Pat → Session α'}
    {expr : Expr} (encloses : frame.Encloses hidden inner outer) (pat : Pat) (type : Ty)
    (rest : ∀ pat' inner outer, frame.Encloses (fun name => hidden name ∧ pat.hides config.key name = false)
      inner outer → Mirrors frame (fun name => hidden name ∧ pat.hides config.key name = false) (next pat')
        (next' pat') config inner outer same) :
    Mirrors frame hidden (keepingScope (locatedAt expr (bindPat pat type) >>= next))
      (keepingScope (locatedAt expr (bindPat pat (type.renumber frame.rename)) >>= next')) config inner outer same := by
  have bound : Mirrors frame (fun name => hidden name ∧ pat.hides config.key name = false)
      (locatedAt expr (bindPat pat type) >>= next)
      (locatedAt expr (bindPat pat (type.renumber frame.rename)) >>= next') config inner outer same := by
    refine .bind (.mapError (bindPat_mirrors encloses pat type)) fun pat' _ inner outer same encloses => ?_
    subst same
    exact rest pat' inner outer encloses
  exact .keepingScope encloses bound

private theorem reference_mirrors (encloses : frame.Encloses hidden inner outer) (label : String)
    (visible : ¬ hidden (config.key label)) :
    Mirrors frame hidden (reference label) (reference label) config inner outer fun typed typed' =>
      typed' = typed.map (Ty.renumber frame.rename) := by
  have found (state : State) : reference label config state =
      ((state.scope.find? (config.key label)).elim
        (do
          request (.warn (.unknownName (config.normalize label)) (.name label))
          trace fun _ => "unknown name " ++ config.normalize label
          return .name (.atom .error) (config.normalize label))
        fun template => do
          return .name (← instantiate (config.normalize label) template) (config.normalize label) :
        Session (Typed Ty)) config state := by
    have read : normalize label config state = (.ok (config.normalize label), state) := rfl
    have looked : lookup (config.normalize label) config state =
        (.ok (state.scope.find? (config.key label)), state) := rfl
    unfold reference
    rw [bind_run read, bind_run looked]
    cases state.scope.find? (config.key label) <;> rfl
  refine .of_run (found inner) (found outer) ?_
  rw [encloses.scope _ visible]
  cases inner.scope.find? (config.key label) with
  | some template =>
    refine .bind (instantiate_mirrors encloses (config.normalize label) template) fun type _ _ _ same encloses => ?_
    subst same
    exact .pure encloses rfl
  | none =>
    have warned : Mirrors frame hidden (request (.warn (.unknownName (config.normalize label)) (.name label)))
        (request (.warn (.unknownName (config.normalize label)) (.name label))) config inner outer fun _ _ => True :=
          .of_ok rfl rfl trivial (encloses.warn _ _)
    exact .bind warned fun _ _ _ _ _ encloses => .bind (.trace encloses) fun _ _ _ _ _ encloses => .pure encloses rfl

private theorem settle_mirrors {step step' : Session (Typed Ty)} {expr : Expr} {expected : Option Ty}
    (mirrors : Mirrors frame hidden step step' config inner outer fun typed typed' =>
      typed' = typed.map (Ty.renumber frame.rename)) :
    Mirrors frame hidden (settle expr expected step) (settle expr (expected.map (Ty.renumber frame.rename)) step')
      config inner outer fun typed typed' => typed' = typed.map (Ty.renumber frame.rename) := by
  refine .bind mirrors fun typed _ _ _ same encloses => ?_
  subst same
  cases expected with
  | none => exact .pure encloses rfl
  | some type =>
    rw [Typed.type_map]
    exact .bind (.mapError (assign_mirrors encloses type typed.type)) fun _ _ _ _ _ encloses => .pure encloses rfl

private theorem elaborate_mirrors (encloses : frame.Encloses hidden inner outer) (expr : Expr) (expected : Option Ty)
    (visible : ∀ name ∈ expr.freeNames config.key, ¬ hidden name) :
    Mirrors frame hidden (elaborate expr expected) (elaborate expr (expected.map (Ty.renumber frame.rename))) config
      inner outer fun typed typed' => typed' = typed.map (Ty.renumber frame.rename) := by
  induction expr, expected using elaborate_induction generalizing inner outer hidden with
  | anno expr type expected ih =>
    rw [elaborate, elaborate]
    apply settle_mirrors
    refine .bind (lower_mirrors encloses .mutable type) fun type _ _ _ same encloses => ?_
    subst same
    exact ih type encloses visible
  | lam pat body type ih =>
    rw [Option.map_some, elaborate, elaborate]
    refine .bind (.mapError (splitFunction_mirrors encloses type)) fun parts _ _ _ same encloses => ?_
    subst same
    obtain ⟨domain, codomain⟩ := parts
    have visible' : ∀ name ∈ body.freeNames config.key, ¬ (hidden name ∧ pat.hides config.key name = false) := by
      intro name member away
      refine visible name (List.mem_filter.mpr ⟨member, ?_⟩) away.1
      simp [away.2]
    apply scoped_mirrors encloses pat domain
    intro pat' _ _ encloses
    refine .bind (.mapError (ih codomain encloses visible')) fun body' _ _ _ same encloses => ?_
    subst same
    exact .pure encloses rfl
  | letElse pat bound thenBranch elseBranch expected first second third =>
    rw [elaborate, elaborate]
    have visible' : ∀ name ∈ thenBranch.freeNames config.key ++ elseBranch.freeNames config.key,
        ¬ (hidden name ∧ pat.hides config.key name = false) := by
      intro name member away
      refine visible name (List.mem_append_right _ (List.mem_filter.mpr ⟨member, ?_⟩)) away.1
      simp [away.2]
    have before := fun name member => visible name (List.mem_append_left _ member)
    refine .bind (.mapError (first encloses before)) fun bound' _ _ _ same encloses => ?_
    subst same
    rw [Typed.type_map]
    apply scoped_mirrors encloses pat bound'.type
    intro pat' _ _ encloses
    refine .bind (.mapError (second encloses fun name member => visible' name (List.mem_append_left _ member)))
      fun then' _ _ _ same encloses => ?_
    subst same
    have wanted : (expected.map (Ty.renumber frame.rename)).getD (then'.map (Ty.renumber frame.rename)).type =
        (expected.getD then'.type).renumber frame.rename := by
      cases expected <;> simp [Typed.type_map]
    simp only [wanted]
    refine .bind (.mapError (third _ encloses fun name member => visible' name (List.mem_append_right _ member)))
      fun else' _ _ _ same encloses => ?_
    subst same
    exact .pure encloses rfl
  | call func arg expected first second =>
    rw [elaborate, elaborate]
    apply settle_mirrors
    refine .bind (.mapError (first encloses fun name member => visible name (List.mem_append_left _ member)))
      fun func' _ _ _ same encloses => ?_
    subst same
    rw [Typed.type_map]
    refine .bind (.mapError (splitFunction_mirrors encloses func'.type)) fun parts _ _ _ same encloses => ?_
    subst same
    obtain ⟨domain, codomain⟩ := parts
    refine .bind (.mapError (second domain encloses fun name member => visible name (List.mem_append_right _ member)))
      fun arg' _ _ _ same encloses => ?_
    subst same
    exact .pure encloses rfl
  | literal value type notBool notRegex =>
    rw [Option.map_some, elaborate_literal type notBool notRegex, elaborate_literal _ notBool notRegex]
    exact .bind (.mapError (conform_mirrors encloses (some value) type)) fun _ _ _ _ _ encloses =>
      .pure encloses rfl
  | literalFound value notBool notRegex =>
    rw [Option.map_none, elaborate_literalFound notBool notRegex]
    exact .mapError .fail
  | name label expected =>
    rw [elaborate, elaborate]
    exact settle_mirrors (reference_mirrors encloses label (visible _ (by simp [Expr.freeNames])))
  | bool | regex | impossible | invalid =>
    rw [elaborate, elaborate]
    exact settle_mirrors (.pure encloses rfl)
  | lamFound | op =>
    rw [elaborate]
    exact .mapError .fail
  | absent | foreign | missing =>
    rw [elaborate, elaborate]
    exact .fail

theorem enterDecl_mirrors (encloses : frame.Encloses hidden inner outer) (name : String) :
    Mirrors frame hidden (enterDecl name) (enterDecl name) config inner outer fun _ _ => True :=
  .of_ok rfl rfl trivial (encloses.rename_decl name)

private theorem define_mirrors (encloses : frame.Encloses hidden inner outer) (declared : DeclaredDecl)
    (visible : ∀ name ∈ declared.decl.body.freeNames config.key, ¬ hidden name) :
    Mirrors frame hidden (define declared) (define (declared.renumber frame.rename)) config inner outer
      fun body body' => body' = body.map (Ty.renumber frame.rename) := by
  refine .bind (enterDecl_mirrors encloses declared.name) fun _ _ _ _ _ encloses => ?_
  refine .bind (.trace encloses) fun _ _ _ _ _ encloses => .mapError ?_
  have checked : Mirrors frame hidden _ (check _ _) config _ _ _ :=
    elaborate_mirrors encloses declared.decl.body (some (declared.type.setMutability .mutable)) visible
  rw [← Ty.setMutability_renumber] at checked
  refine .bind (.keepingScope encloses checked) fun body _ _ _ same encloses => ?_
  subst same
  exact .bind (solve_mirrors encloses false) fun _ _ _ _ _ encloses => .pure encloses rfl

/-- The declarations of the inner session may stand at other places in the outer one. -/
theorem defineAll_mirrors {declared declared' : List DeclaredDecl} {place : Nat → Nat}
    (encloses : frame.Encloses hidden inner outer) (order : List Nat)
    (placed : ∀ index ∈ order, declared'[place index]? = declared[index]?.map (DeclaredDecl.renumber frame.rename))
    (visible : ∀ decl ∈ declared, ∀ name ∈ decl.decl.body.freeNames config.key, ¬ hidden name) :
    Mirrors frame hidden (defineAll declared order) (defineAll declared' (order.map place)) config inner outer
      fun bodies bodies' => bodies' = bodies.map fun (index, body) =>
        (place index, body.map (Ty.renumber frame.rename)) := by
  induction order generalizing inner outer with
  | nil => exact .pure encloses rfl
  | cons index rest ih =>
    obtain ⟨here, others⟩ := List.forall_mem_cons.mp placed
    cases found : declared[index]? with
    | none =>
      rw [found] at here
      simp only [List.map_cons, defineAll, found, here, Option.map_none]
      exact .fail
    | some decl =>
      rw [found] at here
      simp only [List.map_cons, defineAll, found, here, Option.map_some]
      refine .bind (define_mirrors encloses decl (visible decl (List.mem_of_getElem? found))) ?_
      intro body _ _ _ same encloses
      subst same
      refine .bind (ih encloses others) fun bodies _ _ _ same encloses => ?_
      subst same
      exact .pure encloses rfl

private theorem generalize_mirrors (encloses : frame.Encloses hidden inner outer) (params : List String) (type : Ty) :
    Mirrors frame hidden (generalize params type) (generalize params (type.renumber frame.rename)) config inner outer
      fun template template' => template' = template.renumber frame.rename := by
  refine .of_ok rfl rfl ?_ encloses
  rw [Ty.setMutability_renumber, Template.renumber]

theorem declareAll_mirrors (encloses : frame.Encloses hidden inner outer) (named : List NamedDecl) :
    Mirrors frame hidden (declareAll named) (declareAll named) config inner outer fun declared declared' =>
      declared' = declared.map (DeclaredDecl.renumber frame.rename) := by
  induction named generalizing inner outer with
  | nil => exact .pure encloses rfl
  | cons decl rest ih =>
    refine .bind (enterDecl_mirrors encloses decl.name) fun _ _ _ _ _ encloses => ?_
    refine .bind (lower_mirrors encloses .immutable decl.decl.type) fun type _ _ _ same encloses => ?_
    subst same
    refine .bind (generalize_mirrors encloses decl.decl.params type) fun template _ _ _ same encloses => ?_
    subst same
    refine .bind (declare_mirrors encloses decl.name template fun _ _ => id) fun _ _ _ _ _ encloses => ?_
    refine .bind (.trace encloses) fun _ _ _ _ _ encloses => .bind (ih encloses) fun others _ _ _ same encloses => ?_
    subst same
    exact .pure encloses rfl

theorem declareAll_elsewhere {named : List NamedDecl} {declared : List DeclaredDecl} {before after : State}
    (run : declareAll named config before = (.ok declared, after)) (place : String) :
    ∃ place', declareAll named config { before with decl := place } =
      (.ok declared, { after with decl := place' }) := by
  cases named with
  | nil =>
    cases run
    exact ⟨place, rfl⟩
  | cons decl rest => exact ⟨after.decl, run⟩

theorem defineAll_elsewhere {declared : List DeclaredDecl} {order : List Nat} {bodies : List (Nat × Typed Ty)}
    {before after : State} (run : defineAll declared order config before = (.ok bodies, after)) (place : String) :
    ∃ place', defineAll declared order config { before with decl := place } =
      (.ok bodies, { after with decl := place' }) := by
  cases order with
  | nil =>
    cases run
    exact ⟨place, rfl⟩
  | cons index rest =>
    refine ⟨after.decl, ?_⟩
    cases found : declared[index]? with
    | none =>
      simp only [defineAll, found] at run
      cases run
    | some decl =>
      have same : define decl config { before with decl := place } = define decl config before := rfl
      simp only [defineAll, found, run_bind] at run ⊢
      rw [same]
      exact run

end Session

end RefinementTypes.Checking
