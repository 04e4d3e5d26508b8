import RefinementTypes.Checking.Checker
import RefinementTypes.Proofs.Validity

/-! Well-formed sessions. Bindings have no cycles, so that following them ends, and no type refers to a
variable that was not issued; every step of checking keeps it so. -/

namespace RefinementTypes.Checking

/-- Every variable in a type was issued. -/
abbrev Issued (limit : Nat) (type : Ty) : Prop := type.Over (fun _ => True) limit

/-- The bindings have no cycles, and every variable in the bindings, the obligations and the scope was
issued. -/
structure State.WellFormed (state : State) : Prop where
  acyclic : state.subst.Acyclic
  issued : state.Over fun _ => True

private theorem State.WellFormed.fresh (cache : Regex.Cache) : (State.fresh cache).WellFormed :=
  ⟨Subst.acyclic_empty, .fresh cache⟩

namespace Session

/-- The steps of checking, applied to types whose variables are below a number. -/
inductive Operation (limit : Nat) : {α : Type} → Session α → Prop
  | lower (mutability : Mutability) (type : TypeExpr) : Operation limit (lower mutability type)
  | declare (name : String) {template : Template} (issued : Issued limit template.type) :
      Operation limit (declare name template)
  | instantiate (name : String) {template : Template} (issued : Issued limit template.type) :
      Operation limit (instantiate name template)
  | instanceOf {params : List (String × Ty)} {type : Ty} (issued : Issued limit type)
      (replaced : ∀ param ∈ params, Issued limit param.2) : Operation limit (instanceOf params type)
  | bindPat (pat : Pat) {type : Ty} (issued : Issued limit type) : Operation limit (bindPat pat type)
  | splitFunction {type : Ty} (issued : Issued limit type) : Operation limit (splitFunction type)
  | conform (literal : Option Literal) {type : Ty} (issued : Issued limit type) :
      Operation limit (conform literal type)
  | assign {expected found : Ty} (left : Issued limit expected) (right : Issued limit found) :
      Operation limit (assign expected found)
  | discharge {obligation : Obligation} (issued : obligation.Over (fun _ => True) limit) :
      Operation limit (discharge obligation)
  | solve (final : Bool) : Operation limit (solve final)
  | infer (expr : Expr) : Operation limit (infer expr)
  | check (expr : Expr) {type : Ty} (issued : Issued limit type) : Operation limit (check expr type)

variable {α : Type} {step : Session α} {config : Config} {before : State}

private theorem Operation.follows (operation : Operation before.nextVar step) :
    ∃ cost good, Follows (.over fun _ => True) cost step config before good fun cause _ => cause ≠ .alreadyBound := by
  have unknown : True → ∀ (cause : Fault) (_ : Nat), cause.Unknown → cause ≠ .alreadyBound := by
    rintro _ _ _ unknown rfl
    exact unknown
  cases operation with
  | lower mutability type =>
    exact ⟨_, _, lower_follows unknown mutability (.of_error trivial type) (.inl trivial)⟩
  | declare name issued => exact ⟨_, _, declare_follows name ⟨issued, fun _ => .inl trivial⟩⟩
  | instantiate name issued => exact ⟨_, _, instantiate_follows name ⟨issued, fun _ => .inl trivial⟩⟩
  | instanceOf issued replaced => exact ⟨_, _, instanceOf_follows (.inl trivial) issued replaced⟩
  | bindPat pat issued => exact ⟨_, _, bindPat_follows unknown (.inl trivial) issued⟩
  | splitFunction issued => exact ⟨_, _, splitFunction_follows issued⟩
  | conform literal issued => exact ⟨_, _, conform_follows unknown (fun _ => trivial) issued⟩
  | assign left right => exact ⟨_, _, assign_follows left right⟩
  | discharge issued => exact ⟨_, _, discharge_follows unknown (permits_over.mpr issued)⟩
  | solve final => exact ⟨_, _, solve_follows unknown (by simp) final⟩
  | infer expr =>
    exact ⟨_, _, elaborate_follows unknown (.of_error trivial _ (.inl trivial)) (fun _ _ => .inl trivial) (.inl trivial)
      (by rintro _ ⟨⟩)⟩
  | check expr issued =>
    exact ⟨_, _, elaborate_follows unknown (.of_error trivial _ (.inl trivial)) (fun _ _ => .inl trivial) (.inl trivial)
      (by rintro _ ⟨⟩; exact issued)⟩

/-- A session begins well formed, and however a step of checking ends, it leaves a well-formed state in
which no variable has been withdrawn and no binding changed, and it has bound no variable twice. -/
theorem operation_leaves_wellFormed :
    (∀ checker : Checker, checker.reset.state.WellFormed) ∧
      ∀ (α : Type) (step : Session α) (config : Config) (before : State), before.WellFormed →
        Operation before.nextVar step →
          (step config before).2.WellFormed ∧ before.nextVar ≤ (step config before).2.nextVar ∧
            (∀ id type, before.subst.lookup id = some type →
              (step config before).2.subst.lookup id = some type) ∧
            (step config before).1 ≠ .error (.fault .alreadyBound) := by
  refine ⟨fun checker => .fresh checker.state.cache, ?_⟩
  intro α step config before wellFormed operation
  have grows := run_grows step config before
  obtain ⟨_, _, follows⟩ : ∃ cost good, Follows _ cost step config before good _ := operation.follows
  have under : before.Under (.over fun _ => True) := State.under_over.mpr wellFormed.issued
  have ends := follows under
  refine ⟨⟨grows.acyclic wellFormed.acyclic, State.under_over.mp (ends.last under)⟩, grows.issued, grows.bindings, ?_⟩
  exact fun failed => ends.faults wellFormed.acyclic _ failed rfl

/-- A variable is compared with a function type into which it has been put already. -/
theorem operation_leaves_wellFormed_infinite :
    let type : Ty := .arrow (.var ⟨1, .mutable⟩) (.atom .bool)
    let before : State := { State.fresh .empty with nextVar := 2, subst := Subst.empty.insert 0 type }
    let config : Config := ⟨id, .regular, true, false, 8⟩
    let step := assign (.var ⟨1, .mutable⟩) (.var ⟨0, .immutable⟩)
    (step config before).1 = .error (.refused ⟨.infinite 1 type, "", none⟩) ∧
      (step config before).2.WellFormed := by
  intro type before config step
  have wellFormed : before.WellFormed := by
    refine ⟨Subst.acyclic_empty.insert (by decide), ?_, ?_, ?_⟩
    · intro binding member
      cases List.mem_singleton.mp member
      simp [before, type]
    · intro obligation member
      cases member
    · intro entry member
      cases member
  have operation : Operation before.nextVar step := .assign (by simp [before]) (by simp [before])
  exact ⟨by rfl, (operation_leaves_wellFormed.2 Unit step config before wellFormed operation).1⟩

end Session

end RefinementTypes.Checking
