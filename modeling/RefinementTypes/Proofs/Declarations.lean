import RefinementTypes.Checking.Checker
import RefinementTypes.Proofs.Derivations

/-! Checking of declarations up to the point where all obligations are met. Names are declared, bodies
are checked one after another, and the solver runs; what holds of each body is kept while others are
checked. -/

namespace RefinementTypes

namespace Checking

namespace Session

variable {α : Type} {reading : Reading} {assigned : Assignment} {config : Config} {before after : State}

theorem Establishes.withinDecl {step : Session α} {claim : α → Prop}
    (establishes : Establishes reading step config before claim) :
    Establishes reading (Session.withinDecl step) config before claim :=
  fun exact value after run => establishes exact value after (withinDecl_ok run)

/-- What checking any expression establishes is established of the body of a declaration. -/
theorem define_establishes {claim : Typed Ty → Prop}
    (body : ∀ expr expected before, Establishes reading (elaborate expr expected) config before claim)
    (declared : DeclaredDecl) : Establishes reading (define declared) config before claim := by
  refine .bind (Quiet.enterDecl _).establishes fun _ _ _ => .bind .trace fun _ _ _ => ?_
  refine .withinDecl (.bind (.keepingScope (body _ _ _)) fun body _ _ => ?_)
  exact .bind (solve_establishes false) fun _ _ _ => .pure fun _ holds _ _ => holds

theorem defineAll_establishes {claim : Typed Ty → Prop}
    (body : ∀ expr expected before, Establishes reading (elaborate expr expected) config before claim)
    (declared : List DeclaredDecl) (order : List Nat) :
    Establishes reading (defineAll declared order) config before fun bodies => ∀ body ∈ bodies, claim body.2 := by
  induction order generalizing before with
  | nil => exact .pure fun _ member => by cases member
  | cons index rest ih =>
    unfold defineAll
    split
    next => exact .fault
    next decl _ =>
      refine .bind (define_establishes body decl) fun _ _ _ => .bind ih fun _ _ _ => .pure fun all first => ?_
      exact List.forall_mem_cons.mpr ⟨first, all⟩

private theorem define_derives (trees : ∀ id, (assigned id).Over Ty.Proper 0) (allowed : before.Over Ty.Proper)
    {declared : DeclaredDecl} (possible : declared.decl.body.ImpossibleFree)
    (valid : declared.type.Over Ty.Proper before.nextVar) :
    Establishes assigned (define declared) config before fun body =>
      ∀ env, Describes assigned before.scope env →
        WellTyped config env (declared.type.image assigned) (body.map (·.image assigned)) := by
  refine .bind (Quiet.enterDecl _).establishes fun _ entered first => ?_
  refine .bind .trace fun _ ready second => .withinDecl ?_
  have alike := ((Quiet.enterDecl _).result first).1.trans ((Quiet.trace _).result second).1
  have allowed' := allowed.alike alike
  have expected : ∀ type ∈ some (declared.type.setMutability .mutable), type.Over Ty.Proper ready.nextVar := by
    rintro _ ⟨⟩
    rw [alike.nextVar]
    exact Ty.over_setMutability.mpr valid
  refine .bind (.keepingScope (elaborate_derives trees allowed' _ _ possible expected)) fun body _ third => ?_
  obtain ⟨inner, checked, rfl⟩ := keepingScope_ok third
  have reported : Ty.Proper (.atom .error) := .atom (by simp)
  obtain ⟨issued, _, all⟩ := allowed'.elaborate (.of_error reported _ (.inr possible)) (fun _ _ => .inl reported)
    expected checked
  refine .bind (solve_establishes false) fun _ _ _ => .pure fun _ derived _ _ env describes => ?_
  have result := (derived.2 _ rfl).consistent_image trees ((expected _ rfl).mono issued) all.type
  rw [Ty.image_setMutability] at result
  refine ⟨(valid.image trees).ground, Typed.all_map (all.imp fun _ fits => (fits.image trees).ground),
    derived.1 env ?_, ?_⟩
  · rw [alike.scope]
    exact describes
  · rw [Typed.type_map]
    exact result

theorem defineAll_derives (trees : ∀ id, (assigned id).Over Ty.Proper 0) (allowed : before.Over Ty.Proper)
    {declared : List DeclaredDecl} (order : List Nat)
    (possible : ∀ decl ∈ declared, decl.decl.body.ImpossibleFree)
    (valid : ∀ decl ∈ declared, decl.type.Over Ty.Proper before.nextVar) :
    Establishes assigned (defineAll declared order) config before fun bodies =>
      ∀ env, Describes assigned before.scope env → ∀ body ∈ bodies, ∃ decl, declared[body.1]? = some decl ∧
        WellTyped config env (decl.type.image assigned) (body.2.map (·.image assigned)) := by
  induction order generalizing before with
  | nil => exact .pure fun _ _ _ member => by cases member
  | cons index rest ih =>
    unfold defineAll
    split
    next => exact .fault
    next decl found =>
      have member := List.mem_of_getElem? found
      refine .bind (define_derives trees allowed (possible decl member) (valid decl member)) fun body _ run => ?_
      have reported : Ty.Proper (.atom .error) := .atom (by simp)
      obtain ⟨issued, allowed', _⟩ := allowed.define (.of_error reported _ (.inr (possible decl member)))
        (fun _ _ => .inl reported) (valid decl member) run
      refine .bind (ih allowed' fun decl member => (valid decl member).mono issued) fun others _ _ => ?_
      refine .pure fun all first env describes => ?_
      refine List.forall_mem_cons.mpr ⟨⟨decl, found, first env describes⟩, all env ?_⟩
      rw [((define_uses (.refl _) decl).leaves run).scope (by decide)]
      exact describes

end Session

end Checking

end RefinementTypes
