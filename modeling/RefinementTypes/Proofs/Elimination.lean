import RefinementTypes.Proofs.Unification

/-! What a binding does to types. The occurs check finds a variable just where it is left once bindings have been
followed; and a binding that passes it takes the variable out of whatever types come to, by putting its type in place
of it. -/

namespace RefinementTypes

namespace Ty

/-- Puts a type in place of a variable, whatever the tags of the references to it. -/
def replaceVar : Ty → Nat → Ty → Ty
  | arrow domain codomain, id, tree => arrow (domain.replaceVar id tree) (codomain.replaceVar id tree)
  | var v, id, tree => if v.id = id then tree else var v
  | atom a, _, _ => atom a
  | missing, _, _ => missing

private theorem replaceVar_absent {id : Nat} {type : Ty} (absent : id ∉ type.vars) (tree : Ty) :
    type.replaceVar id tree = type := by
  induction type with
  | arrow domain codomain left right =>
    obtain ⟨first, second⟩ := not_or.mp (fun inside => absent (List.mem_append.mpr inside))
    rw [replaceVar, left first, right second]
  | var v =>
    have other : v.id ≠ id := fun same => absent (List.mem_singleton.mpr same.symm)
    exact if_neg other
  | atom | missing => rfl

end Ty

namespace Subst

variable {s : Subst} {id : Nat} {type : Ty}

/-- A variable without a binding occurs in a type if and only if it is left in what the type comes to. -/
theorem occurs_iff_mem_apply (acyclic : s.Acyclic) (free : s.lookup id = none) (type : Ty) :
    s.occurs id type = true ↔ id ∈ (s.apply type).vars := by
  induction type using acyclic.induction with
  | atom | missing =>
    rw [occurs_closed rfl]
    simp [Ty.vars]
  | arrow domain codomain left right =>
    rw [occurs_arrow, Bool.or_eq_true, left, right, apply_arrow, Ty.vars, List.mem_append]
  | free v unbound =>
    rw [occurs_unbound unbound, apply_unbound unbound, Ty.vars, List.mem_singleton, beq_iff_eq]
    exact eq_comm
  | bound v inner found ih =>
    -- The variable has no binding, so it is another one.
    have other : (v.id == id) = false := by
      refine beq_false_of_ne fun same => ?_
      rw [same, free] at found
      cases found
    rw [occurs_bound acyclic id found, other, Bool.false_or, ih, apply_bound acyclic found]

/-- After a binding that closes no circle, a variable comes to what its type comes to, and all else is as before. -/
theorem apply_insert_of_acyclic (acyclic : s.Acyclic) (extended : (s.insert id type).Acyclic)
    (free : s.lookup id = none) (other : Ty) :
    (s.insert id type).apply other = (s.apply other).replaceVar id ((s.insert id type).apply type) := by
  induction other using acyclic.induction with
  | atom | missing => simp [Ty.replaceVar]
  | arrow domain codomain left right => simp only [apply_arrow, left, right, Ty.replaceVar]
  | free v unbound =>
    rw [apply_unbound unbound, Ty.replaceVar]
    split
    next same => exact apply_bound extended (by rw [lookup_insert, if_pos same])
    next different => exact apply_unbound (by rw [lookup_insert, if_neg different, unbound])
  | bound v inner found ih =>
    have different : v.id ≠ id := by
      rintro rfl
      rw [free] at found
      cases found
    rw [apply_bound acyclic found, ← ih]
    exact apply_bound extended (by rw [lookup_insert, if_neg different, found])

/-- A binding that passes the occurs check puts its type in place of the variable. -/
theorem apply_insert (acyclic : s.Acyclic) (free : s.lookup id = none) (absent : s.occurs id type = false)
    (other : Ty) : (s.insert id type).apply other = (s.apply other).replaceVar id (s.apply type) := by
  have applied := apply_insert_of_acyclic acyclic (acyclic.insert absent) free
  have left : id ∉ (s.apply type).vars := by
    rw [← occurs_iff_mem_apply acyclic free, absent]
    exact Bool.false_ne_true
  -- The variable is not left in its own type, which therefore comes to what it came to before.
  have own : (s.insert id type).apply type = s.apply type := by rw [applied, Ty.replaceVar_absent left]
  rw [applied, own]

end Subst

namespace Checking.Session

/-- For a variable without a binding, the occurs check holds of a type if and only if the variable is left in what the
type comes to. Where it does not hold, the variable can be bound to the type: bindings are still without cycles, what
any type comes to is what it came to before with the type, resolved, in place of the variable, and comparing the
variable with the type leaves just these bindings. -/
theorem solveVar_eliminates (s : Subst) (var : TyVar) (type : Ty) (acyclic : s.Acyclic)
    (free : s.lookup var.id = none) :
    (s.occurs var.id type = true ↔ var.id ∈ (s.apply type).vars) ∧
    (s.occurs var.id type = false → ∃ extended, s.bind? var.id type = some extended ∧ extended.Acyclic ∧
      (∀ other, extended.apply other = (s.apply other).replaceVar var.id (s.apply type)) ∧
      ∀ config (before : State), before.subst = s →
        ∃ after, solveVar var type config before = (.ok (), after) ∧ after.subst = extended) := by
  refine ⟨Subst.occurs_iff_mem_apply acyclic free type, fun absent => ⟨s.insert var.id type, ?_, ?_, ?_, ?_⟩⟩
  · rw [Subst.bind?, free]
  · exact acyclic.insert absent
  · exact Subst.apply_insert acyclic free absent
  · rintro config before rfl
    obtain ⟨after, run, alike⟩ := solveVar_absent config free absent
    exact ⟨after, run, alike.subst⟩

/-- A variable is met through the binding of another; bound, it is replaced at references of both tags. -/
theorem solveVar_eliminates_tagged :
    let s := Subst.empty.insert 0 (.arrow (.var ⟨1, .immutable⟩) (.atom .bool))
    let type : Ty := .arrow (.var ⟨2, .mutable⟩) (.atom .regex)
    s.Acyclic ∧ s.lookup 1 = none ∧ s.occurs 1 (.var ⟨0, .mutable⟩) = true ∧
      ∃ extended, s.bind? 1 type = some extended ∧ extended.Acyclic ∧
        extended.apply (.arrow (.var ⟨0, .mutable⟩) (.var ⟨1, .mutable⟩)) =
          .arrow (.arrow type (.atom .bool)) type := by
  intro s type
  have acyclic : s.Acyclic := Subst.acyclic_empty.insert (by decide)
  obtain ⟨met, _⟩ := solveVar_eliminates s ⟨1, .mutable⟩ (.var ⟨0, .mutable⟩) acyclic rfl
  obtain ⟨_, binds⟩ := solveVar_eliminates s ⟨1, .mutable⟩ type acyclic rfl
  obtain ⟨extended, bound, acyclic', applied, _⟩ := binds (by decide)
  refine ⟨acyclic, rfl, met.mpr (by decide), extended, bound, acyclic', ?_⟩
  rw [applied]
  rfl

end Checking.Session

end RefinementTypes
