import RefinementTypes.Proofs.Ranking

/-! Type trees. A working type stands for the trees that it becomes once each variable is assigned one,
and bindings without cycles can always be met by an assignment. Two relations on trees say where a
type may be used: `Admits` has a direction, `Consistent` has none. -/

namespace RefinementTypes

/-- What each variable stands for, whatever the tags of the references to it. -/
abbrev Assignment := Nat → Ty

namespace Ty

@[simp] def image (assigned : Assignment) : Ty → Ty
  | atom a => atom a
  | arrow domain codomain => arrow (domain.image assigned) (codomain.image assigned)
  | var v => assigned v.id
  | missing => missing

theorem vars_setMutability (mutability : Mutability) (type : Ty) :
    (type.setMutability mutability).vars = type.vars := by
  induction type with
  | arrow domain codomain left right => simp only [setMutability, vars, left, right]
  | atom | var | missing => rfl

@[simp] theorem image_setMutability (assigned : Assignment) (mutability : Mutability) (type : Ty) :
    (type.setMutability mutability).image assigned = type.image assigned := by
  induction type with
  | arrow domain codomain left right => simp [setMutability, left, right]
  | atom _ | var _ | missing => rfl

theorem image_of_sameVar (assigned : Assignment) {first second : Ty} (same : first.sameVar second = true) :
    first.image assigned = second.image assigned := by
  cases first <;> cases second <;> simp_all [sameVar]

/-- The leaves of a type are allowed, and its variables are below a number. -/
@[simp] def Over (leaf : Ty → Prop) (limit : Nat) : Ty → Prop
  | atom a => leaf (atom a)
  | arrow domain codomain => domain.Over leaf limit ∧ codomain.Over leaf limit
  | var v => v.id < limit
  | missing => leaf missing

/-- Leaves among which are all atoms but those of what never yields a value and of what has been reported. -/
class Leaves (leaf : Ty → Prop) : Prop where
  proper : ∀ {atom : Atom}, atom ≠ .bottom → atom ≠ .error → leaf (.atom atom)

instance : Leaves fun _ => True := ⟨fun _ _ => trivial⟩

variable {leaf : Ty → Prop} {limit : Nat} {type : Ty}

theorem Over.mono {more : Nat} (allowed : type.Over leaf limit) (le : limit ≤ more) : type.Over leaf more := by
  induction type with
  | arrow domain codomain left right => exact ⟨left allowed.1, right allowed.2⟩
  | var v => exact Nat.lt_of_lt_of_le allowed le
  | atom _ | missing => exact allowed

theorem Over.below {id : Nat} (allowed : type.Over leaf limit) (inside : id ∈ type.vars) : id < limit := by
  induction type with
  | arrow domain codomain left right =>
    rcases List.mem_append.mp inside with first | second
    · exact left allowed.1 first
    · exact right allowed.2 second
  | var v =>
    cases List.mem_singleton.mp inside
    exact allowed
  | atom _ | missing => cases inside

@[simp] theorem over_setMutability {mutability : Mutability} :
    (type.setMutability mutability).Over leaf limit ↔ type.Over leaf limit := by
  induction type with
  | arrow domain codomain left right => simp [setMutability, left, right]
  | atom _ | var _ | missing => rfl

theorem Over.image {assigned : Assignment} (allowed : type.Over leaf limit)
    (trees : ∀ id, (assigned id).Over leaf 0) : (type.image assigned).Over leaf 0 := by
  induction type with
  | arrow domain codomain left right => exact ⟨left allowed.1, right allowed.2⟩
  | var v => exact trees v.id
  | atom _ | missing => exact allowed

/-- A tree: no variable is left in it, and no part of it is missing. -/
def Ground (type : Ty) : Prop := type.Over (· ≠ missing) 0

/-- Of two trees, the first is expected where the second is found. -/
inductive Admits : Ty → Ty → Prop
  | refl (type : Ty) : Admits type type
  | bottom (expected : Ty) : Admits expected (atom .bottom)
  | errorExpected (found : Ty) : Admits (atom .error) found
  | errorFound (expected : Ty) : Admits expected (atom .error)
  | arrow {domain codomain domain' codomain' : Ty} (argument : Admits domain' domain)
      (result : Admits codomain codomain') : Admits (arrow domain codomain) (arrow domain' codomain')

/-- Two trees agree up to what has already been reported as an error. -/
inductive Consistent : Ty → Ty → Prop
  | refl (type : Ty) : Consistent type type
  | errorLeft (type : Ty) : Consistent (atom .error) type
  | errorRight (type : Ty) : Consistent type (atom .error)
  | arrow {domain codomain domain' codomain' : Ty} (argument : Consistent domain domain')
      (result : Consistent codomain codomain') :
      Consistent (arrow domain codomain) (arrow domain' codomain')

theorem Consistent.symm {first second : Ty} (consistent : Consistent first second) :
    Consistent second first := by
  induction consistent with
  | refl type => exact .refl type
  | errorLeft type => exact .errorRight type
  | errorRight type => exact .errorLeft type
  | arrow _ _ argument result => exact .arrow argument result

/-- Without the type of what never yields a value, direction does not matter. -/
theorem Admits.consistent {expected found : Ty} (admits : Admits expected found)
    (absent : ¬ leaf (atom .bottom)) (allowed : found.Over leaf limit) (above : expected.Over leaf limit) :
    Consistent expected found := by
  induction admits with
  | refl type => exact .refl type
  | bottom _ => exact absurd allowed absent
  | errorExpected found => exact .errorLeft found
  | errorFound expected => exact .errorRight expected
  | arrow _ _ argument result =>
    exact .arrow (argument above.1 allowed.1).symm (result allowed.2 above.2)

end Ty

namespace Subst

variable {s : Subst}

section Preserves

variable {good : Ty → Prop} (bound : ∀ v type, good (.var v) → s.lookup v.id = some type → good type)
include bound

theorem shallow_preserves {type : Ty} (holds : good type) : good (s.shallow type) := by
  unfold shallow
  generalize s.size = steps
  induction steps generalizing type with
  | zero => exact holds
  | succ steps ih =>
    cases type with
    | var v =>
      simp only [shallowN]
      cases found : s.lookup v.id with
      | none => exact holds
      | some inner => exact ih (bound v inner holds found)
    | atom _ | arrow _ _ | missing => exact holds

theorem apply_preserves (arrow : ∀ domain codomain, good (.arrow domain codomain) ↔ good domain ∧ good codomain)
    {type : Ty} (holds : good type) : good (s.apply type) := by
  unfold apply
  generalize s.size = steps
  induction steps generalizing type with
  | zero => exact holds
  | succ steps ih =>
    simp only [applyN]
    induction type with
    | arrow domain codomain left right =>
      obtain ⟨first, second⟩ := (arrow _ _).mp holds
      exact (arrow _ _).mpr ⟨left first, right second⟩
    | var v =>
      simp only [expand]
      cases found : s.lookup v.id with
      | none => exact holds
      | some inner => exact ih (bound v inner holds found)
    | atom _ | missing => exact holds

end Preserves

/-- An assignment gives each bound variable the tree of its binding. -/
def Agrees (s : Subst) (assigned : Assignment) : Prop :=
  ∀ id type, s.lookup id = some type → assigned id = type.image assigned

theorem Agrees.shallow {assigned : Assignment} (agrees : s.Agrees assigned) (type : Ty) :
    (s.shallow type).image assigned = type.image assigned := by
  let same (other : Ty) : Prop := other.image assigned = type.image assigned
  have bound (v : TyVar) (inner : Ty) (holds : same (.var v)) (found : s.lookup v.id = some inner) : same inner :=
    (agrees v.id inner found).symm.trans holds
  exact shallow_preserves bound rfl

theorem Agrees.apply {assigned : Assignment} (agrees : s.Agrees assigned) (type : Ty) :
    (s.apply type).image assigned = type.image assigned := by
  unfold Subst.apply
  generalize s.size = steps
  induction steps generalizing type with
  | zero => rfl
  | succ steps ih =>
    induction type with
    | arrow domain codomain left right =>
      simp only [applyN, expand, Ty.image] at left right ⊢
      rw [left, right]
    | var v =>
      simp only [applyN, expand]
      cases found : s.lookup v.id with
      | none => rfl
      | some bound => exact (ih bound).trans (agrees v.id bound found).symm
    | atom _ | missing => rfl

theorem apply_over {leaf : Ty → Prop} {limit : Nat}
    (bound : ∀ id type, s.lookup id = some type → type.Over leaf limit)
    {type : Ty} (allowed : type.Over leaf limit) : (s.apply type).Over leaf limit :=
  apply_preserves (fun v inner _ found => bound v.id inner found) (fun _ _ => Iff.rfl) allowed

/-- The assignment that resolves bound variables and gives all others one tree. -/
def solution (s : Subst) (tree : Ty) (id : Nat) : Ty :=
  (s.apply (.var ⟨id, .mutable⟩)).image fun _ => tree

theorem image_solution (acyclic : s.Acyclic) (tree type : Ty) :
    type.image (s.solution tree) = (s.apply type).image fun _ => tree := by
  induction type with
  | arrow domain codomain left right => simp [left, right]
  | var v =>
    simp only [Ty.image, solution]
    cases found : s.lookup v.id with
    | none => rw [apply_unbound found, apply_unbound (v := ⟨v.id, .mutable⟩) found, Ty.image, Ty.image]
    | some bound => rw [apply_bound acyclic found, apply_bound (v := ⟨v.id, .mutable⟩) acyclic found]
  | atom _ | missing => simp

theorem Acyclic.solution_agrees (acyclic : s.Acyclic) (tree : Ty) : s.Agrees (s.solution tree) := by
  intro id type found
  rw [image_solution acyclic]
  simp only [solution]
  rw [apply_bound (v := ⟨id, .mutable⟩) acyclic found]

theorem solution_over {leaf : Ty → Prop} {limit : Nat} {tree : Ty}
    (bound : ∀ id type, s.lookup id = some type → type.Over leaf limit) (fits : tree.Over leaf 0)
    (id : Nat) : (s.solution tree id).Over leaf 0 := by
  have allowed : (s.apply (.var ⟨id, .mutable⟩)).Over leaf (max limit (id + 1)) := by
    apply apply_over
    · intro other type found
      exact (bound other type found).mono (Nat.le_max_left _ _)
    · simp only [Ty.Over]
      omega
  exact allowed.image fun _ => fits

end Subst

end RefinementTypes
