import Mathlib.Logic.Function.Basic
import RefinementTypes.Proofs.Instances
import RefinementTypes.Proofs.Unification

/-! Types under other numbers. The number of a variable carries no meaning: following bindings, searching for a
variable and making instances commute with every renumbering that keeps variables apart. -/

namespace RefinementTypes

namespace Ty

variable {rename other : Nat → Nat}

@[simp] def renumber (rename : Nat → Nat) : Ty → Ty
  | arrow domain codomain => arrow (domain.renumber rename) (codomain.renumber rename)
  | var v => var { v with id := rename v.id }
  | atom a => atom a
  | missing => missing

theorem renumber_inj (injective : Function.Injective rename) {first second : Ty} :
    first.renumber rename = second.renumber rename ↔ first = second := by
  refine ⟨fun same => ?_, fun same => by rw [same]⟩
  induction first generalizing second with
  | arrow domain codomain left right =>
    cases second with
    | arrow domain' codomain' =>
      simp only [renumber, arrow.injEq] at same
      rw [left same.1, right same.2]
    | atom | var | missing => cases same
  | var v =>
    cases second with
    | var w =>
      obtain ⟨id, mutability⟩ := v
      obtain ⟨id', mutability'⟩ := w
      simp only [renumber, var.injEq, TyVar.mk.injEq] at same
      rw [injective same.1, same.2]
    | arrow | atom | missing => cases same
  | atom a => cases second <;> first | exact same | cases same
  | missing => cases second <;> first | rfl | cases same

@[simp] theorem renumber_eq_atom {type : Ty} {a : Atom} : type.renumber rename = .atom a ↔ type = .atom a := by
  cases type <;> simp

theorem sameVar_renumber (injective : Function.Injective rename) (first second : Ty) :
    (first.renumber rename).sameVar (second.renumber rename) = first.sameVar second := by
  cases first <;> cases second <;> simp [renumber, sameVar, injective.eq_iff]

theorem setMutability_renumber (mutability : Mutability) (type : Ty) :
    (type.renumber rename).setMutability mutability = (type.setMutability mutability).renumber rename := by
  induction type with
  | arrow domain codomain left right => simp only [renumber, setMutability, left, right]
  | atom | var | missing => rfl

@[simp] theorem vars_renumber (type : Ty) : (type.renumber rename).vars = type.vars.map rename := by
  induction type with
  | arrow domain codomain left right => simp only [renumber, vars, left, right, List.map_append]
  | atom | var | missing => rfl

theorem renumber_congr (type : Ty) (same : ∀ id ∈ type.vars, rename id = other id) :
    type.renumber rename = type.renumber other := by
  induction type with
  | arrow domain codomain left right =>
    simp only [vars, List.mem_append] at same
    simp only [renumber, left fun id member => same id (.inl member), right fun id member => same id (.inr member)]
  | var v => simp [renumber, same v.id (by simp [vars])]
  | atom | missing => rfl

theorem renumber_fixed (type : Ty) (fixed : ∀ id ∈ type.vars, rename id = id) : type.renumber rename = type := by
  rw [renumber_congr type fixed]
  induction type with
  | arrow domain codomain left right =>
    simp only [vars, List.mem_append] at fixed
    simp only [renumber, left fun id member => fixed id (.inl member), right fun id member => fixed id (.inr member)]
  | atom | var | missing => rfl

theorem renumber_ground {type : Ty} (ground : type.Ground) : type.renumber rename = type :=
  renumber_fixed type fun _ member => absurd (Over.below ground member) (Nat.not_lt_zero _)

theorem ground_renumber {type : Ty} : (type.renumber rename).Ground ↔ type.Ground := by
  unfold Ground
  induction type with
  | arrow domain codomain left right => simp only [renumber, Over, left, right]
  | var v => simp [renumber, Over]
  | atom | missing => rfl

end Ty

namespace Subst

variable {s t : Subst} {rename : Nat → Nat}

private theorem shallow_known {type : Ty} (known : ∀ v, type ≠ .var v) : s.shallow type = type := by
  unfold shallow
  cases s.size with
  | zero => rfl
  | succ steps =>
    cases type with
    | var v => exact absurd rfl (known v)
    | atom | arrow | missing => rfl

/-- Two substitutions hold the same bindings of some variables, under other numbers. -/
structure Matches (rename : Nat → Nat) (inside : Nat → Prop) (s t : Subst) : Prop where
  lookup : ∀ id, inside id → t.lookup (rename id) = (s.lookup id).map (Ty.renumber rename)
  closed : ∀ id type, inside id → s.lookup id = some type → ∀ inner ∈ type.vars, inside inner
  acyclic : s.Acyclic
  acyclic' : t.Acyclic

namespace Matches

variable {inside : Nat → Prop}

theorem apply (same : Matches rename inside s t) (type : Ty) (known : ∀ id ∈ type.vars, inside id) :
    t.apply (type.renumber rename) = (s.apply type).renumber rename := by
  induction type using same.acyclic.induction with
  | atom | missing => simp
  | arrow domain codomain left right =>
    simp only [Ty.vars, List.mem_append] at known
    simp only [Ty.renumber, apply_arrow, left fun id member => known id (.inl member),
      right fun id member => known id (.inr member)]
  | free v none =>
    have none' : t.lookup (rename v.id) = .none := by simp [same.lookup v.id (known v.id (by simp [Ty.vars])), none]
    rw [apply_unbound none, Ty.renumber, apply_unbound none']
  | bound v type found ih =>
    have belongs := known v.id (by simp [Ty.vars])
    have found' : t.lookup (rename v.id) = some (type.renumber rename) := by simp [same.lookup v.id belongs, found]
    rw [apply_bound same.acyclic found, Ty.renumber, apply_bound same.acyclic' found']
    exact ih (same.closed v.id type belongs found)

variable (same : Matches rename (fun _ => True) s t)

include same

theorem shallow (type : Ty) : t.shallow (type.renumber rename) = (s.shallow type).renumber rename := by
  induction type using same.acyclic.induction with
  | atom | missing | arrow => rw [shallow_known (by simp), shallow_known (by simp)]
  | free v none =>
    have none' : t.lookup (rename v.id) = .none := by simp [same.lookup v.id trivial, none]
    rw [shallow_unbound none, Ty.renumber, shallow_unbound none']
  | bound v type found ih =>
    have found' : t.lookup (rename v.id) = some (type.renumber rename) := by simp [same.lookup v.id trivial, found]
    rw [shallow_bound same.acyclic found, Ty.renumber, shallow_bound same.acyclic' found', ih]

theorem occurs (injective : Function.Injective rename) (id : Nat) (type : Ty) :
    t.occurs (rename id) (type.renumber rename) = s.occurs id type := by
  induction type using same.acyclic.induction with
  | atom | missing => rw [occurs_closed rfl, occurs_closed rfl]
  | arrow domain codomain left right => simp only [Ty.renumber, occurs_arrow, left, right]
  | free v none =>
    have none' : t.lookup (rename v.id) = .none := by simp [same.lookup v.id trivial, none]
    rw [occurs_unbound none, Ty.renumber, occurs_unbound none', Bool.eq_iff_iff]
    simp [injective.eq_iff]
  | bound v type found ih =>
    have found' : t.lookup (rename v.id) = some (type.renumber rename) := by simp [same.lookup v.id trivial, found]
    rw [occurs_bound same.acyclic id found, Ty.renumber, occurs_bound same.acyclic' (rename id) found', ih,
      Bool.eq_iff_iff]
    simp [injective.eq_iff]

end Matches

end Subst

namespace Checking

variable {rename : Nat → Nat}

def renumberParams (rename : Nat → Nat) (params : List (String × Ty)) : List (String × Ty) :=
  params.map fun param => (param.1, param.2.renumber rename)

@[simp] def Obligation.renumber (rename : Nat → Nat) : Obligation → Obligation
  | conforms literal type => conforms literal (type.renumber rename)
  | assignable expected found => assignable (expected.renumber rename) (found.renumber rename)
  | instantiated params fresh generic =>
    instantiated (renumberParams rename params) { fresh with id := rename fresh.id }
      { generic with id := rename generic.id }

def Template.renumber (rename : Nat → Nat) (template : Template) : Template :=
  ⟨template.params, template.type.renumber rename⟩

private theorem lookup_renumberParams (params : List (String × Ty)) (name : String) :
    (renumberParams rename params).lookup name = (params.lookup name).map (Ty.renumber rename) :=
  lookup_mapSnd (Ty.renumber rename) params name

theorem rename_add {next : Nat} (steady : ∀ id, next ≤ id → rename (id + 1) = rename id + 1) (more : Nat) :
    rename (next + more) = rename next + more := by
  induction more with
  | zero => rfl
  | succ more ih => rw [← Nat.add_assoc, steady _ (by omega), ih, Nat.add_assoc]

theorem paramsFrom_renumber {next : Nat} (steady : ∀ id, next ≤ id → rename (id + 1) = rename id + 1)
    (params : List String) : paramsFrom (rename next) params = renumberParams rename (paramsFrom next params) := by
  induction params generalizing next with
  | nil => rfl
  | cons param rest ih =>
    have later : paramsFrom (rename next + 1) rest = renumberParams rename (paramsFrom (next + 1) rest) := by
      rw [← steady next (Nat.le_refl _)]
      exact ih fun id least => steady id (by omega)
    have named : (renumberParams rename (paramsFrom (next + 1) rest)).any (fun other => other.1 = param) =
        (paramsFrom (next + 1) rest).any fun other => other.1 = param := by
      simp [renumberParams, List.any_map, Function.comp_def]
    simp only [paramsFrom, later, named]
    split
    next => rfl
    next => simp [renumberParams]

theorem copy_renumber {next : Nat} (steady : ∀ id, next ≤ id → rename (id + 1) = rename id + 1)
    (params : List (String × Ty)) (type : Ty) :
    (type.renumber rename).copy (renumberParams rename params) (rename next) =
      (type.copy params next).renumber rename := by
  induction type generalizing next with
  | arrow domain codomain left right =>
    have later := @right (next + domain.vars.length) fun id least => steady id (by omega)
    rw [rename_add steady] at later
    simp [Ty.copy, left steady, later]
  | atom a =>
    cases a with
    | named name =>
      simp only [Ty.renumber, Ty.copy, lookup_renumberParams]
      cases params.lookup name <;> rfl
    | bottom | bool | regex | range | string | error => rfl
  | var | missing => rfl

theorem copies_renumber {next : Nat} (steady : ∀ id, next ≤ id → rename (id + 1) = rename id + 1)
    (params : List (String × Ty)) (type : Ty) :
    copies (renumberParams rename params) (rename next) (type.renumber rename) =
      (copies params next type).map (Obligation.renumber rename) := by
  induction type generalizing next with
  | arrow domain codomain left right =>
    have later := @right (next + domain.vars.length) fun id least => steady id (by omega)
    rw [rename_add steady] at later
    simp [copies, left steady, later]
  | atom | var | missing => rfl

end Checking

end RefinementTypes
