import RefinementTypes.Types.Ty

/-! Bindings of type variables. Bindings are added and never changed or removed, and a binding may
refer to variables that are bound in turn. Resolving a type follows bindings, which ends whenever no
variable occurs in its own resolution: a chain of bindings then meets each bound variable at most
once, so following as many steps as there are bindings is enough. -/

namespace RefinementTypes

/-- What variables are bound to, the newest binding first. -/
structure Subst where
  bindings : List (Nat × Ty)

namespace Subst

def empty : Subst := ⟨[]⟩

def size (s : Subst) : Nat := s.bindings.length

def lookup (s : Subst) (id : Nat) : Option Ty := s.bindings.lookup id

def insert (s : Subst) (id : Nat) (type : Ty) : Subst := ⟨(id, type) :: s.bindings⟩

def bind? (s : Subst) (id : Nat) (type : Ty) : Option Subst :=
  match s.lookup id with
  | some _ => none
  | none => some (s.insert id type)

def toSorted (s : Subst) : List (Nat × Ty) := s.bindings.mergeSort fun a b => a.1 ≤ b.1

/-- The number of nodes in all bindings together. -/
def weight (s : Subst) : Nat :=
  s.bindings.foldr (fun binding total => binding.2.size + 1 + total) 0

/-- Follows bindings, for at most `steps` steps, until the type is no bound variable. -/
def shallowN (s : Subst) : Nat → Ty → Ty
  | 0, type => type
  | steps + 1, .var v =>
    match s.lookup v.id with
    | some bound => s.shallowN steps bound
    | none => .var v
  | _ + 1, type => type

def shallow (s : Subst) (type : Ty) : Ty := s.shallowN s.size type

/-- Replaces the bound variables in a type, each binding being put through `follow`. -/
def expand (s : Subst) (follow : Ty → Ty) : Ty → Ty
  | .arrow domain codomain => .arrow (s.expand follow domain) (s.expand follow codomain)
  | .var v =>
    match s.lookup v.id with
    | some bound => follow bound
    | none => .var v
  | type => type

def applyN (s : Subst) : Nat → Ty → Ty
  | 0, type => type
  | steps + 1, type => s.expand (s.applyN steps) type

/-- Resolves every bound variable within a type; unbound variables stay. -/
def apply (s : Subst) (type : Ty) : Ty := s.applyN s.size type

/-- Whether the variable is met in a type, each binding being searched by `follow`. -/
def occursWith (s : Subst) (id : Nat) (follow : Ty → Bool) : Ty → Bool
  | .arrow domain codomain => s.occursWith id follow domain || s.occursWith id follow codomain
  | .var v =>
    v.id == id ||
      match s.lookup v.id with
      | some bound => follow bound
      | none => false
  | _ => false

def occursN (s : Subst) (id : Nat) : Nat → Ty → Bool
  | 0, type => s.occursWith id (fun _ => false) type
  | steps + 1, type => s.occursWith id (s.occursN id steps) type

def occurs (s : Subst) (id : Nat) (type : Ty) : Bool := s.occursN id s.size type

end Subst

end RefinementTypes
