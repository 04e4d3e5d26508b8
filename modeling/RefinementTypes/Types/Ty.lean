import RefinementTypes.Types.Atom

/-! Working types, which may hold type variables. The same variable is referred to as mutable inside
the declaration that owns it and as immutable elsewhere; the tag belongs to the reference, so two
references are to the same variable when their numbers agree. -/

namespace RefinementTypes

/-- Whether a reference to a type variable may bind it in place. -/
inductive Mutability
  | immutable
  | mutable
deriving DecidableEq

namespace Mutability

def render : Mutability → String
  | immutable => "immutable"
  | mutable => "mutable"

end Mutability

structure TyVar where
  id : Nat
  mutability : Mutability
deriving DecidableEq

namespace TyVar

def isMutable (v : TyVar) : Bool := v.mutability = .mutable

def label (v : TyVar) : String := "'_" ++ toString v.id

def render (v : TyVar) : String := v.mutability.render ++ " " ++ v.label

end TyVar

inductive Ty
  | atom (atom : Atom)
  | arrow (domain codomain : Ty)
  | var (var : TyVar)
  /-- No type where one is due. -/
  | missing
deriving DecidableEq

namespace Ty

def formName : Ty → Option String
  | atom a => some a.formName
  | arrow _ _ => some "Arrow"
  | var _ => some "Var"
  | missing => none

/-- The written form; an arrow is bracketed where `nested`, that is, left of another arrow. -/
def renderAt (nested : Bool) : Ty → String
  | atom a => a.render
  | arrow domain codomain =>
    let body := domain.renderAt true ++ " -> " ++ codomain.renderAt false
    if nested then "(" ++ body ++ ")" else body
  | var v => if v.isMutable then v.label else "^" ++ v.label
  | missing => "<nil>"

def render (type : Ty) : String := type.renderAt false

def size : Ty → Nat
  | arrow domain codomain => domain.size + codomain.size + 1
  | _ => 1

def setMutability (mutability : Mutability) : Ty → Ty
  | arrow domain codomain =>
    arrow (domain.setMutability mutability) (codomain.setMutability mutability)
  | var v => var { v with mutability }
  | type => type

def sameVar : Ty → Ty → Bool
  | var v, var w => v.id = w.id
  | _, _ => false

end Ty

end RefinementTypes
