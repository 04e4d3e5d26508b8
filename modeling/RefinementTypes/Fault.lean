/-! Faults: conditions that no rule covers. Unlike a refusal of a program they say that a tree, a type
or a request was not of a known form. -/

namespace RefinementTypes

inductive Fault
  | unknownExpr
  | unknownPat
  | unknownTypeExpr
  | unknownTy
  | exprForm (form : String)
  | patForm (form : String)
  | alreadyBound
  | missingType
  | unissuedType (id : Nat)
  | absent
  /-- A comparison went deeper than its bound. -/
  | depthLimit
  /-- The solver was stopped before it had settled. -/
  | roundLimit
deriving DecidableEq

namespace Fault

def message : Fault → String
  | unknownExpr => "unknown expression:"
  | unknownPat => "unknown pattern:"
  | unknownTypeExpr => "unknown surface type:"
  | unknownTy => "unknown working type:"
  | exprForm form => "unknown expression type: " ++ form
  | patForm form => "unknown pattern type: " ++ form
  | alreadyBound => "type-variable is already bound"
  | missingType => "cannot intern a nil type"
  | unissuedType id => "type id (types.TypeId) " ++ toString id
  | absent => "runtime error"
  | depthLimit => "depth limit reached"
  | roundLimit => "round limit reached"

end Fault

end RefinementTypes
