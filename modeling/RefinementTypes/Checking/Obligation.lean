import RefinementTypes.Syntax.Literal
import RefinementTypes.Types.Subst

/-! Obligations: what checking has taken for granted and the solver has to settle once more variables
are bound. -/

namespace RefinementTypes.Checking

/-- The type of a declared name. Each reference puts fresh variables for the parameters; a name bound
by a pattern has none. -/
structure Template where
  params : List String
  type : Ty
deriving DecidableEq

inductive Obligation
  /-- The literal belongs to the type. -/
  | conforms (literal : Option Literal) (type : Ty)
  /-- What is found can be used where the expected type is asked for. -/
  | assignable (expected found : Ty)
  /-- The fresh variable stands for an instance of what the generic one comes to be bound to. -/
  | instantiated (params : List (String × Ty)) (fresh generic : TyVar)
deriving DecidableEq

namespace Obligation

def apply (s : Subst) : Obligation → Obligation
  | conforms literal type => conforms literal (s.apply type)
  | assignable expected found => assignable (s.apply expected) (s.apply found)
  | instantiated params fresh generic => instantiated params fresh generic

def render : Obligation → String
  | conforms literal type => "FromLit(" ++ Literal.renderOption literal ++ ", " ++ type.render ++ ")"
  | assignable expected found => "Assignable(" ++ expected.render ++ ", " ++ found.render ++ ")"
  | instantiated _ fresh generic => "Instantiate(" ++ fresh.label ++ ", " ++ generic.label ++ ")"

end Obligation

end RefinementTypes.Checking
