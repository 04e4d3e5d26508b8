import RefinementTypes.Text.Quoted

/-! Types without parts. `bottom` is the type of what never yields a value, `error` that of what has
already been reported, and `named` refers to a type parameter of a declaration. -/

namespace RefinementTypes

inductive Atom
  | bottom
  | bool
  | regex
  /-- The integers from `low` on that are below `high`. -/
  | range (low high : Int)
  /-- The strings in which the pattern has a match. -/
  | string (pattern : String)
  | named (name : String)
  | error
deriving DecidableEq

namespace Atom

def formName : Atom → String
  | bottom => "Bottom"
  | bool => "Bool"
  | regex => "Regex"
  | range _ _ => "Range"
  | string _ => "String"
  | named _ => "Named"
  | error => "Error"

def render : Atom → String
  | bottom => "Bottom"
  | bool => "Bool"
  | regex => "Regex"
  | range low high => "Range(" ++ toString low ++ ", " ++ toString high ++ ")"
  | string pattern => "String(" ++ Text.quote pattern ++ ")"
  | named name => name
  | error => "Error"

end Atom

end RefinementTypes
