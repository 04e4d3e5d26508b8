import RefinementTypes.Text.Quoted

/-! Types as they are written in declarations. A `wildcard` asks for the type to be found, and so does
a `missing` type; `invalid` marks one whose fault has been reported before; `foreign` is a form
known only by its name. -/

namespace RefinementTypes

inductive TypeExpr
  | bool
  | regex
  | range (low high : Int)
  | string (pattern : String)
  | arrow (domain codomain : TypeExpr)
  | named (name : String)
  | wildcard
  | invalid
  | foreign (form : String)
  | missing
deriving DecidableEq

namespace TypeExpr

def formName : TypeExpr → Option String
  | bool => some "Bool"
  | regex => some "Regex"
  | range _ _ => some "Range"
  | string _ => some "String"
  | arrow _ _ => some "Arrow"
  | named _ => some "Named"
  | wildcard => some "Wildcard"
  | invalid => some "Invalid"
  | foreign form => some form
  | missing => none

/-- The written form; an arrow is bracketed where `nested`, that is, left of another arrow. -/
def renderAt (nested : Bool) : TypeExpr → String
  | bool => "Bool"
  | regex => "Regex"
  | range low high => "Range(" ++ toString low ++ ", " ++ toString high ++ ")"
  | string pattern => "String(" ++ Text.quote pattern ++ ")"
  | arrow domain codomain =>
    let body := domain.renderAt true ++ " -> " ++ codomain.renderAt false
    if nested then "(" ++ body ++ ")" else body
  | named name => name
  | wildcard | missing => "_"
  | invalid => "<invalid>"
  | foreign _ => ""

def render (type : TypeExpr) : String := type.renderAt false

end TypeExpr

end RefinementTypes
