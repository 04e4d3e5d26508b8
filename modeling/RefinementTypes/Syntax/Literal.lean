import RefinementTypes.Text.Quoted

/-! Literal values and their written form. A tree may lack a literal where one is due, so the written
form is given for an optional literal. -/

namespace RefinementTypes

inductive Literal
  | bool (value : Bool)
  | int (value : Int)
  | string (value : String)
  | regex (source : String)
deriving DecidableEq

namespace Literal

def kindName : Literal → String
  | bool _ => "Boolean"
  | int _ => "Integer"
  | string _ => "String"
  | regex _ => "Regex"

def render : Literal → String
  | bool true => "true"
  | bool false => "false"
  | int value => toString value
  | string value => Text.quote value
  | regex source => "/" ++ source ++ "/"

def renderOption : Option Literal → String
  | some literal => literal.render
  | none => "<nil>"

end Literal

end RefinementTypes
