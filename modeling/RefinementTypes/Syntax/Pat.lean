import RefinementTypes.Syntax.Literal

/-! Patterns: the left side of a function or of a binding. `missing` stands where a pattern is due and
none was given; `foreign` is a form known only by its name, for which there are no rules here. -/

namespace RefinementTypes

inductive Pat
  | wildcard
  | bind (name : String)
  | constructor (name : String)
  | lit (value : Option Literal)
  | apply (func arg : Pat)
  | foreign (form : String)
  | missing
deriving DecidableEq

namespace Pat

def formName : Pat → Option String
  | wildcard => some "Wildcard"
  | bind _ => some "Bind"
  | constructor _ => some "Constructor"
  | lit _ => some "Lit"
  | apply _ _ => some "Apply"
  | foreign form => some form
  | missing => none

/-- The written form; an application is bracketed where `nested`. -/
def renderAt (nested : Bool) : Pat → String
  | wildcard => "_"
  | bind name => name
  | constructor name => name
  | lit value => Literal.renderOption value
  | apply func arg =>
    let body := func.renderAt true ++ " " ++ arg.renderAt true
    if nested then "(" ++ body ++ ")" else body
  | foreign _ => ""
  | missing => "<nil>"

def render (pat : Pat) : String := pat.renderAt false

/-- The names that a pattern binds, from left to right, or the form that has no rule for it. -/
def binders : Pat → Except String (List String)
  | bind name => .ok [name]
  | apply func arg => do
    let first ← func.binders
    let second ← arg.binders
    return first ++ second
  | foreign form => .error form
  | wildcard | constructor _ | lit _ | missing => .ok []

end Pat

end RefinementTypes
