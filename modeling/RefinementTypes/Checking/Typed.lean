import RefinementTypes.Syntax.Pat

/-! Checked expressions: trees in which each node carries its type. Type annotations are gone, and all
names are normalised. -/

namespace RefinementTypes.Checking

inductive Typed (τ : Type)
  | lam (type : τ) (pat : Pat) (body : Typed τ)
  | letElse (type : τ) (pat : Pat) (bound thenBranch elseBranch : Typed τ)
  | call (type : τ) (func arg : Typed τ)
  | lit (type : τ) (value : Literal)
  | name (type : τ) (label : String)
  | impossible (type : τ)
  | invalid (type : τ)

namespace Typed

variable {τ : Type}

def type : Typed τ → τ
  | lam type _ _ | letElse type _ _ _ _ | call type _ _ | lit type _ | name type _ | impossible type
  | invalid type => type

def formName : Typed τ → String
  | lam _ _ _ => "Fun"
  | letElse _ _ _ _ _ => "Let"
  | call _ _ _ => "Call"
  | lit _ _ => "Lit"
  | name _ _ => "Name"
  | impossible _ => "Impossible"
  | invalid _ => "Invalid"

/-- The form names of an expression and its parts, outermost first. -/
def forms : Typed τ → List String
  | lam _ _ body => "Fun" :: body.forms
  | letElse _ _ bound thenBranch elseBranch =>
    "Let" :: bound.forms ++ thenBranch.forms ++ elseBranch.forms
  | call _ func arg => "Call" :: func.forms ++ arg.forms
  | lit _ _ => ["Lit"]
  | name _ _ => ["Name"]
  | impossible _ => ["Impossible"]
  | invalid _ => ["Invalid"]

/-- The written form, given that of types: names, literals and calls show their types. -/
def render (showType : τ → String) : Typed τ → String
  | lam _ pat body => "fun " ++ pat.render ++ " -> " ++ body.render showType
  | letElse _ pat bound thenBranch elseBranch =>
    "let " ++ pat.render ++ " = " ++ bound.render showType ++ " then " ++ thenBranch.render showType ++
      " else " ++ elseBranch.render showType
  | call type func arg =>
    "(" ++ func.render showType ++ "(" ++ arg.render showType ++ ") : " ++ showType type ++ ")"
  | lit type value => "(" ++ value.render ++ " : " ++ showType type ++ ")"
  | name type label => "(" ++ label ++ " : " ++ showType type ++ ")"
  | impossible type => "(impossible : " ++ showType type ++ ")"
  | invalid type => "(<invalid> : " ++ showType type ++ ")"

end Typed

end RefinementTypes.Checking
