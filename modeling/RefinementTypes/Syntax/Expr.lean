import RefinementTypes.Syntax.Pat
import RefinementTypes.Syntax.TypeExpr

/-! Expressions and declarations as they are written. `missing` stands where an expression is due and
none was given; `invalid` marks one whose fault has been reported before; `foreign` is a form known
only by its name, for which there are no rules here. -/

namespace RefinementTypes

/-- The built-in operators; a code beyond the table belongs to no operator. -/
inductive Operator
  | add
  | sub
  | eq
  | less
  | and
  | or
  | not
  | mem
  | unlisted (code : Nat)
deriving DecidableEq

namespace Operator

def table : List Operator := [add, sub, eq, less, and, or, not, mem]

def ofCode (code : Nat) : Operator := table.getD code (unlisted code)

def code : Operator → Nat
  | add => 0
  | sub => 1
  | eq => 2
  | less => 3
  | and => 4
  | or => 5
  | not => 6
  | mem => 7
  | unlisted code => code

def render : Operator → String
  | add => "add"
  | sub => "sub"
  | eq => "eq"
  | less => "less"
  | and => "and"
  | or => "or"
  | not => "not"
  | mem => "in"
  | unlisted _ => "op?"

def ofName? (name : String) : Option Operator := table.find? fun operator => operator.render = name

end Operator

inductive Expr
  | anno (expr : Expr) (type : TypeExpr)
  | lam (pat : Pat) (body : Expr)
  | letElse (pat : Pat) (bound thenBranch elseBranch : Expr)
  | call (func arg : Expr)
  | lit (value : Option Literal)
  | name (label : String)
  | op (operator : Operator) (args : List Expr)
  | impossible
  | invalid
  | foreign (form : String)
  | missing

namespace Expr

def formName : Expr → Option String
  | anno _ _ => some "Anno"
  | lam _ _ => some "Fun"
  | letElse _ _ _ _ => some "Let"
  | call _ _ => some "Call"
  | lit _ => some "Lit"
  | name _ => some "Name"
  | op _ _ => some "Op"
  | impossible => some "Impossible"
  | invalid => some "Invalid"
  | foreign form => some form
  | missing => none

mutual
/-- The written form; a function or a binding is bracketed where `nested`, that is, when called. -/
def renderAt (nested : Bool) : Expr → String
  | anno expr type => "(" ++ expr.renderAt false ++ " : " ++ type.render ++ ")"
  | lam pat body =>
    let text := "fun " ++ pat.renderAt true ++ " -> " ++ body.renderAt false
    if nested then "(" ++ text ++ ")" else text
  | letElse pat bound thenBranch elseBranch =>
    let text := "let " ++ pat.render ++ " = " ++ bound.renderAt false ++
      " then " ++ thenBranch.renderAt false ++ " else " ++ elseBranch.renderAt false
    if nested then "(" ++ text ++ ")" else text
  | call func arg => func.renderAt true ++ "(" ++ arg.renderAt false ++ ")"
  | lit value => Literal.renderOption value
  | name label => label
  | op operator args => operator.render ++ "(" ++ ", ".intercalate (renderAll args) ++ ")"
  | impossible => "impossible"
  | invalid => "<invalid>"
  | foreign _ => ""
  | missing => "<nil>"

def renderAll : List Expr → List String
  | [] => []
  | expr :: rest => expr.renderAt false :: renderAll rest
end

def render (expr : Expr) : String := expr.renderAt false

mutual
/-- The form names of an expression and its parts, outermost first, or the form without a rule. -/
def forms : Expr → Except String (List String)
  | anno expr _ => return "Anno" :: (← expr.forms)
  | lam _ body => return "Fun" :: (← body.forms)
  | letElse _ bound thenBranch elseBranch => do
    let first ← bound.forms
    let second ← thenBranch.forms
    let third ← elseBranch.forms
    return "Let" :: first ++ second ++ third
  | call func arg => do
    let first ← func.forms
    let second ← arg.forms
    return "Call" :: first ++ second
  | op _ args => return "Op" :: (← formsAll args)
  | lit _ => return ["Lit"]
  | name _ => return ["Name"]
  | impossible => return ["Impossible"]
  | invalid => return ["Invalid"]
  | foreign form => .error form
  | missing => return []

def formsAll : List Expr → Except String (List String)
  | [] => return []
  | expr :: rest => do
    let first ← expr.forms
    let others ← formsAll rest
    return first ++ others
end

end Expr

structure Decl where
  name : String
  params : List String
  type : TypeExpr
  body : Expr

namespace Decl

def find? (decls : List Decl) (name : String) : Option Decl :=
  decls.find? fun decl => decl.name = name

end Decl

end RefinementTypes
