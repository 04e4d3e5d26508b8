import RefinementTypes.Fault
import RefinementTypes.Syntax.Expr
import RefinementTypes.Checking.Obligation

/-! Why a program is refused: the cause, the declaration and the innermost expression that it was found
in. -/

namespace RefinementTypes.Checking

/-- The kinds of errors; a code beyond the table belongs to no kind. -/
inductive ErrorKind
  | typeMismatch
  | recursiveType
  | literalConformance
  | unsolvedConstraints
  | unresolvedTypeVariable
  | ambiguousExpression
  | unknownName
  | unsupported
  | redeclared
  | unlisted (code : Nat)
deriving DecidableEq

namespace ErrorKind

def table : List ErrorKind :=
  [typeMismatch, recursiveType, literalConformance, unsolvedConstraints, unresolvedTypeVariable,
    ambiguousExpression, unknownName, unsupported, redeclared]

def ofCode (code : Nat) : ErrorKind :=
  if code = 0 then unlisted 0 else table.getD (code - 1) (unlisted code)

def render : ErrorKind → String
  | typeMismatch => "type mismatch"
  | recursiveType => "recursive type"
  | literalConformance => "literal conformance"
  | unsolvedConstraints => "unsolved constraints"
  | unresolvedTypeVariable => "unresolved type variable"
  | ambiguousExpression => "ambiguous expression"
  | unknownName => "unknown name"
  | unsupported => "unsupported"
  | redeclared => "redeclared"
  | unlisted _ => "unknown error"

end ErrorKind

/-- What went wrong. Types are given as they were resolved at the time. -/
inductive Cause
  | mismatch (expected found : Ty)
  | notFunction (type : Ty)
  | infinite (var : Nat) (type : Ty)
  | outOfRange (value : Int) (type : Ty)
  | badPattern (pattern problem : String)
  | noMatch (literal : Literal) (type : Ty)
  | nonconforming (literal : Literal) (type : Ty)
  | unsolved (pending : List Obligation)
  | unresolved (var : Nat)
  | literalNeedsType (literal : Literal)
  | functionNeedsType
  | emptyExpression
  | missingDeclaration
  | notAnalysed (message : String)
  | unknownName (name : String)
  | operator (which : Operator)
  | constructorPattern (text : String)
  | missingPattern
  | duplicateDeclaration
  | duplicateParameter (name : String)

namespace Cause

def kind : Cause → ErrorKind
  | mismatch _ _ | notFunction _ => .typeMismatch
  | infinite _ _ => .recursiveType
  | outOfRange _ _ | badPattern _ _ | noMatch _ _ | nonconforming _ _ => .literalConformance
  | unsolved _ => .unsolvedConstraints
  | unresolved _ => .unresolvedTypeVariable
  | literalNeedsType _ | functionNeedsType | emptyExpression | missingDeclaration
  | notAnalysed _ => .ambiguousExpression
  | unknownName _ => .unknownName
  | operator _ | constructorPattern _ | missingPattern => .unsupported
  | duplicateDeclaration | duplicateParameter _ => .redeclared

def message : Cause → String
  | mismatch expected found => "expected " ++ expected.render ++ ", found " ++ found.render
  | notFunction type => "not a function type: " ++ type.render
  | infinite var type =>
    "implicitly recursive types are not supported: '_" ++ toString var ++ " occurs in " ++ type.render
  | outOfRange value type => toString value ++ " is not within " ++ type.render
  | badPattern pattern problem => "invalid pattern " ++ Text.quote pattern ++ ": " ++ problem
  | noMatch literal type => literal.render ++ " does not match " ++ type.render
  | nonconforming literal type =>
    literal.kindName ++ " literal " ++ literal.render ++ " does not conform to " ++ type.render
  | unsolved pending => ", ".intercalate (pending.map Obligation.render)
  | unresolved var => "unsolved type variable '_" ++ toString var
  | literalNeedsType literal => literal.kindName ++ " literal requires an expected type"
  | functionNeedsType => "function requires an expected type"
  | emptyExpression => "empty expression"
  | missingDeclaration => "missing declaration"
  | notAnalysed message => message
  | unknownName name => name
  | operator which => "operator " ++ which.render
  | constructorPattern text => "constructor pattern " ++ text
  | missingPattern => "missing pattern"
  | duplicateDeclaration => "duplicate declaration"
  | duplicateParameter name => "duplicate type parameter " ++ name

end Cause

def errorText (kind : ErrorKind) (message decl : String) (expr : Option Expr) : String :=
  (if decl = "" then "" else decl ++ ": ") ++ kind.render ++
  (if message = "" then "" else ": " ++ message) ++
  (match expr with
    | none => ""
    | some expr => " in " ++ expr.render)

structure TypeError where
  cause : Cause
  decl : String
  expr : Option Expr

namespace TypeError

def kind (error : TypeError) : ErrorKind := error.cause.kind

def text (error : TypeError) : String :=
  errorText error.kind error.cause.message error.decl error.expr

/-- Notes the expression, unless a part of it has been noted. -/
def locate (error : TypeError) (expr : Expr) : TypeError :=
  { error with expr := error.expr.orElse fun _ => some expr }

/-- Notes the declaration, unless one has been noted. -/
def inDecl (error : TypeError) (name : String) : TypeError :=
  { error with decl := if error.decl = "" then name else error.decl }

end TypeError

inductive Failure
  | refused (error : TypeError)
  | fault (cause : Fault)

end RefinementTypes.Checking
