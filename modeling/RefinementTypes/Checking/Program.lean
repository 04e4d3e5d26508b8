import RefinementTypes.Types.Store
import RefinementTypes.Checking.Typed
import RefinementTypes.Checking.Failure

/-! Checked programs: the declarations in source order with their types, the store that holds the
types, and warnings. -/

namespace RefinementTypes.Checking

structure CheckedDecl where
  name : String
  params : List String
  type : TypeId
  body : Typed TypeId

structure Program where
  decls : List CheckedDecl
  store : Store
  warnings : List TypeError

namespace Program

def showType (program : Program) (id : TypeId) : String :=
  match program.store.render id with
  | .ok text => text
  | .error _ => ""

def typeOf? (program : Program) (name : String) : Option Entry := do
  let decl ← program.decls.find? fun decl => decl.name = name
  (program.store.resolve decl.type).toOption

def showBody (program : Program) (decl : CheckedDecl) : String := decl.body.render program.showType

/-- One line for a declaration: its name and parameters, its type, its body. -/
def declLine (program : Program) (decl : CheckedDecl) : String :=
  decl.name ++
    (if decl.params.isEmpty then "" else "[" ++ ", ".intercalate decl.params ++ "]") ++
    " : " ++ program.showType decl.type ++ " = " ++ program.showBody decl ++ "\n"

def render (program : Program) : String := String.join (program.decls.map program.declLine)

end Program

end RefinementTypes.Checking
