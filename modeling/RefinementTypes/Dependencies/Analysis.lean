import RefinementTypes.Fault
import RefinementTypes.NameMap
import RefinementTypes.Syntax.Expr
import RefinementTypes.Dependencies.Digraph

/-! Which declarations refer to which. The names in scope are held in one table: a pattern replaces
the entries of the names it binds and keeps what it replaced on a stack, from which they are put back
when the scope of the pattern ends. -/

namespace RefinementTypes.Dependencies

inductive Referent
  | decl (vertex : Nat)
  | pattern
deriving DecidableEq

inductive Problem
  | missingExpr
  | unknownExpr (expr : Expr)
  | fault (cause : Fault)

/-- The state of a scan: the names in scope, what patterns have replaced (the latest first), the edges
found. -/
structure Scan where
  table : NameMap Referent
  replaced : List (String × Option Referent)
  graph : Digraph

/-- A step of a scan; what a failed step has done stays done. -/
abbrev Scanner := ExceptT Problem (StateM Scan)

def shadow (scan : Scan) (name : String) : Scan :=
  { scan with
    table := scan.table.insert name .pattern
    replaced := (name, scan.table.find? name) :: scan.replaced }

/-- Puts back the latest entry that was replaced. -/
def unshadow (scan : Scan) : Scan :=
  match scan.replaced with
  | [] => scan
  | (name, some referent) :: rest =>
    { scan with table := scan.table.insert name referent, replaced := rest }
  | (name, none) :: rest => { scan with table := scan.table.erase name, replaced := rest }

/-- Runs a step inside the scope of a pattern. -/
def inScopeOf (normalize : String → String) (pat : Pat) (step : Scanner Unit) : Scanner Unit :=
  fun scan =>
    match pat.binders with
    | .error form => (.error (.fault (.patForm form)), scan)
    | .ok names =>
      let (result, inner) := step ((names.map normalize).foldl shadow scan)
      (result, names.foldl (fun scan _ => unshadow scan) inner)

/-- Records that the declaration at `current` refers to a name. -/
def refer (current : Nat) (name : String) : Scanner Unit :=
  modify fun scan =>
    match scan.table.find? name with
    | some (.decl vertex) => { scan with graph := scan.graph.addEdge current vertex }
    | _ => scan

mutual
/-- Records the references of the declaration at `current` in a part of its body. -/
def scanExpr (normalize : String → String) (current : Nat) : Expr → Scanner Unit
  | .name label => refer current (normalize label)
  | .lit _ | .impossible | .invalid => pure ()
  | .anno expr _ => scanExpr normalize current expr
  | .lam pat body => inScopeOf normalize pat (scanExpr normalize current body)
  | .letElse pat bound thenBranch elseBranch => do
    scanExpr normalize current bound
    inScopeOf normalize pat do
      scanExpr normalize current thenBranch
      scanExpr normalize current elseBranch
  | .call func arg => do
    scanExpr normalize current func
    scanExpr normalize current arg
  | .op _ args => scanAll normalize current args
  | .foreign form => throw (.unknownExpr (.foreign form))
  | .missing => throw .missingExpr

def scanAll (normalize : String → String) (current : Nat) : List Expr → Scanner Unit
  | [] => pure ()
  | expr :: rest => do
    scanExpr normalize current expr
    scanAll normalize current rest
end

/-- Records the references of each body, from the vertex `current` on. -/
def scanDecls (normalize : String → String) : Nat → List Decl → Scanner Unit
  | _, [] => pure ()
  | current, decl :: rest => do
    scanExpr normalize current decl.body
    scanDecls normalize (current + 1) rest

def start (normalize : String → String) (decls : List Decl) : Scan where
  table := decls.zipIdx.foldl (fun table (decl, vertex) =>
    table.insert (normalize decl.name) (.decl vertex)) .empty
  replaced := []
  graph := .edgeless decls.length

structure Analysis where
  scan : Scan
  components : List (List Nat)
  problem : Option Problem

namespace Analysis

def order (analysis : Analysis) : List Nat := analysis.components.flatten

end Analysis

/-- Analyses declarations with distinct names. Names are compared after `normalize`. -/
def analyze (normalize : String → String) (decls : List Decl) : Analysis :=
  match scanDecls normalize 0 decls (start normalize decls) with
  | (.ok (), scan) => ⟨scan, scan.graph.components, none⟩
  | (.error problem, scan) => ⟨scan, [], some problem⟩

namespace Problem

def message : Problem → String
  | missingExpr => "Failed to analyze nil expression"
  | unknownExpr expr => "Failed to analyze " ++ expr.formName.getD "" ++ " expression"
  | fault cause => cause.message

/-- The expression at fault, where there is one. -/
def invalid? : Problem → Option Expr
  | unknownExpr expr => some expr
  | missingExpr | fault _ => none

end Problem

end RefinementTypes.Dependencies
