import RefinementTypes.Source.Decode
import RefinementTypes.Yaml.Document

/-! Declarations from the text of a file. -/

namespace RefinementTypes.Source

open RefinementTypes.Yaml (Node Reading Mismatch)

/-- What a file gives for a declaration before its parts are decoded. -/
structure RawDecl where
  name : String
  params : List String
  type : Node
  body : Node

def declTarget : String :=
  "struct \x7b Name string \"yaml:\\\"name\\\"\"; Vars []string \"yaml:\\\"vars\\\"\"; " ++
    "Type yaml.Node \"yaml:\\\"type\\\"\"; Body yaml.Node \"yaml:\\\"body\\\"\" \x7d"

def declsTarget : String := "[]" ++ declTarget

def fileTarget : String := "struct \x7b Decls " ++ declsTarget ++ " \"yaml:\\\"decls\\\"\" \x7d"

def absorb {α β : Type} (reading : Reading α) (state : Reading β) (use : α → β → β) : Reading β where
  mismatches := state.mismatches ++ reading.mismatches
  value := match reading.value with
    | some value => state.value.map (use value)
    | none => state.value

def readDeclEntry (state : Reading RawDecl) (entry : Node × Node) : Reading RawDecl :=
  let key := entry.1.readText
  let state := { state with mismatches := state.mismatches ++ key.mismatches }
  match key.value with
  | some "name" => absorb entry.2.readText state fun name decl => { decl with name }
  | some "vars" =>
    absorb (entry.2.readSequence "[]string" Node.readText) state fun params decl => { decl with params }
  | some "type" => absorb (.some entry.2) state fun type decl => { decl with type }
  | some "body" => absorb (.some entry.2) state fun body decl => { decl with body }
  | _ => state

def readDecl (node : Node) : Reading RawDecl :=
  node.readMapping declTarget fun entries =>
    entries.foldl readDeclEntry (.some ⟨"", [], .absent, .absent⟩)

def readFileEntry (state : Reading (List RawDecl)) (entry : Node × Node) : Reading (List RawDecl) :=
  let key := entry.1.readText
  let state := { state with mismatches := state.mismatches ++ key.mismatches }
  match key.value with
  | some "decls" => absorb (entry.2.readSequence declsTarget readDecl) state fun decls _ => decls
  | _ => state

def readFile (node : Node) : Reading (List RawDecl) :=
  node.readMapping fileTarget fun entries => entries.foldl readFileEntry (.some [])

inductive FileError
  | malformed (error : Yaml.SyntaxError)
  | mismatches (all : List Mismatch)
  | unnamed (index : Nat)
  | inDecl (name : String) (error : DecodeError)

namespace FileError

def message : FileError → String
  | malformed error => error.message
  | mismatches all => Mismatch.messageOfAll all
  | unnamed index => "declaration " ++ toString index ++ " has no name"
  | inDecl name error => name ++ ": " ++ error.message

def isMismatch : FileError → Bool
  | mismatches _ | inDecl _ (.mismatches _) => true
  | _ => false

end FileError

/-- Reads values as documents give them; bounds that are null are left out. -/
def documentReader : Reader := ⟨Node.readInt, Node.readBool, Node.readSequence "[]int64" Node.readInt⟩

def decodeDecl (index : Nat) (raw : RawDecl) : Except FileError Decl := do
  if raw.name = "" then .error (.unnamed index)
  let type ← (decodeType documentReader raw.type).mapError (.inDecl raw.name)
  let body ← (decodeExpr documentReader raw.body).mapError (.inDecl raw.name)
  return ⟨raw.name, raw.params, type, body⟩

def decodeDecls : Nat → List RawDecl → Except FileError (List Decl)
  | _, [] => .ok []
  | index, raw :: rest => do
    let decl ← decodeDecl index raw
    return decl :: (← decodeDecls (index + 1) rest)

/-- The declarations of a text. A text without a document has none. -/
def parseFile (text : String) : Except FileError (List Decl) := do
  match ← (Yaml.parseDocument text).mapError .malformed with
  | none => return []
  | some root =>
    let reading := readFile root
    match reading.mismatches with
    | [] => decodeDecls 0 (reading.value.getD [])
    | all => .error (.mismatches all)

end RefinementTypes.Source
