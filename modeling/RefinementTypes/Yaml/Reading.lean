import RefinementTypes.Text.Quoted
import RefinementTypes.Yaml.Node
import RefinementTypes.Yaml.Scalar

/-! Reading values of known kinds from nodes. All mismatches of a node are found, not only the first. A
null gives no value and is no mismatch, a reference is read as the node it stands for, and a document as
its root. -/

namespace RefinementTypes.Yaml

inductive Mismatch
  | kind (line : Nat) (tag : String) (value : Option String) (target : String)
  | repeatedKey (line : Nat) (key : String) (first : Nat)

namespace Mismatch

/-- As many leading characters as fit in a number of bytes; each byte of a character that does not fit
whole counts as an unreadable character. -/
def cut : Nat → List Char → List Char
  | _, [] => []
  | 0, _ => []
  | bytes, c :: rest =>
    if c.utf8Size ≤ bytes then c :: cut (bytes - c.utf8Size) rest
    else List.replicate bytes '\ufffd'

def shorten (value : String) : String :=
  if 10 < value.utf8ByteSize then String.ofList (cut 7 value.toList) ++ "..." else value

def message : Mismatch → String
  | kind line tag value target =>
    "line " ++ toString line ++ ": cannot unmarshal " ++ tag ++
      (match value with
        | some value => " `" ++ shorten value ++ "`"
        | none => "") ++
      " into " ++ target
  | repeatedKey line key first =>
    "line " ++ toString line ++ ": mapping key " ++ Text.quote key ++ " already defined at line " ++
      toString first

def messageOfAll (mismatches : List Mismatch) : String :=
  "yaml: unmarshal errors:\n  " ++ "\n  ".intercalate (mismatches.map message)

end Mismatch

/-- What was read, and what did not fit. -/
structure Reading (α : Type) where
  mismatches : List Mismatch
  value : Option α

namespace Reading

def none {α : Type} : Reading α := ⟨[], .none⟩

def some {α : Type} (value : α) : Reading α := ⟨[], .some value⟩

def mismatch {α : Type} (line : Nat) (tag : String) (value : Option String) (target : String) :
    Reading α :=
  ⟨[.kind line tag value target], .none⟩

end Reading

namespace Node

/-- Whether two keys are the same. Keys that are collections of one kind are not told apart. -/
def sameKey (first second : Node) : Bool := first.kind == second.kind && first.value == second.value

def repeatedKeys : List (Node × Node) → List Mismatch
  | [] => []
  | (key, _) :: rest =>
    ((rest.filter fun other => key.sameKey other.1).map fun other =>
      .repeatedKey other.1.line other.1.value key.line) ++ repeatedKeys rest

/-- What a scalar stands for. Of all tags only that of texts counts. -/
def resolve (node : Node) : Scalar :=
  if node.quoted || node.tag == "!!str" then .text else Scalar.ofPlain node.value

section

variable {α : Type}

def scalarMismatch (node : Node) (target : String) : Reading α :=
  match node.resolve with
  | .null => .none
  | resolved => .mismatch node.line resolved.tag (.some node.value) target

/-- A mapping where something else is asked for. Keys that occur twice are reported first. -/
def mappingMismatch (node : Node) (target : String) : Reading α :=
  match repeatedKeys node.entries with
  | [] => .mismatch node.line "!!map" .none target
  | mismatches => ⟨mismatches, .none⟩

/-- Reads a scalar by `accept`, which gives no value to what does not fit. -/
def readScalar (target : String) (accept : String → Scalar → Option α) (node : Node) : Reading α :=
  let node := node.followed
  match node.kind with
  | .scalar =>
    match node.resolve with
    | .null => .none
    | resolved =>
      match accept node.value resolved with
      | .some result => .some result
      | .none => .mismatch node.line resolved.tag (.some node.value) target
  | .sequence => .mismatch node.line "!!seq" .none target
  | .mapping => node.mappingMismatch target
  | .absent | .document | .reference => .none

/-- Reads items, leaving out those without a value. -/
def readItems (read : Node → Reading α) (items : List Node) : Reading (List α) :=
  let readings := items.map read
  ⟨readings.flatMap Reading.mismatches, .some (readings.filterMap Reading.value)⟩

def readSequence (target : String) (read : Node → Reading α) (node : Node) : Reading (List α) :=
  let node := node.followed
  match node.kind with
  | .scalar => node.scalarMismatch target
  | .sequence => readItems read node.content
  | .mapping => node.mappingMismatch target
  | .absent | .document | .reference => .none

def readMapping (target : String) (read : List (Node × Node) → Reading α) (node : Node) : Reading α :=
  let node := node.followed
  match node.kind with
  | .scalar => node.scalarMismatch target
  | .sequence => .mismatch node.line "!!seq" .none target
  | .mapping =>
    match repeatedKeys node.entries with
    | [] => read node.entries
    | mismatches => ⟨mismatches, .none⟩
  | .absent | .document | .reference => .none

end

def acceptInt (_ : String) : Scalar → Option Int
  | .int value => int64? value
  | .float value => value.toInt64?
  | _ => .none

def readInt (node : Node) : Reading Int := node.readScalar "int64" acceptInt

def acceptBool (value : String) : Scalar → Option Bool
  | .bool result => .some result
  | .text => Scalar.laxWords.lookup value
  | _ => .none

def readBool (node : Node) : Reading Bool := node.readScalar "bool" acceptBool

def readText (node : Node) : Reading String :=
  node.readScalar "string" fun value _ => .some value

end Node

end RefinementTypes.Yaml
