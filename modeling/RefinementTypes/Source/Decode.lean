import RefinementTypes.Syntax.Expr
import RefinementTypes.Source.DecodeError

/-! Trees from nodes. A form with parts is a mapping with one key, which names the form. How numbers and truth
values are read is left to a reader; nothing else follows references. -/

namespace RefinementTypes.Source

open RefinementTypes.Yaml (Node)

abbrev Decoded (α : Type) := Except DecodeError α

def problemAt {α : Type} (node : Node) (problem : Problem) : Decoded α :=
  .error (.atLine node.line problem)

/-- The key and the value of a mapping with one entry. -/
def single (node : Node) : Decoded (String × Node) :=
  match node.kind, node.content with
  | .mapping, [key, value] => .ok (key.value, value)
  | _, _ => problemAt node .singleKey

def pair (node : Node) : Decoded (Node × Node) :=
  match node.kind, node.content with
  | .sequence, [first, second] => .ok (first, second)
  | _, _ => problemAt node .pair

/-- A mapping whose keys are among those allowed. -/
structure Record where
  line : Nat
  entries : List (Node × Node)

namespace Record

def ofNode (names : List String) (node : Node) : Decoded Record :=
  if node.kind = .mapping then
    match node.entries.find? fun entry => !names.contains entry.1.value with
    | some (key, _) => problemAt key (.unexpectedKey key.value)
    | none => .ok ⟨node.line, node.entries⟩
  else problemAt node (.keys names)

/-- The value of a key; of several, the last. -/
def get (record : Record) (name : String) : Decoded Node :=
  match record.entries.reverse.find? fun entry => entry.1.value = name with
  | some (_, value) => .ok value
  | none => .error (.atLine record.line (.missingKey name))

end Record

/-- How integers of 64 bits, truth values and lists of integers are read from nodes. -/
structure Reader where
  int : Node → Yaml.Reading Int
  bool : Node → Yaml.Reading Bool
  ints : Node → Yaml.Reading (List Int)

/-- The value of a reading in which everything fits, or what stands for a null. -/
def settled {α : Type} (default : α) (reading : Yaml.Reading α) : Decoded α :=
  match reading.mismatches with
  | [] => .ok (reading.value.getD default)
  | all => .error (.mismatches all)

def typeOfWord (line : Nat) (word : String) : Decoded TypeExpr :=
  if word = "Bool" then .ok .bool
  else if word = "Regex" then .ok .regex
  else if word = "_" then .ok .wildcard
  else if word = "invalid" then .ok .invalid
  else if word = "" then .error (.atLine line .emptyType)
  else .ok (.named word)

def exprOfWord (line : Nat) (word : String) : Decoded Expr :=
  if word = "impossible" then .ok .impossible
  else if word = "invalid" then .ok .invalid
  else .error (.atLine line (.unknownExpr word))

def decodeName (node : Node) : Decoded String :=
  if node.kind ≠ .scalar ∨ node.value = "" then problemAt node .name else .ok node.value

def decodeOperator (node : Node) : Decoded Operator :=
  match Operator.ofName? node.value with
  | some operator => .ok operator
  | none => problemAt node (.unknownOperator node.value)

/-- Decodes the items of a sequence, up to the first that fails. -/
def decodeItems (decode : Node → Decoded Expr) (node : Node) : Decoded (List Expr) :=
  if node.kind = .sequence then node.content.mapM decode else problemAt node .arguments

section

variable (reader : Reader)

def decodeBounds (node : Node) : Decoded (Int × Int) := do
  let bounds ← settled [] (reader.ints node)
  match bounds with
  | [low, high] => return (low, high)
  | _ => problemAt node .bounds

def decodeTypeN (depth : Nat) (node : Node) : Decoded TypeExpr :=
  if node.kind = .absent then .ok .missing
  else if node.kind = .scalar then typeOfWord node.line node.value
  else
    match depth with
    | 0 => problemAt node .singleKey
    | depth + 1 => do
      let (key, value) ← single node
      if key = "range" then
        let (low, high) ← decodeBounds reader value
        return .range low high
      else if key = "string" then
        return .string value.value
      else if key = "arrow" then
        let (domain, codomain) ← pair value
        let domain' ← decodeTypeN depth domain
        let codomain' ← decodeTypeN depth codomain
        return .arrow domain' codomain'
      else problemAt node (.unknownType key)

/-- Decodes a type; an absent node is a missing type. -/
def decodeType (node : Node) : Decoded TypeExpr := decodeTypeN reader node.depth node

def decodeLiteral (node : Node) : Decoded Literal := do
  let (key, value) ← single node
  if key = "bool" then return .bool (← settled false (reader.bool value))
  else if key = "int" then return .int (← settled 0 (reader.int value))
  else if key = "string" then return .string value.value
  else if key = "regex" then return .regex value.value
  else problemAt node (.unknownLiteral key)

def decodePatN (depth : Nat) (node : Node) : Decoded Pat :=
  if node.kind = .scalar ∧ node.value = "_" then .ok .wildcard
  else
    match depth with
    | 0 => problemAt node .singleKey
    | depth + 1 => do
      let (key, value) ← single node
      if key = "bind" then return .bind value.value
      else if key = "constructor" then return .constructor value.value
      else if key = "lit" then return .lit (some (← decodeLiteral reader value))
      else if key = "apply" then
        let (func, arg) ← pair value
        let func' ← decodePatN depth func
        let arg' ← decodePatN depth arg
        return .apply func' arg'
      else problemAt node (.unknownPat key)

def decodePat (node : Node) : Decoded Pat := decodePatN reader node.depth node

def decodeExprN (depth : Nat) (node : Node) : Decoded Expr :=
  if node.kind = .absent then .error .missingExpr
  else if node.kind = .scalar then exprOfWord node.line node.value
  else
    match depth with
    | 0 => problemAt node .singleKey
    | depth + 1 => do
      let (key, value) ← single node
      if key = "anno" then
        let record ← Record.ofNode ["expr", "type"] value
        let expr ← record.get "expr"
        let type ← record.get "type"
        let expr' ← decodeExprN depth expr
        return .anno expr' (← decodeType reader type)
      else if key = "fun" then
        let record ← Record.ofNode ["pat", "body"] value
        let pat ← record.get "pat"
        let body ← record.get "body"
        let pat' ← decodePat reader pat
        return .lam pat' (← decodeExprN depth body)
      else if key = "let" then
        let record ← Record.ofNode ["pat", "bound", "then", "else"] value
        let pat ← record.get "pat"
        let bound ← record.get "bound"
        let thenBranch ← record.get "then"
        let elseBranch ← record.get "else"
        let pat' ← decodePat reader pat
        let bound' ← decodeExprN depth bound
        let thenBranch' ← decodeExprN depth thenBranch
        let elseBranch' ← decodeExprN depth elseBranch
        return .letElse pat' bound' thenBranch' elseBranch'
      else if key = "call" then
        let record ← Record.ofNode ["func", "arg"] value
        let func ← record.get "func"
        let arg ← record.get "arg"
        let func' ← decodeExprN depth func
        return .call func' (← decodeExprN depth arg)
      else if key = "lit" then return .lit (some (← decodeLiteral reader value))
      else if key = "name" then return .name (← decodeName value)
      else if key = "op" then
        let record ← Record.ofNode ["kind", "args"] value
        let kind ← record.get "kind"
        let args ← record.get "args"
        let operator ← decodeOperator kind
        return .op operator (← decodeItems (decodeExprN depth) args)
      else problemAt node (.unknownExpr key)

def decodeExpr (node : Node) : Decoded Expr := decodeExprN reader node.depth node

end

end RefinementTypes.Source
