/-! YAML documents as trees. A node has all parts whatever its kind; which of them count depends on the kind. -/

namespace RefinementTypes.Yaml

inductive Kind
  /-- No node where one could be. -/
  | absent
  | document
  | sequence
  | mapping
  | scalar
  | reference
deriving DecidableEq

structure Node where
  kind : Kind
  line : Nat
  tag : String
  quoted : Bool
  /-- The text of a scalar, or the name that a reference is made by. -/
  value : String
  target : Option Node
  /-- The items of a sequence, or the keys and values of a mapping by turns. -/
  content : List Node

namespace Node

def absent : Node := ⟨.absent, 0, "", false, "", none, []⟩

def scalar (line : Nat) (quoted : Bool) (value : String) : Node := ⟨.scalar, line, "", quoted, value, none, []⟩

def sequence (line : Nat) (items : List Node) : Node := ⟨.sequence, line, "", false, "", none, items⟩

def flattened (entries : List (Node × Node)) : List Node := entries.flatMap fun entry => [entry.1, entry.2]

def mapping (line : Nat) (entries : List (Node × Node)) : Node :=
  ⟨.mapping, line, "", false, "", none, flattened entries⟩

def reference (line : Nat) (name : String) (target : Option Node) : Node :=
  ⟨.reference, line, "", false, name, target, []⟩

/-- The keys of a mapping with their values. A key that has no value is left out. -/
def pairs : List Node → List (Node × Node)
  | key :: value :: rest => (key, value) :: pairs rest
  | _ => []

def entries (node : Node) : List (Node × Node) := pairs node.content

mutual
/-- The length of the longest way down. -/
def depth : Node → Nat
  | ⟨_, _, _, _, _, _, content⟩ => depthOfAll content

def depthOfAll : List Node → Nat
  | [] => 0
  | node :: rest => max (node.depth + 1) (depthOfAll rest)
end

/-- What a reference stands for in the end, or the root of a document. -/
def followed : Node → Node
  | ⟨.reference, _, _, _, _, some target, _⟩ => target.followed
  | ⟨.document, _, _, _, _, _, [root]⟩ => root.followed
  | node => node

mutual
/-- Lets the references by a name that stand for no node yet stand for a node. -/
def complete (name : String) (whole : Node) : Node → Node
  | ⟨kind, line, tag, quoted, value, target, content⟩ =>
    let open? := kind = .reference ∧ value = name ∧ target.isNone
    ⟨kind, line, tag, quoted, value, if open? then some whole else completeTarget name whole target,
      completeAll name whole content⟩

def completeTarget (name : String) (whole : Node) : Option Node → Option Node
  | none => none
  | some target => some (complete name whole target)

def completeAll (name : String) (whole : Node) : List Node → List Node
  | [] => []
  | node :: rest => complete name whole node :: completeAll name whole rest
end

end Node

end RefinementTypes.Yaml
