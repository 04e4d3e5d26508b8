import RefinementTypes.Regex.Node
import RefinementTypes.Regex.ParseError

/-! Limits on the syntax tree of a regular expression. The size of a tree is looked at only once it
could be large: when the nodes in use, times the product of all counts so far, pass the limit. -/

namespace RefinementTypes.Regex

def maxHeight : Nat := 1000

def maxSize : Nat := 3355443

/-- The greatest count, and the greatest product of nested counts. -/
def maxCount : Nat := 1000

/-- The nodes in use and the most that ever were, the product of all counts so far, and whether sizes
are looked at. -/
structure Limits where
  nodes : Nat := 0
  mostNodes : Nat := 0
  counts : Nat := 1
  weighing : Bool := false

namespace Limits

def take (limits : Limits) : Limits :=
  { limits with nodes := limits.nodes + 1, mostNodes := max limits.mostNodes (limits.nodes + 1) }

def release (limits : Limits) (count : Nat) : Limits :=
  { limits with nodes := limits.nodes - count }

/-- The product of counts with one more; it stays at the limit once it gets there. -/
def multiply (counts : Nat) (repetition : Repetition) : Nat :=
  let count := max 1 repetition.copies
  if maxSize / counts < count then maxSize else counts * count

/-- Takes notice of a finished node, which may be the one from which on sizes are looked at. -/
def notice (limits : Limits) (node : Node) : Limits :=
  if limits.weighing then limits
  else
    let counts :=
      match node with
      | .repeated _ repetition =>
        if repetition.counted then multiply limits.counts repetition else limits.counts
      | _ => limits.counts
    { limits with counts, weighing := maxSize / counts ≤ limits.mostNodes }

def refuses (limits : Limits) (node : Node) : Bool := limits.weighing && maxSize < node.size

end Limits

abbrev Build := StateT Limits (Except ErrorCode)

namespace Build

def take : Build Unit := modify Limits.take

def release (count : Nat) : Build Unit := modify fun limits => limits.release count

def weigh (node : Node) : Build Unit := do
  modify fun limits => limits.notice node
  if (← get).refuses node then throw .size

end Build

end RefinementTypes.Regex
