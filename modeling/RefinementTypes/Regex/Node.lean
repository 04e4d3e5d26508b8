import RefinementTypes.Regex.CharSet
import RefinementTypes.Regex.Condition

/-! The syntax tree of a regular expression. Neighbouring letters make one node, and so do a sequence
directly inside a sequence and a choice directly inside a choice, so that the height and the size of
a tree are those of the expression and not of the way it is written. -/

namespace RefinementTypes.Regex

/-- What `(?i)`, `(?s)`, `(?m)` and `(?U)` set. -/
structure Flags where
  foldCase : Bool := false
  dotNewline : Bool := false
  multiLine : Bool := false
  ungreedy : Bool := false
deriving DecidableEq

/-- How often something is repeated: by one of the marks `*`, `+` and `?`, or by counts. -/
structure Repetition where
  counted : Bool
  least : Nat
  most : Option Nat
  ungreedy : Bool
deriving DecidableEq

namespace Repetition

/-- The number of copies that counts ask for, and zero if they ask for none at all. -/
def copies (repetition : Repetition) : Nat := repetition.most.getD repetition.least

end Repetition

inductive Node
  | empty
  /-- One or more letters, in which case may not count. -/
  | literal (flags : Flags) (letters : Array Nat)
  | oneOf (set : CharSet)
  | notNewline
  | anyChar
  | place (condition : Condition)
  | group (body : Node)
  | repeated (body : Node) (repetition : Repetition)
  | sequence (parts : List Node)
  | choice (parts : List Node)

def newline : CharSet := .range 0x0a 0x0a

def letterSet (foldCase : Bool) (code : Nat) : CharSet :=
  if foldCase then .ofRanges ((Text.foldClass code).map fun code => (code, code))
  else .range code code

namespace Node

mutual

def height : Node → Nat
  | group body | repeated body _ => body.height + 1
  | sequence parts | choice parts => heights parts + 1
  | _ => 1

def heights : List Node → Nat
  | [] => 0
  | part :: rest => max part.height (heights rest)

end

mutual

/-- The number of steps that matching an expression is laid out in. -/
def size : Node → Nat
  | literal _ letters => max 1 letters.size
  | group body => 2 + body.size
  | repeated body repetition =>
    if repetition.counted then
      match repetition.most with
      | none => if repetition.least = 0 then 2 + body.size else 1 + repetition.least * body.size
      | some most => max 1 (most * body.size + (most - repetition.least))
    else if repetition.least = 0 ∧ repetition.most = none then 2 + body.size
    else 1 + body.size
  | sequence parts => max 1 (sizes parts)
  | choice parts => max 1 (sizes parts + (parts.length - 1))
  | _ => 1

def sizes : List Node → Nat
  | [] => 0
  | part :: rest => part.size + sizes rest

end

mutual

/-- The greatest number of copies of a part that nested counts ask for. -/
def copies : Node → Nat
  | group body => body.copies
  | repeated body repetition =>
    if !repetition.counted then body.copies
    else if repetition.most = some 0 then 1
    else max 1 repetition.copies * body.copies
  | sequence parts | choice parts => mostCopies parts
  | _ => 1

def mostCopies : List Node → Nat
  | [] => 1
  | part :: rest => max part.copies (mostCopies rest)

end

mutual

def breadth : Node → Nat
  | literal _ letters => letters.size + 1
  | group body | repeated body _ => body.breadth + 1
  | sequence parts | choice parts => breadths parts + 1
  | _ => 1

def breadths : List Node → Nat
  | [] => 0
  | part :: rest => part.breadth + breadths rest

end

def isSingle : Node → Bool
  | literal _ letters => letters.size = 1
  | oneOf _ | notNewline | anyChar => true
  | _ => false

def singleSet : Node → CharSet
  | literal flags letters => letterSet flags.foldCase (letters.getD 0 0)
  | oneOf set => set
  | notNewline => newline.complement
  | anyChar => .full
  | _ => .empty

def merge (first second : Node) : Node :=
  match first, second with
  | anyChar, _ | _, anyChar => anyChar
  | notNewline, other | other, notNewline =>
    if other.singleSet.contains 0x0a then anyChar else notNewline
  | literal flags letters, literal flags' letters' =>
    if letters = letters' ∧ flags = flags' then first
    else oneOf (first.singleSet.union second.singleSet)
  | _, _ => oneOf (first.singleSet.union second.singleSet)

/-- The plain node for a set that leaves out nothing, or only the line break. -/
def simplify : Node → Node
  | oneOf set =>
    if set = .full then anyChar else if set = newline.complement then notNewline else oneOf set
  | node => node

end Node

/-- The letter that a set stands for, if it holds just that letter, or it and the one that differs
from it by case. -/
def CharSet.letter? (set : CharSet) : Option (Bool × Nat) :=
  match set.ranges with
  | [(low, high)] =>
    if low = high then some (false, low)
    else if Text.foldClass low = [low, high] ∧ high = low + 1 then some (true, low)
    else none
  | [(low, low'), (high, high')] =>
    if low = low' ∧ high = high' ∧ Text.foldClass low = [low, high] then some (true, low) else none
  | _ => none

def Node.settle (flags : Flags) : Node → Node
  | .oneOf set =>
    match set.letter? with
    | some (foldCase, code) => .literal { flags with foldCase } #[code]
    | none => .oneOf set
  | node => node

end RefinementTypes.Regex
