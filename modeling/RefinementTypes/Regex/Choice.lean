import RefinementTypes.Regex.Limits

/-! A choice between alternatives. Neighbours that begin with the same letters or the same class share
that beginning, and neighbours that stand for one character each make one class. -/

namespace RefinementTypes.Regex

/-- Neighbouring alternatives with the beginning that they share. -/
structure Run (α : Type) where
  shared : α
  members : List Node

namespace Node

/-- The letters that a node begins with, and whether case does not count in them. -/
def leadingText : Node → Bool × List Nat
  | literal flags letters | sequence (literal flags letters :: _) =>
    (flags.foldCase, letters.toList)
  | _ => (false, [])

def leadingPart? : Node → Option Node
  | empty | sequence (empty :: _) => none
  | sequence (first :: _) => some first
  | node => some node

/-- Whether alternatives may share a part: a class, or a class with a fixed count. -/
def sharable : Node → Bool
  | repeated body repetition =>
    repetition.counted && repetition.most = some repetition.least && body.isSingle
  | node => node.isSingle

/-- Whether two sharable parts are written alike. Whether case counts in a letter makes no
difference. -/
def alike : Node → Node → Bool
  | literal _ letters, literal _ letters' => letters = letters'
  | oneOf set, oneOf set' => set = set'
  | notNewline, notNewline | anyChar, anyChar => true
  | repeated body repetition, repeated body' repetition' =>
    repetition = repetition' && alike body body'
  | _, _ => false

def isEmpty : Node → Bool
  | empty => true
  | _ => false

end Node

def commonPrefix : List Nat → List Nat → List Nat
  | a :: as, b :: bs => if a = b then a :: commonPrefix as bs else []
  | _, _ => []

/-- Cuts alternatives into runs that share their first letters. The run that is open shares `text`,
and `members` are those it has, with the latest first. -/
def textRuns (foldCase : Bool) (text : List Nat) (members : List Node) :
    List Node → List (Run (Bool × List Nat))
  | [] => [⟨(foldCase, text), members.reverse⟩]
  | node :: rest =>
    let (foldCase', text') := node.leadingText
    let common := commonPrefix text text'
    if foldCase' = foldCase ∧ common ≠ [] then textRuns foldCase common (node :: members) rest
    else ⟨(foldCase, text), members.reverse⟩ :: textRuns foldCase' text' [node] rest

def partRuns (first : Option Node) (members : List Node) : List Node → List (Run (Option Node))
  | [] => [⟨first, members.reverse⟩]
  | node :: rest =>
    let next := node.leadingPart?
    let shares :=
      match first, next with
      | some part, some part' => part.sharable && part.alike part'
      | _, _ => false
    if shares then partRuns first (node :: members) rest
    else ⟨first, members.reverse⟩ :: partRuns next [node] rest

def sequenceRest : List Node → Build Node
  | [] => return .empty
  | [part] => do
    Build.release 1
    return part
  | parts => return .sequence parts

def removeLetters (count : Nat) : Node → Build Node
  | .literal flags letters =>
    return if letters.size ≤ count then .empty
      else .literal flags (letters.toList.drop count).toArray
  | .sequence (.literal flags letters :: rest) => do
    if letters.size ≤ count then
      Build.release 1
      sequenceRest rest
    else return .sequence (.literal flags (letters.toList.drop count).toArray :: rest)
  | node => return node

/-- Takes the first part off a node. The part of the first member of a run stays in use. -/
def removePart (inUse : Bool) : Node → Build Node
  | .sequence (_ :: rest) => do
    if !inUse then Build.release 1
    sequenceRest rest
  | _ => do
    if !inUse then Build.release 1
    Build.take
    return .empty

/-- Joins neighbours that stand for one character each; `run` are such neighbours before the nodes,
with the latest first. -/
def joinSingles (run : List Node) : List Node → Build (List Node)
  | [] => closeRun []
  | node :: rest =>
    if node.isSingle then joinSingles (node :: run) rest
    else do closeRun (node :: (← joinSingles [] rest))
where
  closeRun (nodes : List Node) : Build (List Node) :=
    match run.reverse with
    | [] => return nodes
    | [node] => return node :: nodes
    | first :: others => do
      Build.release others.length
      return (others.foldl Node.merge first).simplify :: nodes

def joinEmpty : List Node → List Node
  | first :: second :: rest =>
    if first.isEmpty && second.isEmpty then joinEmpty (second :: rest)
    else first :: joinEmpty (second :: rest)
  | nodes => nodes

def flattenChoices : List Node → Build (List Node)
  | [] => return []
  | .choice parts :: rest => do
    Build.release 1
    return parts ++ (← flattenChoices rest)
  | node :: rest => return node :: (← flattenChoices rest)

/-- Draws the first letters of runs of alternatives together; `choose` makes the choice between what
is left of them. -/
def shareText (choose : List Node → Build Node) : List Node → Build (List Node)
  | [] => return []
  | node :: rest =>
    let (foldCase, text) := node.leadingText
    (textRuns foldCase text [node] rest).mapM fun run =>
      match run.members with
      | [member] => return member
      | members => do
        let (foldCase, text) := run.shared
        Build.take
        let suffixes ← members.mapM fun member => do
          let suffix ← removeLetters text.length member
          Build.weigh suffix
          return suffix
        let suffix ← choose suffixes
        Build.take
        return .sequence [.literal { foldCase } text.toArray, suffix]

def shareParts (choose : List Node → Build Node) : List Node → Build (List Node)
  | [] => return []
  | node :: rest =>
    (partRuns node.leadingPart? [node] rest).mapM fun run =>
      match run.shared, run.members with
      | some part, first :: second :: others => do
        let suffix ← removePart true first
        Build.weigh suffix
        let suffixes ← (second :: others).mapM fun member => do
          let suffix ← removePart false member
          Build.weigh suffix
          return suffix
        let suffix ← choose (suffix :: suffixes)
        Build.take
        return .sequence [part, suffix]
      | _, members => return members.headD .empty

/-- The choice between nodes, with shared beginnings drawn together. Each step inwards takes a letter
or a part off, so `fuel` need not exceed the breadth. -/
def chooseN : Nat → List Node → Build Node
  | _, [node] => return node
  | 0, nodes => return .choice nodes
  | fuel + 1, nodes => do
    Build.take
    let nodes ← flattenChoices nodes
    let nodes ← shareText (chooseN fuel) nodes
    let nodes ← shareParts (chooseN fuel) nodes
    match joinEmpty (← joinSingles [] nodes) with
    | [node] =>
      Build.release 1
      return node
    | nodes => return .choice nodes

def choose (nodes : List Node) : Build Node := chooseN (Node.breadths nodes) nodes

end RefinementTypes.Regex
