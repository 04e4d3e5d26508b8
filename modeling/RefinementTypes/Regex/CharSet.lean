import RefinementTypes.Text.CaseFold

/-! Sets of code points, as lists of ranges in increasing order that neither overlap nor touch. -/

namespace RefinementTypes.Regex

structure CharSet where
  ranges : List (Nat × Nat)
deriving DecidableEq

namespace CharSet

def maxCode : Nat := 0x10ffff

def empty : CharSet := ⟨[]⟩

def full : CharSet := ⟨[(0, maxCode)]⟩

def range (low high : Nat) : CharSet := ⟨[(low, high)]⟩

def contains (set : CharSet) (code : Nat) : Bool :=
  set.ranges.any fun r => r.1 ≤ code && code ≤ r.2

/-- Joins neighbours among ranges that are ordered by their least members. -/
def join : List (Nat × Nat) → List (Nat × Nat)
  | [] => []
  | first :: rest =>
    match join rest with
    | [] => [first]
    | second :: others =>
      if second.1 ≤ first.2 + 1 then (first.1, max first.2 second.2) :: others
      else first :: second :: others

def ofRanges (ranges : List (Nat × Nat)) : CharSet :=
  ⟨join (ranges.mergeSort fun a b => a.1 ≤ b.1)⟩

def union (a b : CharSet) : CharSet := ofRanges (a.ranges ++ b.ranges)

def gaps (start : Nat) : List (Nat × Nat) → List (Nat × Nat)
  | [] => if start ≤ maxCode then [(start, maxCode)] else []
  | (low, high) :: rest =>
    if start < low then (start, low - 1) :: gaps (high + 1) rest else gaps (high + 1) rest

def complement (set : CharSet) : CharSet := ⟨gaps 0 set.ranges⟩

/-- Adds everything that equals a member when case is ignored. -/
def foldCase (set : CharSet) : CharSet :=
  let touched := Text.foldClasses.toList.filter fun members => members.any set.contains
  ofRanges (set.ranges ++ touched.flatMap fun members => members.toList.map fun code => (code, code))

end CharSet

end RefinementTypes.Regex
