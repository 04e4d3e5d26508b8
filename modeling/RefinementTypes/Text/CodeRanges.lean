/-! Sets of code points as sorted ranges. A table is written as lines of text, one range after
another in hexadecimal, so that a property of the Unicode standard stays readable. -/

namespace RefinementTypes.Text

/-- The value of a run of hexadecimal digits; other characters count as zero. -/
def hexValue (digits : String) : Nat :=
  digits.foldl (fun value c => 16 * value +
    (if '0' ≤ c ∧ c ≤ '9' then c.toNat - '0'.toNat
     else if 'a' ≤ c ∧ c ≤ 'f' then c.toNat - 'a'.toNat + 10
     else if 'A' ≤ c ∧ c ≤ 'F' then c.toNat - 'A'.toNat + 10
     else 0)) 0

def entriesOfLines (lines : List String) : Array String :=
  lines.foldl (fun entries line => entries ++ (line.splitOn " ").toArray) #[]

/-- The index of the last key that is at most `code`, when the keys increase. -/
def lastAtMost (keys : Array Nat) (code : Nat) : Option Nat :=
  go keys.size 0 keys.size
where
  /-- Halves the window `low, high` until it is empty. -/
  go : Nat → Nat → Nat → Option Nat
    | 0, low, _ => if low = 0 then none else some (low - 1)
    | fuel + 1, low, high =>
      if low < high then
        let middle := (low + high) / 2
        if keys.getD middle 0 ≤ code then go fuel (middle + 1) high else go fuel low middle
      else if low = 0 then none
      else some (low - 1)

/-- Disjoint ranges in increasing order: the least and the greatest member of each. -/
structure CodeRanges where
  lows : Array Nat
  highs : Array Nat

namespace CodeRanges

/-- Reads lines of ranges such as `20-7e a1 c0-ff`. -/
def ofLines (lines : List String) : CodeRanges :=
  let bounds := (entriesOfLines lines).map fun range =>
    match range.splitOn "-" with
    | [low, high] => (hexValue low, hexValue high)
    | _ => (hexValue range, hexValue range)
  ⟨bounds.map Prod.fst, bounds.map Prod.snd⟩

def contains (ranges : CodeRanges) (code : Nat) : Bool :=
  match lastAtMost ranges.lows code with
  | some index => code ≤ ranges.highs.getD index 0
  | none => false

def toList (ranges : CodeRanges) : List (Nat × Nat) :=
  (ranges.lows.zip ranges.highs).toList

end CodeRanges

end RefinementTypes.Text
