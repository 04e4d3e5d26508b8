import RefinementTypes.Text.Decomposition

/-! Segments of a text: a character and the marks that attach to it. Characters are brought into
canonical form one segment at a time. A segment with more than thirty marks is broken by a grapheme
joiner, so that a bounded store is enough for any text. -/

namespace RefinementTypes.Text

def maxMarks : Nat := 30

def graphemeJoiner : Nat := 0x034f

def attaches (code : Nat) : Bool := combiningClass code != 0 || combinesBackward code

/-- Letters and sound marks that stand for one that attaches, such as the halfwidth voiced sound
mark. They have no canonical decomposition, and count as one mark. -/
def standaloneMarks : CodeRanges := .ofLines
  ["3133 3135-3136 313a-313f 314f-3163 ff9e-ff9f ffa3 ffa5-ffa6 ffaa-ffaf ffc2-ffc7 ffca-ffcf",
   "ffd2-ffd7 ffda-ffdc"]

/-- Characters that stand for a text ending in one mark more than their canonical decomposition
does, such as the spacing acute accent. -/
def markedOnce : CodeRanges := .ofLines
  ["a8 af b4 b8 1c4-1c6 2d8-2dd 37a 384-385 1fbd 1fbf-1fc1 1fcd-1fcf 1fdd-1fdf 1fed-1fee",
   "1ffd-1ffe 2017 203e 309b-309c 326e-327e 3304 3307 3310 331e 3321 3332 333b 3340 334b 334e",
   "fba4-fba5 fbb0-fbb1 fc5b-fc5d fc90 fcd9 fd3c-fd3d fe49-fe4c fe70-fe72 fe74 fe76-fe7f",
   "fe81-fe8c fef5-fefa ffe3 1f213"]

/-- Characters that stand for a text ending in two marks, and have no canonical decomposition. -/
def markedTwice : CodeRanges := .ofLines
  ["f77 f79 fc5e-fc63 fcf2-fcf4"]

def leadingMarks (code : Nat) : Nat :=
  if standaloneMarks.contains code then 1 else ((decompose code).takeWhile attaches).length

def trailingMarks (code : Nat) : Nat :=
  if standaloneMarks.contains code then 1
  else if markedTwice.contains code then 2
  else ((decompose code).reverse.takeWhile attaches).length +
    (if markedOnce.contains code then 1 else 0)

/-- Cuts a text into segments. The first list of the answer continues the segment before the text,
which has `marks` marks so far; the others are whole segments. -/
def segmentsAfter (marks : Nat) : List Nat → List Nat × List (List Nat)
  | [] => ([], [])
  | code :: rest =>
    let leading := leadingMarks code
    if maxMarks < marks + leading then
      let (continued, others) := segmentsAfter leading rest
      ([graphemeJoiner], (code :: continued) :: others)
    else if leading = 0 then
      let (continued, others) := segmentsAfter (trailingMarks code) rest
      ([], (code :: continued) :: others)
    else
      let (continued, others) := segmentsAfter (marks + leading) rest
      (code :: continued, others)

/-- The segments of a text. The first one is empty unless the text begins with a mark. -/
def segments (codes : List Nat) : List (List Nat) :=
  let (first, others) := segmentsAfter 0 codes
  first :: others

end RefinementTypes.Text
