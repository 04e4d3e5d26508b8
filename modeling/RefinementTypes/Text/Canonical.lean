import RefinementTypes.Text.Segment

/-! The canonical composed form of a text (NFC): in each segment characters are decomposed, marks are
put in canonical order, and what composes is composed. -/

namespace RefinementTypes.Text

/-- Puts a mark in front of the marks of higher class at the end of a text, which is given with the
latest character first. -/
def insertMark (code combining : Nat) : List Nat → List Nat
  | [] => [code]
  | last :: earlier =>
    if combining < combiningClass last then last :: insertMark code combining earlier
    else code :: last :: earlier

/-- Adds a character to a text with the latest character first, keeping marks in canonical order. -/
def addOrdered (text : List Nat) (code : Nat) : List Nat :=
  let combining := combiningClass code
  if combining = 0 then code :: text else insertMark code combining text

/-- A segment composed so far: the anchor that further characters may compose with, and what stands
before and after it, each with the latest first. From the first conjoining letter on, only Hangul
composes. -/
structure Composition where
  before : List Nat
  anchor : Nat
  later : List Nat
  hangul : Bool

namespace Composition

def toList (text : Composition) : List Nat := text.later ++ text.anchor :: text.before

/-- Moves the anchor to the latest character if that is no mark. -/
def settle (text : Composition) : Composition :=
  match text.later with
  | [] => text
  | last :: earlier =>
    if combiningClass last = 0 then
      { text with before := earlier ++ text.anchor :: text.before, anchor := last, later := [] }
    else text

/-- Whether a mark after the anchor keeps a character of the class from it. -/
def blocked (text : Composition) (combining : Nat) : Bool :=
  match text.later with
  | [] => false
  | last :: _ => combining ≤ combiningClass last

def keep (text : Composition) (code : Nat) : Composition :=
  { text with later := code :: text.later }

def add (text : Composition) (code : Nat) : Composition :=
  let text := { text with hangul := text.hangul || isConjoining code }
  if text.hangul || combinesBackward code then
    let text := text.settle
    if text.blocked (combiningClass code) then text.keep code
    else
      let composed := if text.hangul then composeHangul? text.anchor code
        else compose? text.anchor code
      match composed with
      | some whole => { text with anchor := whole }
      | none => text.keep code
  else text.keep code

end Composition

def composeSegment : List Nat → List Nat
  | [] => []
  | first :: rest => (rest.foldl Composition.add ⟨[], first, [], false⟩).toList.reverse

def canonicalSegment (codes : List Nat) : List Nat :=
  composeSegment ((codes.flatMap decompose).foldl addOrdered []).reverse

/-- The canonical composed form of a text. -/
def canonical (text : String) : String :=
  let codes := (segments (text.toList.map Char.toNat)).flatMap canonicalSegment
  String.ofList (codes.map Char.ofNat)

end RefinementTypes.Text
