/-! A place in a text, counted from zero, and what follows it. -/

namespace RefinementTypes.Yaml

structure Cursor where
  rest : List Char
  line : Nat
  column : Nat
  index : Nat
  /-- The number of characters of the whole text. It bounds every scan from here on. -/
  size : Nat

def isBlank (c : Char) : Bool := c == ' ' || c == '\t'

def isBreak (c : Char) : Bool :=
  c == '\n' || c == '\r' || c == '\u0085' || c == '\u2028' || c == '\u2029'

/-- Whether a word ends before what follows: a blank, a line break or the end. -/
def endsWord : List Char → Bool
  | [] => true
  | c :: _ => isBlank c || isBreak c

namespace Cursor

def ofText (text : List Char) : Cursor := ⟨text, 0, 0, 0, text.length⟩

def advance (cursor : Cursor) (count : Nat) : Cursor where
  rest := cursor.rest.drop count
  line := cursor.line
  column := cursor.column + count
  index := cursor.index + count
  size := cursor.size

def skip (cursor : Cursor) : Cursor := cursor.advance 1

def skipWhile (cursor : Cursor) (property : Char → Bool) : Cursor :=
  cursor.advance (cursor.rest.takeWhile property).length

def skipLine (cursor : Cursor) : Cursor := cursor.skipWhile fun c => !isBreak c

/-- Passes a line break, which counts as one line feed unless it is a separator of its own kind. -/
def lineBreak (cursor : Cursor) : List Char × Cursor :=
  let next (text rest : List Char) (count : Nat) : List Char × Cursor :=
    (text, ⟨rest, cursor.line + 1, 0, cursor.index + count, cursor.size⟩)
  match cursor.rest with
  | '\r' :: '\n' :: rest => next ['\n'] rest 2
  | '\u2028' :: rest => next ['\u2028'] rest 1
  | '\u2029' :: rest => next ['\u2029'] rest 1
  | c :: rest => if isBreak c then next ['\n'] rest 1 else ([], cursor)
  | [] => ([], cursor)

def skipGapN : Nat → Cursor → Cursor
  | 0, cursor => cursor
  | steps + 1, cursor =>
    match cursor.rest with
    | c :: _ =>
      if isBlank c then skipGapN steps cursor.skip
      else if isBreak c then skipGapN steps cursor.lineBreak.2
      else cursor
    | [] => cursor

def commentReach : Nat := 512

/-- Passes what is left of a line and the comments that follow with nothing but blanks and line breaks
of the usual kinds between them. Such comments may be indented by tabs. -/
def skipCommentsN : Nat → Cursor → Cursor
  | 0, cursor => cursor
  | steps + 1, cursor =>
    let cursor := cursor.skipLine
    let gap := (cursor.rest.take commentReach).takeWhile fun c => isBlank c || c == '\n' || c == '\r'
    if gap.length < commentReach ∧ cursor.rest[gap.length]? = some '#' then
      skipCommentsN steps (skipGapN gap.length cursor)
    else cursor

def skipComments (cursor : Cursor) : Cursor := skipCommentsN (cursor.size + 1) cursor

def skipLineComment (cursor : Cursor) : Cursor :=
  let blanks := (cursor.rest.take commentReach).takeWhile isBlank
  if blanks.length < commentReach ∧ cursor.rest[blanks.length]? = some '#' then cursor.skipLine
  else cursor

def atMark (cursor : Cursor) (mark : Char) : Bool :=
  cursor.column == 0 &&
    match cursor.rest with
    | a :: b :: c :: rest => a == mark && b == mark && c == mark && endsWord rest
    | _ => false

def atDocumentMark (cursor : Cursor) : Bool := cursor.atMark '-' || cursor.atMark '.'

end Cursor

/-- Blanks and line breaks between two words. -/
structure Gap where
  blanks : List Char
  broken : Bool
  first : List Char
  later : List Char
  /-- The line on which a tab stands before the limit of the indentation. -/
  tab : Option Nat

namespace Gap

def empty : Gap := ⟨[], false, [], [], none⟩

def scanN (limit : Nat) : Nat → Gap → Cursor → Gap × Cursor
  | 0, gap, cursor => (gap, cursor)
  | steps + 1, gap, cursor =>
    match cursor.rest with
    | [] => (gap, cursor)
    | c :: _ =>
      if isBlank c then
        if gap.broken then
          let tab := gap.tab.orElse fun _ =>
            if c = '\t' ∧ cursor.column < limit then some cursor.line else none
          scanN limit steps { gap with tab } cursor.skip
        else scanN limit steps { gap with blanks := gap.blanks ++ [c] } cursor.skip
      else if isBreak c then
        let (text, cursor) := cursor.lineBreak
        if gap.broken then scanN limit steps { gap with later := gap.later ++ text } cursor
        else scanN limit steps { gap with blanks := [], broken := true, first := text } cursor
      else (gap, cursor)

def scan (limit : Nat) (gap : Gap) (cursor : Cursor) : Gap × Cursor :=
  scanN limit cursor.size gap cursor

/-- What a gap within a text comes to: a single line feed becomes a space, and of several the first is
left out. -/
def fold (gap : Gap) : List Char :=
  if !gap.broken then gap.blanks
  else if gap.first = ['\n'] then (if gap.later.isEmpty then [' '] else gap.later)
  else gap.first ++ gap.later

end Gap

end RefinementTypes.Yaml
