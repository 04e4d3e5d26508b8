import RefinementTypes.Yaml.Cursor
import RefinementTypes.Yaml.Integer
import RefinementTypes.Yaml.SyntaxError

/-! Scalars that take lines of their own, below a header line. -/

namespace RefinementTypes.Yaml

/-- What becomes of the line breaks at the end. -/
inductive Chomping
  | strip
  | clip
  | keep
deriving DecidableEq

structure BlockHeader where
  chomping : Chomping
  /-- The indentation that is asked for, beyond that of the surroundings. -/
  indentation : Option Nat
  cursor : Cursor

def chomping? (c : Char) : Option Chomping :=
  if c = '+' then some .keep else if c = '-' then some .strip else none

def headerIndentation (cursor : Cursor) : Except SyntaxProblem (Option Nat × Cursor) :=
  match cursor.rest with
  | c :: _ =>
    if c = '0' then .error .zeroIndentation
    else if c.isDigit then .ok (digitValue? c, cursor.skip)
    else .ok (none, cursor)
  | [] => .ok (none, cursor)

def headerChomping (cursor : Cursor) : Option Chomping × Cursor :=
  match cursor.rest.head?.bind chomping? with
  | some chomping => (some chomping, cursor.skip)
  | none => (none, cursor)

/-- Reads the two parts of a header in either order, from behind the mark of the scalar. -/
def scanHeader (cursor : Cursor) : Except SyntaxProblem BlockHeader := do
  match headerChomping cursor with
  | (some chomping, cursor) =>
    let (indentation, cursor) ← headerIndentation cursor
    return ⟨chomping, indentation, cursor⟩
  | (none, cursor) =>
    match ← headerIndentation cursor with
    | (some indentation, cursor) =>
      let (chomping, cursor) := headerChomping cursor
      return ⟨chomping.getD .clip, some indentation, cursor⟩
    | (none, cursor) => return ⟨.clip, none, cursor⟩

def endHeader (cursor : Cursor) : Except SyntaxProblem Cursor :=
  let cursor := cursor.skipWhile isBlank
  let cursor := if cursor.rest.head? = some '#' then cursor.skipLine else cursor
  match cursor.rest with
  | [] => .ok cursor
  | c :: _ => if isBreak c then .ok cursor.lineBreak.2 else .error .blockHeader

/-- Empty lines: their breaks, the widest indentation met, and what follows. -/
structure EmptyLines where
  breaks : List Char
  widest : Nat
  cursor : Cursor

/-- Passes empty lines and the indentation of the line after them. An unknown indentation takes all
spaces. -/
def scanEmptyN (indent : Option Nat) : Nat → EmptyLines → Except SyntaxProblem EmptyLines
  | 0, lines => .ok lines
  | steps + 1, lines =>
    let spaces := (lines.cursor.rest.takeWhile (· == ' ')).length
    let taken := match indent with
      | some indent => min spaces (indent - lines.cursor.column)
      | none => spaces
    let cursor := lines.cursor.advance taken
    let widest := max lines.widest cursor.column
    let inside := indent.all fun indent => cursor.column < indent
    match cursor.rest with
    | c :: _ =>
      if inside ∧ c = '\t' then .error .tabInBlock
      else if isBreak c then
        let (text, cursor) := cursor.lineBreak
        scanEmptyN indent steps ⟨lines.breaks ++ text, widest, cursor⟩
      else .ok ⟨lines.breaks, widest, cursor⟩
    | [] => .ok ⟨lines.breaks, widest, cursor⟩

def scanEmpty (indent : Option Nat) (cursor : Cursor) : Except SyntaxProblem EmptyLines :=
  scanEmptyN indent (cursor.size + 1) ⟨[], 0, cursor⟩

/-- The text of a block scalar so far: the last line break and the empty lines behind it are kept
apart until it is known what follows. -/
structure BlockText where
  text : List Char
  first : List Char
  later : List Char
  blank : Bool
  cursor : Cursor

/-- Reads lines of the given indentation. Unless they are literal, a line break between two lines that
begin with words becomes a space. -/
def scanLinesN (literal : Bool) (indent : Nat) : Nat → BlockText → Except SyntaxProblem BlockText
  | 0, block => .ok block
  | steps + 1, block =>
    if block.cursor.column ≠ indent ∨ block.cursor.rest.isEmpty then .ok block
    else do
      let blank := endsWord block.cursor.rest
      let joined :=
        if !literal && !block.blank && !blank && block.first == ['\n'] then
          (if block.later.isEmpty then [' '] else [])
        else block.first
      let line := block.cursor.rest.takeWhile fun c => !isBreak c
      let (first, cursor) := (block.cursor.advance line.length).lineBreak
      let empty ← scanEmpty (some indent) cursor
      scanLinesN literal indent steps
        ⟨block.text ++ joined ++ block.later ++ line, first, empty.breaks, blank, empty.cursor⟩

def scanBlock (literal : Bool) (outer : Int) (cursor : Cursor) :
    Except SyntaxError (List Char × Cursor) :=
  let result : Except SyntaxProblem (List Char × Cursor) := do
    let header ← scanHeader cursor.skip
    let below ← endHeader header.cursor
    let known := header.indentation.map fun extra => (max outer 0).toNat + extra
    let empty ← scanEmpty known below
    let indent := known.getD (max empty.widest (max (outer + 1).toNat 1))
    let block ← scanLinesN literal indent (cursor.size + 1)
      ⟨[], [], empty.breaks, false, empty.cursor⟩
    let tail := match header.chomping with
      | .strip => []
      | .clip => block.first
      | .keep => block.first ++ block.later
    return (block.text ++ tail, block.cursor)
  result.mapError fun problem => .inToken problem cursor.line cursor.line

end RefinementTypes.Yaml
