import RefinementTypes.Yaml.Cursor
import RefinementTypes.Yaml.Integer
import RefinementTypes.Yaml.SyntaxError

/-! Scalars that may stand within a line: plain and quoted ones. -/

namespace RefinementTypes.Yaml

def isFlowMark (c : Char) : Bool :=
  c == ',' || c == '?' || c == '[' || c == ']' || c == '\x7b' || c == '\x7d'

def plainWord (inFlow : Bool) : List Char → List Char
  | [] => []
  | c :: rest =>
    if isBlank c || isBreak c then []
    else if c == ':' && endsWord rest then []
    else if inFlow && isFlowMark c then []
    else c :: plainWord inFlow rest

/-- A plain scalar: its text, whether a line ended behind it, and what follows. -/
structure PlainScalar where
  text : List Char
  broken : Bool
  cursor : Cursor

/-- Reads words and the gaps between them. Outside brackets, lines that go on must be indented by at
least `indent`. -/
def scanPlainN (inFlow : Bool) (indent start : Nat) :
    Nat → List Char → Gap → Cursor → Except SyntaxError PlainScalar
  | 0, text, gap, cursor => .ok ⟨text, gap.broken, cursor⟩
  | steps + 1, text, gap, cursor =>
    if cursor.atDocumentMark || cursor.rest.head? == some '#' then .ok ⟨text, gap.broken, cursor⟩
    else
      match plainWord inFlow cursor.rest with
      | [] => .ok ⟨text, gap.broken, cursor⟩
      | c :: more =>
        let word := c :: more
        let text := text ++ gap.fold ++ word
        let (gap, cursor) := Gap.empty.scan indent (cursor.advance word.length)
        match gap.tab with
        | some found => .error (.inToken .tabInPlain start found)
        | none =>
          if !inFlow && cursor.column < indent then .ok ⟨text, gap.broken, cursor⟩
          else scanPlainN inFlow indent start steps text gap cursor

def scanPlain (inFlow : Bool) (indent : Nat) (cursor : Cursor) : Except SyntaxError PlainScalar :=
  scanPlainN inFlow indent cursor.line (cursor.size + 1) [] .empty cursor

def escapes : List (Char × Char) :=
  [('0', '\x00'), ('a', '\x07'), ('b', '\x08'), ('t', '\t'), ('\t', '\t'), ('n', '\n'), ('v', '\x0b'),
    ('f', '\x0c'), ('r', '\r'), ('e', '\x1b'), (' ', ' '), ('"', '"'), ('\'', '\''), ('\\', '\\'),
    ('N', '\u0085'), ('_', '\u00a0'), ('L', '\u2028'), ('P', '\u2029')]

/-- The number of digits behind an escape that gives the code of a character. -/
def escapeLength (c : Char) : Option Nat :=
  if c = 'x' then some 2 else if c = 'u' then some 4 else if c = 'U' then some 8 else none

/-- The character of an escape, from behind the backslash, and the number of characters it takes. -/
def readEscape : List Char → Except SyntaxProblem (Char × Nat)
  | [] => .error .escape
  | c :: rest =>
    match escapes.lookup c with
    | some char => .ok (char, 1)
    | none =>
      match escapeLength c with
      | none => .error .escape
      | some count =>
        let digits := rest.take count
        match ofDigits? 16 digits with
        | none => .error .escapeDigits
        | some code =>
          if digits.length < count then .error .escapeDigits
          else if h : code.isValidChar then .ok (Char.ofNatAux code h, count + 1)
          else .error .escapeCode

/-- The run of a quoted scalar up to a blank, a line break or the quote: its text, whether it ends with
an escaped line break, and what follows. -/
def scanRunN (single : Bool) (start : Nat) :
    Nat → List Char → Cursor → Except SyntaxError (List Char × Bool × Cursor)
  | 0, text, cursor => .ok (text, false, cursor)
  | steps + 1, text, cursor =>
    match cursor.rest with
    | [] => .ok (text, false, cursor)
    | c :: rest =>
      if isBlank c || isBreak c then .ok (text, false, cursor)
      else if single then
        if c = '\'' then
          if rest.head? = some '\'' then scanRunN single start steps (text ++ [c]) (cursor.advance 2)
          else .ok (text, false, cursor)
        else scanRunN single start steps (text ++ [c]) cursor.skip
      else if c = '"' then .ok (text, false, cursor)
      else if c = '\\' then
        match rest.head? with
        | some next =>
          if isBreak next then .ok (text, true, cursor.skip.lineBreak.2)
          else
            match readEscape rest with
            | .error problem => .error (.inToken problem start cursor.line)
            | .ok (char, count) =>
              scanRunN single start steps (text ++ [char]) (cursor.advance (count + 1))
        | none => .error (.inToken .escape start cursor.line)
      else scanRunN single start steps (text ++ [c]) cursor.skip

def scanQuotedN (single : Bool) (start : Nat) :
    Nat → List Char → Cursor → Except SyntaxError (List Char × Cursor)
  | 0, _, cursor => .error (.inToken .endOfStream start cursor.line)
  | steps + 1, text, cursor => do
    if cursor.atDocumentMark then .error (.inToken .documentIndicator start cursor.line)
    if cursor.rest.isEmpty then .error (.inToken .endOfStream start cursor.line)
    let (text, escaped, cursor) ← scanRunN single start cursor.size text cursor
    if cursor.rest.head? = some (if single then '\'' else '"') then return (text, cursor.skip)
    let (gap, cursor) := { Gap.empty with broken := escaped }.scan 0 cursor
    scanQuotedN single start steps (text ++ gap.fold) cursor

def scanQuoted (single : Bool) (cursor : Cursor) : Except SyntaxError (List Char × Cursor) :=
  scanQuotedN single cursor.line (cursor.size + 1) [] cursor.skip

end RefinementTypes.Yaml
