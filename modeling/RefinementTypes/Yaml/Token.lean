import RefinementTypes.Yaml.FlowText
import RefinementTypes.Yaml.BlockText

/-! The tokens of a YAML text. Indentation and one-line keys are made visible: a block collection
begins with a token of its own and ends with one, and a key is announced by a token before it. A key is
recognised only by what follows it, so tokens wait in a queue until no key can come before them. -/

namespace RefinementTypes.Yaml

inductive TokenKind
  | streamStart
  | streamEnd
  | documentStart
  | documentEnd
  | blockSequenceStart
  | blockMappingStart
  | blockEnd
  | flowSequenceStart
  | flowSequenceEnd
  | flowMappingStart
  | flowMappingEnd
  | blockEntry
  | flowEntry
  | key
  | value
  | reference (name : String)
  | anchor (name : String)
  | scalar (quoted : Bool) (text : String)
deriving DecidableEq

/-- A token with the line it begins on, counted from zero. -/
structure Token where
  kind : TokenKind
  line : Nat

/-- A place where a key may have begun that is known only by the value mark behind it. -/
structure PossibleKey where
  /-- A key must begin here, because the line has the indentation of a mapping. -/
  required : Bool
  position : Nat
  line : Nat
  column : Nat
  index : Nat

structure Lexer where
  cursor : Cursor
  /-- The column of the innermost block collection, or `-1`. -/
  indent : Int
  indents : List Int
  keyAllowed : Bool
  /-- For each level of brackets, the innermost first, where a key may have begun. -/
  keys : List (Option PossibleKey)
  queue : List Token
  taken : Nat
  started : Bool

namespace Lexer

def ofText (text : List Char) : Lexer where
  cursor := .ofText text
  indent := -1
  indents := []
  keyAllowed := false
  keys := [none]
  queue := []
  taken := 0
  started := false

def inFlow (lexer : Lexer) : Bool :=
  match lexer.keys with
  | _ :: _ :: _ => true
  | _ => false

/-- How many brackets, and how many block collections, may stand within each other. -/
def maxDepth : Nat := 10000

def push (lexer : Lexer) (kind : TokenKind) : Lexer :=
  { lexer with queue := lexer.queue ++ [⟨kind, lexer.cursor.line⟩] }

def error {α : Type} (lexer : Lexer) (problem : SyntaxProblem) : Except SyntaxError α :=
  .error (.inToken problem lexer.cursor.line lexer.cursor.line)

/-- Whether a key may still have begun at a place: it ends on its line, after at most 1024
characters. A required key that has ended without a value is an error. -/
def keyIsOpen (lexer : Lexer) (key : PossibleKey) : Except SyntaxError Bool :=
  if key.line < lexer.cursor.line ∨ key.index + 1024 < lexer.cursor.index then
    if key.required then .error (.inToken .keyWithoutValue key.line lexer.cursor.line) else .ok false
  else .ok true

def dropKey (lexer : Lexer) : Except SyntaxError Lexer :=
  match lexer.keys with
  | some key :: outer =>
    if key.required then .error (.inToken .keyWithoutValue key.line lexer.cursor.line)
    else .ok { lexer with keys := none :: outer }
  | _ => .ok lexer

def noteKey (lexer : Lexer) : Except SyntaxError Lexer := do
  if !lexer.keyAllowed then return lexer
  let key : PossibleKey := {
    required := !lexer.inFlow && lexer.indent == lexer.cursor.column
    position := lexer.taken + lexer.queue.length
    line := lexer.cursor.line
    column := lexer.cursor.column
    index := lexer.cursor.index }
  let lexer ← lexer.dropKey
  return { lexer with keys := some key :: lexer.keys.tail }

/-- Begins a block collection at a column, if it is further in than the one around it. -/
def indentTo (lexer : Lexer) (column : Nat) (position : Nat) (token : Token) :
    Except SyntaxError Lexer :=
  if !lexer.inFlow && lexer.indent < column then
    if maxDepth ≤ lexer.indents.length then
      .error (.inToken (.depth maxDepth) token.line lexer.cursor.line)
    else
      .ok { lexer with
        indents := lexer.indent :: lexer.indents
        indent := column
        queue := lexer.queue.insertIdx (position - lexer.taken) token }
  else .ok lexer

def endBlocks (column : Int) (line : Nat) : Int → List Int → List Token → Int × List Int × List Token
  | indent, [], queue => (indent, [], queue)
  | indent, outer :: indents, queue =>
    if column < indent then endBlocks column line outer indents (queue ++ [⟨.blockEnd, line⟩])
    else (indent, outer :: indents, queue)

def outdentTo (lexer : Lexer) (column : Int) : Lexer :=
  if lexer.inFlow then lexer
  else
    let (indent, indents, queue) :=
      endBlocks column lexer.cursor.line lexer.indent lexer.indents lexer.queue
    { lexer with indent, indents, queue }

/-- Passes blanks, comments and line breaks before a token. Tabs are no indentation. -/
def skipToTokenN : Nat → Lexer → Lexer
  | 0, lexer => lexer
  | steps + 1, lexer =>
    let cursor := if lexer.cursor.column = 0 ∧ lexer.cursor.rest.head? = some '\ufeff'
      then lexer.cursor.skip else lexer.cursor
    let cursor := cursor.skipWhile fun c =>
      c == ' ' || (lexer.inFlow || !lexer.keyAllowed) && c == '\t'
    let cursor := if cursor.rest.head? = some '#' then cursor.skipComments else cursor
    match cursor.rest with
    | c :: _ =>
      if isBreak c then
        skipToTokenN steps
          { lexer with cursor := cursor.lineBreak.2, keyAllowed := lexer.keyAllowed || !lexer.inFlow }
      else { lexer with cursor }
    | [] => { lexer with cursor }

def skipToToken (lexer : Lexer) : Lexer := skipToTokenN (lexer.cursor.size + 1) lexer

def endStream (lexer : Lexer) : Except SyntaxError Lexer := do
  let cursor := if lexer.cursor.column = 0 then lexer.cursor
    else { lexer.cursor with line := lexer.cursor.line + 1, column := 0 }
  let lexer ← ({ lexer with cursor }.outdentTo (-1)).dropKey
  return { lexer with keyAllowed := false }.push .streamEnd

def documentMark (lexer : Lexer) (kind : TokenKind) : Except SyntaxError Lexer := do
  let lexer ← (lexer.outdentTo (-1)).dropKey
  let lexer := { lexer with keyAllowed := false }.push kind
  return { lexer with cursor := lexer.cursor.advance 3 }

def openBracket (lexer : Lexer) (kind : TokenKind) : Except SyntaxError Lexer := do
  let lexer ← lexer.noteKey
  if maxDepth < lexer.keys.length then lexer.error (.depth maxDepth)
  let lexer := { lexer with keys := none :: lexer.keys, keyAllowed := true }.push kind
  return { lexer with cursor := lexer.cursor.skip }

def closeBracket (lexer : Lexer) (kind : TokenKind) : Except SyntaxError Lexer := do
  let lexer ← lexer.dropKey
  let keys := if lexer.inFlow then lexer.keys.tail else lexer.keys
  let lexer := { lexer with keys, keyAllowed := false }.push kind
  return { lexer with cursor := lexer.cursor.skip }

def flowEntry (lexer : Lexer) : Except SyntaxError Lexer := do
  let lexer ← lexer.dropKey
  let lexer := { lexer with keyAllowed := true }.push .flowEntry
  return { lexer with cursor := lexer.cursor.skip }

def beginBlock (lexer : Lexer) (kind : TokenKind) (problem : SyntaxProblem) :
    Except SyntaxError Lexer :=
  if lexer.inFlow then .ok lexer
  else if lexer.keyAllowed then
    lexer.indentTo lexer.cursor.column (lexer.taken + lexer.queue.length) ⟨kind, lexer.cursor.line⟩
  else lexer.error problem

def blockEntry (lexer : Lexer) : Except SyntaxError Lexer := do
  let lexer ← lexer.beginBlock .blockSequenceStart .misplacedEntry
  let lexer ← lexer.dropKey
  let lexer := { lexer with keyAllowed := true }.push .blockEntry
  return { lexer with cursor := lexer.cursor.skip }

def keyMark (lexer : Lexer) : Except SyntaxError Lexer := do
  let lexer ← lexer.beginBlock .blockMappingStart .misplacedKey
  let lexer ← lexer.dropKey
  let lexer := { lexer with keyAllowed := !lexer.inFlow }.push .key
  return { lexer with cursor := lexer.cursor.skip }

def announceKey (lexer : Lexer) (key : PossibleKey) : Except SyntaxError Lexer := do
  let lexer := { lexer with
    queue := lexer.queue.insertIdx (key.position - lexer.taken) ⟨.key, key.line⟩ }
  let lexer ← lexer.indentTo key.column key.position ⟨.blockMappingStart, key.line⟩
  return { lexer with keys := none :: lexer.keys.tail, keyAllowed := false }

def valueMark (lexer : Lexer) : Except SyntaxError Lexer := do
  let found ← match lexer.keys with
    | some key :: _ => do
      if ← lexer.keyIsOpen key then pure (some key) else pure none
    | _ => pure none
  let lexer ← match found with
    | some key => lexer.announceKey key
    | none => do
      let lexer ← lexer.beginBlock .blockMappingStart .misplacedValue
      pure { lexer with
        keys := (if lexer.keys.isEmpty then [] else none :: lexer.keys.tail)
        keyAllowed := !lexer.inFlow }
  let lexer := lexer.push .value
  return { lexer with cursor := lexer.cursor.skip }

def isNameChar (c : Char) : Bool := c.isAlphanum || c == '_' || c == '-'

def endsName : List Char → Bool
  | [] => true
  | c :: _ => isBlank c || isBreak c || "?:,]\x7d%@`".toList.contains c

def named (lexer : Lexer) (kind : String → TokenKind) : Except SyntaxError Lexer := do
  let lexer ← lexer.noteKey
  let start := lexer.cursor.line
  let name := (lexer.cursor.rest.drop 1).takeWhile isNameChar
  let cursor := lexer.cursor.advance (name.length + 1)
  if name.isEmpty || !endsName cursor.rest then .error (.inToken .anchorName start start)
  let lexer := { lexer with keyAllowed := false }.push (kind (String.ofList name))
  return { lexer with cursor }

def quoted (lexer : Lexer) (single : Bool) : Except SyntaxError Lexer := do
  let lexer ← lexer.noteKey
  let (text, cursor) ← scanQuoted single lexer.cursor
  let lexer := { lexer with keyAllowed := false }.push (.scalar true (String.ofList text))
  return { lexer with cursor }

def plain (lexer : Lexer) : Except SyntaxError Lexer := do
  let lexer ← lexer.noteKey
  let scalar ← scanPlain lexer.inFlow (lexer.indent + 1).toNat lexer.cursor
  let lexer := { lexer with keyAllowed := scalar.broken }.push
    (.scalar false (String.ofList scalar.text))
  return { lexer with cursor := scalar.cursor }

def block (lexer : Lexer) (literal : Bool) : Except SyntaxError Lexer := do
  let lexer ← lexer.dropKey
  let (text, cursor) ← scanBlock literal lexer.indent lexer.cursor
  let lexer := { lexer with keyAllowed := true }.push (.scalar true (String.ofList text))
  return { lexer with cursor }

/-- The characters that no plain scalar begins with, some of them only before a blank. A blank that
was not passed before a token is a tab in place of indentation. -/
def isIndicator (c : Char) : Bool := isBlank c || "-?:,[]\x7b\x7d#&*!|>'\"%@`".toList.contains c

def beginsPlain (inFlow : Bool) (c : Char) (rest : List Char) : Bool :=
  !isIndicator c || c == '-' && !(rest.head?.any isBlank) ||
    !inFlow && (c == '?' || c == ':') && !endsWord rest

def tokenAt (lexer : Lexer) (c : Char) (rest : List Char) : Except SyntaxError Lexer :=
  let inFlow := lexer.inFlow
  if c = '[' then lexer.openBracket .flowSequenceStart
  else if c = '\x7b' then lexer.openBracket .flowMappingStart
  else if c = ']' then lexer.closeBracket .flowSequenceEnd
  else if c = '\x7d' then lexer.closeBracket .flowMappingEnd
  else if c = ',' then lexer.flowEntry
  else if c = '-' ∧ endsWord rest then lexer.blockEntry
  else if c = '?' ∧ (inFlow ∨ endsWord rest) then lexer.keyMark
  else if c = ':' ∧ (inFlow ∨ endsWord rest) then lexer.valueMark
  else if c = '*' then lexer.named .reference
  else if c = '&' then lexer.named .anchor
  else if c = '|' ∧ !inFlow then lexer.block true
  else if c = '>' ∧ !inFlow then lexer.block false
  else if c = '\'' then lexer.quoted true
  else if c = '"' then lexer.quoted false
  else if beginsPlain inFlow c rest then lexer.plain
  else lexer.error .noToken

/-- Passes the comment on the line of the latest token. Behind a mark that begins an item, or behind a
scalar that the line has ended after, a comment belongs to what follows. -/
def skipLineComment (lexer : Lexer) : Lexer :=
  let comment := match lexer.queue.getLast? with
    | some ⟨.blockEntry, _⟩ => false
    | some ⟨.scalar _ _, _⟩ => !lexer.keyAllowed
    | _ => true
  if comment then { lexer with cursor := lexer.cursor.skipLineComment } else lexer

/-- Adds the next token, and the tokens that have to come before it. -/
def step (lexer : Lexer) : Except SyntaxError Lexer :=
  if !lexer.started then
    .ok ({ lexer with started := true, keyAllowed := true }.push .streamStart)
  else
    let lexer := lexer.skipToToken
    let lexer := lexer.outdentTo lexer.cursor.column
    if lexer.cursor.atMark '-' then lexer.documentMark .documentStart
    else if lexer.cursor.atMark '.' then lexer.documentMark .documentEnd
    else
      match lexer.cursor.rest with
      | [] => lexer.endStream
      | c :: rest =>
        if c = '%' ∧ lexer.cursor.column = 0 then lexer.error .noToken
        else return (← lexer.tokenAt c rest).skipLineComment

/-- Whether a key may have to be announced before the first token of the queue. -/
def headIsOpen (lexer : Lexer) : Except SyntaxError Bool :=
  match lexer.keys.find? fun key => key.any fun key => key.position == lexer.taken with
  | some (some key) => lexer.keyIsOpen key
  | _ => .ok false

/-- Reads on until the first token of the queue is settled and two more follow it. -/
def settleN : Nat → Lexer → Except SyntaxError Lexer
  | 0, lexer => .ok lexer
  | steps + 1, lexer => do
    let waiting ← if lexer.queue.length < 3 then pure true else lexer.headIsOpen
    if waiting then settleN steps (← lexer.step) else return lexer

/-- Each step takes at least one character, except at the two ends of the text. -/
def settle (lexer : Lexer) : Except SyntaxError Lexer :=
  settleN (lexer.cursor.size + 4) lexer

def dropToken (lexer : Lexer) : Lexer :=
  { lexer with queue := lexer.queue.tail, taken := lexer.taken + 1 }

end Lexer

end RefinementTypes.Yaml
