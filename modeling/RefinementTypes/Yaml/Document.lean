import RefinementTypes.Yaml.Node
import RefinementTypes.Yaml.Token

/-! Documents from tokens. -/

namespace RefinementTypes.Yaml

namespace Document

/-- The tokens to come, and the nodes that have been given names, the latest first. A node that is not
complete yet has its name already. -/
structure Source where
  lexer : Lexer
  anchors : List (String × Option Node)

abbrev Parser := StateT Source (Except SyntaxError)

def peek : Parser Token := do
  let source ← get
  let lexer ← source.lexer.settle
  set { source with lexer }
  match lexer.queue with
  | token :: _ => return token
  | [] => return ⟨.streamEnd, lexer.cursor.line⟩

def skip : Parser Unit := modify fun source => { source with lexer := source.lexer.dropToken }

def skipAndPeek : Parser Token := do
  skip
  peek

def fail {α : Type} (problem : SyntaxProblem) (start : Nat) (token : Token) : Parser α :=
  throw (.inStructure problem start token.line)

def emptyAt (line : Nat) : Node := .scalar (line + 1) false ""

def resolveReference (line : Nat) (name : String) : Parser Node := do
  match (← get).anchors.lookup name with
  | none => throw ⟨.unknownAnchor name, 0⟩
  | some target => return .reference (line + 1) name target

/-- Runs the parser of a node and gives the node a name, where it has one. References that the node
holds to itself stand for it from then on. -/
def anchored (name : Option String) (parser : Parser Node) : Parser Node := do
  match name with
  | none => parser
  | some name =>
    let below := (← get).anchors.length
    modify fun source => { source with anchors := (name, none) :: source.anchors }
    let part ← parser
    let node := part.complete name part
    modify fun source =>
      let place := source.anchors.length - 1 - below
      { source with anchors := source.anchors.set place (name, some node) }
    return node

def isOneOf (token : Token) (kinds : List TokenKind) : Bool := kinds.contains token.kind

mutual
/-- Parses a node. In a block, collections may be given by indentation, and the entries of a sequence
that is a value may have the indentation of its key. -/
def node (block indentless : Bool) : Nat → Parser Node
  | 0 => throw ⟨.nodeContent, 0⟩
  | steps + 1 => do
    let token ← peek
    match token.kind with
    | .reference name =>
      skip
      resolveReference token.line name
    | .anchor name =>
      let next ← skipAndPeek
      anchored (some name) (content block indentless true token.line next steps)
    | _ => content block indentless false token.line token steps
termination_by structural steps => steps

def content (block indentless hasName : Bool) (start : Nat) (token : Token) : Nat → Parser Node
  | 0 => throw ⟨.nodeContent, 0⟩
  | steps + 1 => do
    match token.kind with
    | .scalar quoted text =>
      skip
      return .scalar (start + 1) quoted text
    | .flowSequenceStart =>
      skip
      return .sequence (start + 1) (← flowItems true token.line steps)
    | .flowMappingStart =>
      skip
      return .mapping (start + 1) (← flowEntries true token.line steps)
    | _ =>
      if indentless && token.kind == .blockEntry then
        return .sequence (start + 1) (← indentlessItems steps)
      else if block && token.kind == .blockSequenceStart then
        skip
        return .sequence (start + 1) (← blockItems token.line steps)
      else if block && token.kind == .blockMappingStart then
        skip
        return .mapping (start + 1) (← blockEntries token.line steps)
      else if hasName then return emptyAt start
      else fail .nodeContent start token
termination_by structural steps => steps

def blockItems (start : Nat) : Nat → Parser (List Node)
  | 0 => throw ⟨.nodeContent, 0⟩
  | steps + 1 => do
    let token ← peek
    match token.kind with
    | .blockEntry =>
      let next ← skipAndPeek
      let item ← if isOneOf next [.blockEntry, .blockEnd] then pure (emptyAt token.line)
        else node true false steps
      return item :: (← blockItems start steps)
    | .blockEnd =>
      skip
      return []
    | _ => fail .sequenceEntry start token
termination_by structural steps => steps

def indentlessItems : Nat → Parser (List Node)
  | 0 => throw ⟨.nodeContent, 0⟩
  | steps + 1 => do
    let token ← peek
    match token.kind with
    | .blockEntry =>
      let next ← skipAndPeek
      let item ← if isOneOf next [.blockEntry, .key, .value, .blockEnd] then pure (emptyAt token.line)
        else node true false steps
      return item :: (← indentlessItems steps)
    | _ => return []
termination_by structural steps => steps

def blockEntries (start : Nat) : Nat → Parser (List (Node × Node))
  | 0 => throw ⟨.nodeContent, 0⟩
  | steps + 1 => do
    let token ← peek
    match token.kind with
    | .key =>
      let next ← skipAndPeek
      let key ← if isOneOf next [.key, .value, .blockEnd] then pure (emptyAt token.line)
        else node true true steps
      let value ← valueBefore [.key, .value, .blockEnd] true steps
      return (key, value) :: (← blockEntries start steps)
    | .blockEnd =>
      skip
      return []
    | _ => fail .mappingKey start token
termination_by structural steps => steps

/-- Parses a value behind its mark. Without the mark, or before what ends the entry, it is empty. -/
def valueBefore (ends : List TokenKind) (block : Bool) : Nat → Parser Node
  | 0 => throw ⟨.nodeContent, 0⟩
  | steps + 1 => do
    let token ← peek
    match token.kind with
    | .value =>
      let next ← skipAndPeek
      if isOneOf next ends then return emptyAt (if block then token.line else next.line)
      else node block block steps
    | _ => return emptyAt token.line
termination_by structural steps => steps

def flowItems (first : Bool) (start : Nat) : Nat → Parser (List Node)
  | 0 => throw ⟨.nodeContent, 0⟩
  | steps + 1 => do
    let token ← peek
    let token ← if first || token.kind == .flowSequenceEnd then pure token
      else if token.kind == .flowEntry then skipAndPeek
      else fail .flowSequence start token
    match token.kind with
    | .flowSequenceEnd =>
      skip
      return []
    | .key =>
      let next ← skipAndPeek
      let key ← if isOneOf next [.value, .flowEntry, .flowSequenceEnd] then do
          skip
          pure (emptyAt next.line)
        else node false false steps
      let value ← valueBefore [.flowEntry, .flowSequenceEnd] false steps
      return .mapping (token.line + 1) [(key, value)] :: (← flowItems false start steps)
    | _ =>
      let item ← node false false steps
      return item :: (← flowItems false start steps)
termination_by structural steps => steps

def flowEntries (first : Bool) (start : Nat) : Nat → Parser (List (Node × Node))
  | 0 => throw ⟨.nodeContent, 0⟩
  | steps + 1 => do
    let token ← peek
    let token ← if first || token.kind == .flowMappingEnd then pure token
      else if token.kind == .flowEntry then skipAndPeek
      else fail .flowMapping start token
    match token.kind with
    | .flowMappingEnd =>
      skip
      return []
    | .key =>
      let next ← skipAndPeek
      let key ← if isOneOf next [.value, .flowEntry, .flowMappingEnd] then pure (emptyAt next.line)
        else node false false steps
      let value ← valueBefore [.flowEntry, .flowMappingEnd] false steps
      return (key, value) :: (← flowEntries false start steps)
    | _ =>
      let key ← node false false steps
      let next ← peek
      return (key, emptyAt next.line) :: (← flowEntries false start steps)
termination_by structural steps => steps
end

def first (steps : Nat) : Parser (Option Node) := do
  let _ ← peek
  let token ← skipAndPeek
  match token.kind with
  | .streamEnd => return none
  | .documentStart =>
    let next ← skipAndPeek
    let root ← if isOneOf next [.documentStart, .documentEnd, .streamEnd] then pure (emptyAt next.line)
      else node true false steps
    let _ ← peek
    return some root
  | _ =>
    let root ← node true false steps
    let _ ← peek
    return some root

end Document

def isAllowed (c : Char) : Bool :=
  let code := c.toNat
  code == 0x09 || code == 0x0a || code == 0x0d || 0x20 ≤ code && code ≤ 0x7e || code == 0x85 ||
    0xa0 ≤ code && code ≤ 0xfffd || 0x10000 ≤ code

/-- The first document of a text, or none if the text holds no document. No token gives rise to more
than four steps of the parser, and no character to more than four tokens. -/
def parseDocument (text : String) : Except SyntaxError (Option Node) :=
  let chars := match text.toList with
    | '\ufeff' :: rest => rest
    | chars => chars
  if chars.all isAllowed then
    match (Document.first (16 * (chars.length + 4))).run ⟨.ofText chars, []⟩ with
    | .ok (root, _) => .ok root
    | .error error => .error error
  else .error ⟨.controlCharacter, 0⟩

end RefinementTypes.Yaml
