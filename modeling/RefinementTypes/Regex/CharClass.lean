import RefinementTypes.Regex.ParseError
import RefinementTypes.Regex.UnicodeClass

/-! The written forms of sets of characters: escapes, named classes and classes in brackets. Every
reader takes the text from where its form begins and gives what is left after it. -/

namespace RefinementTypes.Regex

/-- The text from `whole` up to where `rest` begins. -/
def consumed (whole rest : List Char) : String :=
  String.ofList (whole.take (whole.length - rest.length))

def isOctal (c : Char) : Bool := '0' ≤ c && c ≤ '7'

def unhex (c : Char) : Option Nat :=
  if '0' ≤ c ∧ c ≤ '9' then some (c.toNat - '0'.toNat)
  else if 'a' ≤ c ∧ c ≤ 'f' then some (c.toNat - 'a'.toNat + 10)
  else if 'A' ≤ c ∧ c ≤ 'F' then some (c.toNat - 'A'.toNat + 10)
  else none

/-- Reads hexadecimal digits up to a closing brace. On failure gives what is left after the character
that cannot stand there. -/
def readBraced (digits value : Nat) : List Char → Except (List Char) (Nat × List Char)
  | [] => .error []
  | c :: rest =>
    if c = '\x7d' then if digits = 0 then .error rest else .ok (value, rest)
    else
      match unhex c with
      | none => .error rest
      | some digit =>
        let value := 16 * value + digit
        if CharSet.maxCode < value then .error rest else readBraced (digits + 1) value rest

/-- Reads the one or two digits after `\x`, or digits in braces. -/
def readHex : List Char → Except (List Char) (Nat × List Char)
  | [] => .error []
  | '\x7b' :: rest => readBraced 0 0 rest
  | _ :: [] => .error []
  | c :: d :: rest =>
    match unhex c, unhex d with
    | some high, some low => .ok (16 * high + low, rest)
    | _, _ => .error rest

def readOctal : Nat → Nat → List Char → Nat × List Char
  | 0, value, text => (value, text)
  | _ + 1, value, [] => (value, [])
  | count + 1, value, c :: rest =>
    if isOctal c then readOctal count (8 * value + (c.toNat - '0'.toNat)) rest
    else (value, c :: rest)

/-- Reads the character after a backslash as an escape for one character. A single digit other than
zero would refer back to a group, for which there is no rule. -/
def readEscapeBody : List Char → Except (List Char) (Nat × List Char)
  | [] => .error []
  | 'x' :: rest => readHex rest
  | 'a' :: rest => .ok (0x07, rest)
  | 'f' :: rest => .ok (0x0c, rest)
  | 'n' :: rest => .ok (0x0a, rest)
  | 'r' :: rest => .ok (0x0d, rest)
  | 't' :: rest => .ok (0x09, rest)
  | 'v' :: rest => .ok (0x0b, rest)
  | c :: rest =>
    if c = '0' || (isOctal c && rest.head?.any isOctal) then
      .ok (readOctal 2 (c.toNat - '0'.toNat) rest)
    else if c.toNat < 0x80 && !c.isAlphanum then .ok (c.toNat, rest)
    else .error rest

def readEscape (text : List Char) : Except ParseError (Nat × List Char) :=
  match text.drop 1 with
  | [] => .error ⟨.trailingBackslash, ""⟩
  | body =>
    match readEscapeBody body with
    | .ok result => .ok result
    | .error rest => .error ⟨.escape, consumed text rest⟩

def posixClass? : String → Option CharSet
  | "alnum" => some (.ofRanges [(0x30, 0x39), (0x41, 0x5a), (0x61, 0x7a)])
  | "alpha" => some (.ofRanges [(0x41, 0x5a), (0x61, 0x7a)])
  | "ascii" => some (.range 0x00 0x7f)
  | "blank" => some (.ofRanges [(0x09, 0x09), (0x20, 0x20)])
  | "cntrl" => some (.ofRanges [(0x00, 0x1f), (0x7f, 0x7f)])
  | "digit" => some (.range 0x30 0x39)
  | "graph" => some (.range 0x21 0x7e)
  | "lower" => some (.range 0x61 0x7a)
  | "print" => some (.range 0x20 0x7e)
  | "punct" => some (.ofRanges [(0x21, 0x2f), (0x3a, 0x40), (0x5b, 0x60), (0x7b, 0x7e)])
  | "space" => some (.ofRanges [(0x09, 0x0d), (0x20, 0x20)])
  | "upper" => some (.range 0x41 0x5a)
  | "word" => some (.ofRanges [(0x30, 0x39), (0x41, 0x5a), (0x5f, 0x5f), (0x61, 0x7a)])
  | "xdigit" => some (.ofRanges [(0x30, 0x39), (0x41, 0x46), (0x61, 0x66)])
  | _ => none

def digits : CharSet := .range 0x30 0x39
def spaces : CharSet := .ofRanges [(0x09, 0x0a), (0x0c, 0x0d), (0x20, 0x20)]
def wordChars : CharSet := .ofRanges [(0x30, 0x39), (0x41, 0x5a), (0x5f, 0x5f), (0x61, 0x7a)]

/-- A named set as it counts in a class: case is ignored before the set is negated. -/
def groupSet (foldCase negated : Bool) (set : CharSet) : CharSet :=
  let set := if foldCase then set.foldCase else set
  if negated then set.complement else set

/-- Reads `\d`, `\s`, `\w` or one of their negations, if the text begins with one. -/
def readLetterClass? (foldCase : Bool) : List Char → Option (CharSet × List Char)
  | '\\' :: 'd' :: rest => some (groupSet foldCase false digits, rest)
  | '\\' :: 'D' :: rest => some (groupSet foldCase true digits, rest)
  | '\\' :: 's' :: rest => some (groupSet foldCase false spaces, rest)
  | '\\' :: 'S' :: rest => some (groupSet foldCase true spaces, rest)
  | '\\' :: 'w' :: rest => some (groupSet foldCase false wordChars, rest)
  | '\\' :: 'W' :: rest => some (groupSet foldCase true wordChars, rest)
  | _ => none

def splitAtMark? (mark : Char → List Char → Bool) (skip : Nat) :
    List Char → Option (List Char × List Char)
  | [] => none
  | c :: rest =>
    if mark c rest then some ([], (c :: rest).drop skip)
    else (splitAtMark? mark skip rest).map fun (before, after) => (c :: before, after)

def readUnicodeClass? (foldCase : Bool) (text : List Char) :
    Except ParseError (Option (CharSet × List Char)) :=
  match text with
  | '\\' :: letter :: body =>
    if letter = 'p' ∨ letter = 'P' then
      let named (name : List Char) (rest : List Char) :=
        let inverted := name.head? = some '^'
        match unicodeClass? (String.ofList (if inverted then name.drop 1 else name)) with
        | none => .error ⟨.charRange, consumed text rest⟩
        | some set => .ok (some (groupSet foldCase (inverted != (letter = 'P')) set, rest))
      match body with
      | [] => named [] []
      | '\x7b' :: inner =>
        match splitAtMark? (fun c _ => c = '\x7d') 1 inner with
        | none => .error ⟨.charRange, String.ofList text⟩
        | some (name, rest) => named name rest
      | c :: rest => named [c] rest
    else .ok none
  | _ => .ok none

def readPosixClass? (foldCase : Bool) (text : List Char) :
    Except ParseError (Option (CharSet × List Char)) :=
  match text with
  | '[' :: ':' :: body =>
    match splitAtMark? (fun c rest => c = ':' ∧ rest.head? = some ']') 2 body with
    | none => .ok none
    | some (name, rest) =>
      let inverted := name.head? = some '^'
      match posixClass? (String.ofList (if inverted then name.drop 1 else name)) with
      | none => .error ⟨.charRange, consumed text rest⟩
      | some set => .ok (some (groupSet foldCase inverted set, rest))
  | _ => .ok none

def readClassChar (whole text : List Char) : Except ParseError (Nat × List Char) :=
  match text with
  | [] => .error ⟨.missingBracket, String.ofList whole⟩
  | '\\' :: _ => readEscape text
  | c :: rest => .ok (c.toNat, rest)

def readClassRange (foldCase : Bool) (whole text : List Char) :
    Except ParseError (CharSet × List Char) := do
  let (low, rest) ← readClassChar whole text
  let (high, rest) ←
    match rest with
    | '-' :: next :: more =>
      if next = ']' then pure (low, rest) else readClassChar whole (next :: more)
    | _ => pure (low, rest)
  if high < low then throw ⟨.charRange, consumed text rest⟩
  return (groupSet foldCase false (.range low high), rest)

/-- Reads the members of a class up to its closing bracket, which does not close the class where it is
the first of them. Each member takes a character or more, so `fuel` need not exceed the length. -/
def readMembers (foldCase : Bool) (whole : List Char) :
    Nat → Bool → CharSet → List Char → Except ParseError (CharSet × List Char)
  | 0, _, _, _ => .error ⟨.missingBracket, String.ofList whole⟩
  | fuel + 1, first, set, text => do
    if !first && text.head? = some ']' then return (set, text.drop 1)
    let (member, rest) ←
      match ← readPosixClass? foldCase text with
      | some result => pure result
      | none =>
        match ← readUnicodeClass? foldCase text with
        | some result => pure result
        | none =>
          match readLetterClass? foldCase text with
          | some result => pure result
          | none => readClassRange foldCase whole text
    readMembers foldCase whole fuel false (set.union member) rest

def readClass (foldCase : Bool) (text : List Char) : Except ParseError (CharSet × List Char) := do
  let body := text.drop 1
  let negated := body.head? = some '^'
  let members := if negated then body.drop 1 else body
  let (set, rest) ← readMembers foldCase text (text.length + 1) true .empty members
  return (if negated then set.complement else set, rest)

end RefinementTypes.Regex
