import RefinementTypes.Text.Quoted
import RefinementTypes.Yaml.Cursor
import RefinementTypes.Yaml.Scalar

/-! Writing of YAML documents. Texts are left plain where they read back as themselves, and are quoted
or written as blocks elsewhere; lines are never folded. -/

namespace RefinementTypes.Yaml

inductive Content
  | text (value : String)
  | number (value : Nat)
  | sequence (items : List Content)
  | mapping (entries : List (String × Content))

namespace Writer

def isShown (c : Char) : Bool :=
  let code := c.toNat
  code == 0x0a || 0x20 ≤ code && code ≤ 0x7e || 0xa0 ≤ code && code ≤ 0xfffd && code != 0xfeff

def blankFollows : List Char → Bool
  | [] => true
  | c :: _ => isBlank c

def beginsWithIndicator : List Char → Bool
  | [] => false
  | c :: rest =>
    "#,[]\x7b\x7d&*!|>'\"%@`".toList.contains c ||
      (c == '?' || c == ':' || c == '-') && blankFollows rest

/-- Whether a colon before a blank, or a number sign behind one, stands within a text. -/
def holdsIndicator : Char → List Char → Bool
  | _, [] => false
  | before, c :: rest =>
    c == ':' && blankFollows rest || c == '#' && (isBlank before || isBreak before) ||
      holdsIndicator c rest

def beginsWithMark : List Char → Bool
  | a :: b :: c :: _ => a == b && b == c && (a == '-' || a == '.')
  | _ => false

def hasIndicator (text : List Char) : Bool :=
  beginsWithMark text || beginsWithIndicator text ||
    match text with
    | [] => false
    | c :: rest => holdsIndicator c rest

def holdsPair (first second : Char → Bool) : List Char → Bool
  | a :: b :: rest => first a && second b || holdsPair first second (b :: rest)
  | _ => false

def isSpace (c : Char) : Bool := c == ' '

def hasLooseEnd (text : List Char) : Bool :=
  let loose (c : Char) : Bool := isSpace c || isBreak c
  text.head?.any loose || text.getLast?.any loose

def needsEscapes (text : List Char) : Bool := text.any fun c => c != '\t' && !isShown c

def quotable (text : List Char) : Bool :=
  !(holdsPair isBreak isSpace text || holdsPair isSpace isBreak text || text.contains '\t' ||
    needsEscapes text)

def plainFits (text : List Char) : Bool :=
  quotable text && !hasLooseEnd text && !text.any isBreak && !hasIndicator text

def blockFits (text : List Char) : Bool :=
  !(text.getLast?.any isSpace || holdsPair isSpace isBreak text || needsEscapes text)

def sexagesimalTail : Nat → List Char → Bool
  | 0, _ => false
  | _ + 1, [] => true
  | _ + 1, '.' :: rest => rest.all fun c => c.isDigit || c == '_'
  | steps + 1, ':' :: a :: b :: rest =>
    if a.isDigit && b.isDigit then a ≤ '5' && sexagesimalTail steps rest
    else a.isDigit && sexagesimalTail steps (b :: rest)
  | _ + 1, [':', a] => a.isDigit
  | _ + 1, _ => false

/-- Whether a text looks like a number in base sixty, such as `1:30`. -/
def isSexagesimal (text : List Char) : Bool :=
  let unsigned := match text with
    | '+' :: rest | '-' :: rest => rest
    | text => text
  match unsigned with
  | [] => false
  | c :: rest =>
    let tail := rest.dropWhile fun c => c.isDigit || c == '_'
    c.isDigit && tail.head? == some ':' && sexagesimalTail (tail.length + 1) tail

/-- Whether a text without quotes would be read as itself, also by readers with older words for truth
values and numbers. -/
def readsBack (text : String) : Bool :=
  Scalar.ofPlain text == .text && !isSexagesimal text.toList && (Scalar.laxWords.lookup text).isNone

def spaces (count : Nat) : List Char := List.replicate count ' '

def indentLines (indent : Nat) : Bool → List Char → List Char
  | _, [] => []
  | atStart, c :: rest =>
    if isBreak c then c :: indentLines indent true rest
    else (if atStart then spaces indent else []) ++ c :: indentLines indent false rest

def singleQuoted (indent : Nat) (text : List Char) : List Char :=
  '\'' :: (indentLines indent false text).flatMap (fun c => if c = '\'' then [c, c] else [c]) ++ ['\'']

def shortEscapes : List (Nat × Char) :=
  [(0x00, '0'), (0x07, 'a'), (0x08, 'b'), (0x09, 't'), (0x0a, 'n'), (0x0b, 'v'), (0x0c, 'f'), (0x0d, 'r'),
    (0x1b, 'e'), (0x22, '"'), (0x5c, '\\'), (0x85, 'N'), (0xa0, '_'), (0x2028, 'L'), (0x2029, 'P')]

def escaped (c : Char) : List Char :=
  let code := c.toNat
  let digits (width : Nat) : List Char := (Text.hexDigits width code).map Char.toUpper
  match shortEscapes.lookup code with
  | some letter => ['\\', letter]
  | none =>
    if code ≤ 0xff then '\\' :: 'x' :: digits 2
    else if code ≤ 0xffff then '\\' :: 'u' :: digits 4
    else '\\' :: 'U' :: digits 8

def doubleQuoted (text : List Char) : List Char :=
  '"' :: text.flatMap (fun c =>
    if !isShown c || isBreak c || c == '"' || c == '\\' then escaped c else [c]) ++ ['"']

def chompingSign (text : List Char) : List Char :=
  match text.reverse with
  | [] => ['-']
  | last :: before =>
    if !isBreak last then ['-']
    else if before.head?.all isBreak then ['+']
    else []

/-- A block below its header. The indentation is given where the text itself begins with a blank
place. A line break that the text begins with is the one that ends the header. -/
def literalBlock (indent : Nat) (text : List Char) : List Char :=
  let hint := if text.head?.any fun c => isSpace c || isBreak c then ['2'] else []
  let headerEnd := if text.head?.any isBreak then [] else ['\n']
  '|' :: hint ++ chompingSign text ++ headerEnd ++ indentLines indent true text

def scalarText (indent : Nat) (value : String) : List Char :=
  let text := value.toList
  if text.contains '\n' then
    if blockFits text then literalBlock indent text else doubleQuoted text
  else if readsBack value then
    if plainFits text then text
    else if quotable text then singleQuoted indent text
    else doubleQuoted text
  else doubleQuoted text

def endLine (text : List Char) : List Char :=
  if text.getLast?.any isBreak then text else text ++ ['\n']

mutual
def behindKey (indent : Nat) : Content → List Char
  | .text value => ' ' :: endLine (scalarText (indent + 2) value)
  | .number value => ' ' :: (toString value).toList ++ ['\n']
  | .sequence [] => " []\n".toList
  | .sequence (item :: rest) => '\n' :: writeItems (indent + 2) (item :: rest)
  | .mapping [] => " \x7b\x7d\n".toList
  | .mapping (entry :: rest) => '\n' :: writeEntries (indent + 2) true (entry :: rest)

/-- What stands behind the mark of an item; a mapping begins on the line of the mark. -/
def behindMark (indent : Nat) : Content → List Char
  | .text value => endLine (scalarText (indent + 2) value)
  | .number value => (toString value).toList ++ ['\n']
  | .sequence items => writeItems (indent + 2) items
  | .mapping entries => writeEntries (indent + 2) false entries

def writeItems (indent : Nat) : List Content → List Char
  | [] => []
  | item :: rest => spaces indent ++ '-' :: ' ' :: behindMark indent item ++ writeItems indent rest

def writeEntries (indent : Nat) (indented : Bool) : List (String × Content) → List Char
  | [] => []
  | (key, value) :: rest =>
    (if indented then spaces indent else []) ++ key.toList ++ ':' :: behindKey indent value ++
      writeEntries indent true rest
end

end Writer

def writeDocument (entries : List (String × Content)) : String :=
  String.ofList (Writer.writeEntries 0 true entries)

end RefinementTypes.Yaml
