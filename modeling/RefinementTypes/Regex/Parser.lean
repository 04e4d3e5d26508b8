import RefinementTypes.Regex.CharClass
import RefinementTypes.Regex.Choice

/-! Reading regular expressions. Groups that are open are kept as frames, the innermost apart, and each
frame holds what has been read of its alternatives. A repetition applies to the latest item of the
innermost frame. -/

namespace RefinementTypes.Regex

/-- An open group: the flags to return to, the finished alternatives and the items of the current one,
both with the latest first. -/
structure Frame where
  capturing : Bool
  flags : Flags
  finished : List Node
  items : List Node

/-- What has been read: the flags in force, the innermost frame, the frames around it, and what the
nodes made so far come to. -/
structure Progress where
  flags : Flags
  frame : Frame
  outer : List Frame
  limits : Limits

/-- The items with the latest two joined, if these are letters that agree on whether case counts. -/
def joinLatest? : List Node → Option (List Node)
  | .literal flags letters :: .literal flags' letters' :: earlier =>
    if flags.foldCase = flags'.foldCase then some (.literal flags' (letters' ++ letters) :: earlier)
    else none
  | _ => none

def flattenSequences : List Node → Build (List Node)
  | [] => return []
  | .sequence parts :: rest => do
    Build.release 1
    return parts ++ (← flattenSequences rest)
  | node :: rest => return node :: (← flattenSequences rest)

namespace Progress

def start : Progress := ⟨{}, ⟨false, {}, [], []⟩, [], {}⟩

def build (progress : Progress) (step : Build α) : Except ErrorCode (α × Progress) := do
  let (result, limits) ← step.run progress.limits
  return (result, { progress with limits })

def take (progress : Progress) : Progress := { progress with limits := progress.limits.take }

def release (progress : Progress) : Progress :=
  { progress with limits := progress.limits.release 1 }

def pending (progress : Progress) : List Node :=
  (progress.frame :: progress.outer).flatMap fun frame => frame.items ++ frame.finished

/-- Holds a finished node to the limits. When sizes begin to be looked at, all that is pending is held
to them too. -/
def accept (progress : Progress) (node : Node) : Except ErrorCode Progress :=
  let limits := progress.limits.notice node
  if limits.refuses node ||
      (!progress.limits.weighing && limits.weighing && progress.pending.any limits.refuses) then
    .error .size
  else if maxHeight < node.height then .error .nestingDepth
  else .ok { progress with limits }

def withItems (progress : Progress) (items : List Node) : Progress :=
  { progress with frame := { progress.frame with items } }

/-- Joins the latest two items if both are letters: what comes next can no longer repeat the latest
one. -/
def joinItems (progress : Progress) : Progress :=
  match joinLatest? progress.frame.items with
  | some items => (progress.withItems items).release
  | none => progress

/-- Adds a node to the current alternative. A class that comes to a letter is one. -/
def push (progress : Progress) (node : Node) : Except ErrorCode Progress :=
  let settled := node.settle progress.flags
  match node, settled, joinLatest? progress.frame.items with
  | .oneOf _, .literal _ _, some items => .ok (progress.withItems (settled :: items))
  | _, _, _ => do
    let progress := progress.joinItems
    (progress.withItems (settled :: progress.frame.items)).accept settled

def pushNew (progress : Progress) (node : Node) : Except ErrorCode Progress :=
  progress.take.push node

/-- Adds a letter. Where case does not count, the least of the letters that differ by case stands for
them all. -/
def pushLetter (progress : Progress) (code : Nat) : Except ErrorCode Progress :=
  let code := if progress.flags.foldCase then (Text.foldClass code).foldl min code else code
  progress.pushNew (.literal progress.flags #[code])

def endSequence (progress : Progress) : Except ErrorCode (Node × Progress) := do
  let progress := progress.joinItems
  let items := progress.frame.items.reverse
  let progress := progress.withItems []
  let (node, progress) ← progress.build <|
    match items with
    | [] => do
      Build.take
      return .empty
    | [node] => return node
    | nodes => do
      Build.take
      return .sequence (← flattenSequences nodes)
  let node := node.settle progress.flags
  return (node, ← progress.accept node)

/-- Adds an alternative to those that are finished. Two neighbours that stand for one character each
make one class. -/
def finish (progress : Progress) (node : Node) : Progress :=
  match progress.frame.finished with
  | [] => { progress with frame := { progress.frame with finished := [node] } }
  | previous :: earlier =>
    if node.isSingle && previous.isSingle then
      let finished := previous.merge node :: earlier
      { progress with frame := { progress.frame with finished } }.release
    else
      let finished := node :: previous.simplify :: earlier
      { progress with frame := { progress.frame with finished } }

def nextAlternative (progress : Progress) : Except ErrorCode Progress := do
  let isFirst := progress.frame.finished.isEmpty
  let (node, progress) ← progress.endSequence
  let progress := progress.finish node
  if isFirst then progress.take.accept .empty else return progress

def endChoice (progress : Progress) : Except ErrorCode (Node × Progress) := do
  let (node, progress) ← progress.endSequence
  let progress := progress.finish node
  let nodes :=
    match progress.frame.finished with
    | [] => []
    | latest :: earlier => (latest.simplify :: earlier).reverse
  let progress := { progress with frame := { progress.frame with finished := [] } }
  let (node, progress) ← progress.build (choose nodes)
  let node := node.settle progress.flags
  return (node, ← progress.accept node)

def openGroup (progress : Progress) (capturing : Bool) (flags : Flags) :
    Except ErrorCode Progress := do
  let progress ← progress.take.joinItems.accept .empty
  return { progress with
    flags
    frame := ⟨capturing, progress.flags, [], []⟩
    outer := progress.frame :: progress.outer }

def closeGroup (progress : Progress) : Except ErrorCode (Option Progress) := do
  let (body, progress) ← progress.endChoice
  match progress.outer with
  | [] => return none
  | frame :: outer =>
    let node := if progress.frame.capturing then .group body else body
    let progress := { progress with flags := progress.frame.flags, frame, outer }
    return some (← progress.push node)

def repeatLatest (progress : Progress) (repetition : Repetition) :
    Except ErrorCode (Option Progress) := do
  match progress.frame.items with
  | [] => return none
  | item :: earlier =>
    let node := Node.repeated item repetition
    return some (← (progress.take.withItems (node :: earlier)).accept node)

def latestCopies (progress : Progress) : Nat := Node.mostCopies (progress.frame.items.take 1)

end Progress

def ofWhole (whole : List Char) (result : Except ErrorCode α) : Except ParseError α :=
  result.mapError fun code => ⟨code, String.ofList whole⟩

def readCount? (text : List Char) : Option (Nat × List Char) :=
  let digits := text.takeWhile Char.isDigit
  match digits with
  | [] => none
  | '0' :: _ :: _ => none
  | _ =>
    some (digits.foldl (fun value c => 10 * value + (c.toNat - '0'.toNat)) 0,
      text.dropWhile Char.isDigit)

def readCounts? : List Char → Option (Nat × Option Nat × List Char)
  | '\x7b' :: text => do
    let (least, rest) ← readCount? text
    let (most, rest) ←
      match rest with
      | ',' :: '\x7d' :: more => some (none, '\x7d' :: more)
      | ',' :: more => (readCount? more).map fun (most, rest) => (some most, rest)
      | _ => some (some least, rest)
    match rest with
    | '\x7d' :: more => some (least, most, more)
    | _ => none
  | _ => none

def readGroupName (whole text : List Char) : Except ParseError (List Char) :=
  match splitAtMark? (fun c _ => c = '>') 1 text with
  | none => .error ⟨.namedGroup, String.ofList whole⟩
  | some (name, rest) =>
    if name ≠ [] ∧ name.all isWordChar then .ok rest
    else .error ⟨.namedGroup, consumed whole rest⟩

/-- Reads flags up to a colon or a closing parenthesis. `sign` is false after a minus, and `seen` says
whether a flag has been read since. Gives the flags, whether a group opens, and what is left. -/
def readFlags (whole : List Char) (flags : Flags) (sign seen : Bool) :
    List Char → Except ParseError (Flags × Bool × List Char)
  | [] => .error ⟨.groupFlags, String.ofList whole⟩
  | 'i' :: rest => readFlags whole { flags with foldCase := sign } sign true rest
  | 's' :: rest => readFlags whole { flags with dotNewline := sign } sign true rest
  | 'm' :: rest => readFlags whole { flags with multiLine := sign } sign true rest
  | 'U' :: rest => readFlags whole { flags with ungreedy := sign } sign true rest
  | c :: rest =>
    if c = '-' ∧ sign then readFlags whole flags false false rest
    else if (c = ':' ∨ c = ')') ∧ (sign ∨ seen) then .ok (flags, c = ':', rest)
    else .error ⟨.groupFlags, consumed whole rest⟩

def readSpecialGroup (whole : List Char) (progress : Progress) (text : List Char) :
    Except ParseError (Progress × List Char) :=
  match text with
  | '(' :: '?' :: 'P' :: '<' :: c :: name => do
    let rest ← readGroupName text (c :: name)
    return (← ofWhole whole (progress.openGroup true progress.flags), rest)
  | '(' :: '?' :: '<' :: c :: name => do
    let rest ← readGroupName text (c :: name)
    return (← ofWhole whole (progress.openGroup true progress.flags), rest)
  | _ => do
    let (flags, opens, rest) ← readFlags text progress.flags true false (text.drop 2)
    if opens then return (← ofWhole whole (progress.openGroup false flags), rest)
    else return ({ progress with flags }, rest)

def splitQuoted (text : List Char) : List Char × List Char :=
  (splitAtMark? (fun c rest => c = '\\' ∧ rest.head? = some 'E') 2 text).getD (text, [])

def readBackslash (whole : List Char) (progress : Progress) (text : List Char) :
    Except ParseError (Progress × List Char) :=
  let pushed (node : Node) (rest : List Char) := do
    return (← ofWhole whole (progress.pushNew node), rest)
  match text with
  | '\\' :: 'A' :: rest => pushed (.place .textStart) rest
  | '\\' :: 'b' :: rest => pushed (.place .wordBoundary) rest
  | '\\' :: 'B' :: rest => pushed (.place .noWordBoundary) rest
  | '\\' :: 'z' :: rest => pushed (.place .textEnd) rest
  | '\\' :: 'C' :: rest => .error ⟨.escape, consumed text rest⟩
  | '\\' :: 'Q' :: rest => do
    let (quoted, rest) := splitQuoted rest
    let letters := quoted.map Char.toNat
    return (← ofWhole whole (letters.foldlM Progress.pushLetter progress), rest)
  | _ => do
    match ← readUnicodeClass? progress.flags.foldCase text with
    | some (set, rest) => pushed (.oneOf set) rest
    | none =>
      match readLetterClass? progress.flags.foldCase text with
      | some (set, rest) => pushed (.oneOf set) rest
      | none =>
        let (code, rest) ← readEscape text
        return (← ofWhole whole (progress.pushLetter code), rest)

/-- Reads a repetition that begins at `text` and of which `after` is left once its mark and counts are
read. A question mark after it only chooses between matches. A repetition right after another, which
began at `previous`, is refused. -/
def readRepetition (whole : List Char) (progress : Progress) (previous : Option (List Char))
    (text after : List Char) (counted : Bool) (least : Nat) (most : Option Nat) :
    Except ParseError (Progress × List Char) := do
  let lazy := after.head? = some '?'
  let after := if lazy then after.drop 1 else after
  match previous with
  | some earlier => throw ⟨.nestedRepetition, consumed earlier after⟩
  | none =>
    let repetition : Repetition := ⟨counted, least, most, progress.flags.ungreedy != lazy⟩
    match ← ofWhole whole (progress.repeatLatest repetition) with
    | none => throw ⟨.missingArgument, consumed text after⟩
    | some progress =>
      if counted && maxCount < progress.latestCopies then
        throw ⟨.repeatCount, consumed text after⟩
      return (progress, after)

def countsAllowed (least : Nat) (most : Option Nat) : Bool :=
  least ≤ maxCount && most.all fun most => most ≤ maxCount && least ≤ most

/-- Reads one element of the expression: an item, a mark between items, or a repetition. Gives also
where the repetition began, if it was one. -/
def readElement (whole : List Char) (progress : Progress) (previous : Option (List Char))
    (text : List Char) : Except ParseError (Progress × Option (List Char) × List Char) := do
  let pushed (node : Node) (rest : List Char) := do
    return (← ofWhole whole (progress.pushNew node), none, rest)
  let repetition (after : List Char) (counted : Bool) (least : Nat) (most : Option Nat) := do
    let (progress, rest) ← readRepetition whole progress previous text after counted least most
    return (progress, some text, rest)
  match text with
  | [] => return (progress, none, [])
  | '(' :: '?' :: _ =>
    let (progress, rest) ← readSpecialGroup whole progress text
    return (progress, none, rest)
  | '(' :: rest => return (← ofWhole whole (progress.openGroup true progress.flags), none, rest)
  | '|' :: rest => return (← ofWhole whole progress.nextAlternative, none, rest)
  | ')' :: rest =>
    match ← ofWhole whole progress.closeGroup with
    | some progress => return (progress, none, rest)
    | none => throw ⟨.unexpectedParen, String.ofList whole⟩
  | '^' :: rest => pushed (.place (if progress.flags.multiLine then .lineStart else .textStart)) rest
  | '$' :: rest => pushed (.place (if progress.flags.multiLine then .lineEnd else .textEnd)) rest
  | '.' :: rest => pushed (if progress.flags.dotNewline then .anyChar else .notNewline) rest
  | '[' :: _ =>
    let (set, rest) ← readClass progress.flags.foldCase text
    pushed (.oneOf set) rest
  | '*' :: after => repetition after false 0 none
  | '+' :: after => repetition after false 1 none
  | '?' :: after => repetition after false 0 (some 1)
  | '\\' :: _ =>
    let (progress, rest) ← readBackslash whole progress text
    return (progress, none, rest)
  | c :: rest =>
    match readCounts? text with
    | some (least, most, after) =>
      if countsAllowed least most then repetition after true least most
      else throw ⟨.repeatCount, consumed text after⟩
    | none => return (← ofWhole whole (progress.pushLetter c.toNat), none, rest)

/-- Reads elements to the end of the text. Each takes a character or more, so `fuel` need not exceed
the length. -/
def readElements (whole : List Char) :
    Nat → Progress → Option (List Char) → List Char → Except ParseError Progress
  | 0, progress, _, _ => .ok progress
  | fuel + 1, progress, previous, text =>
    match text with
    | [] => .ok progress
    | _ :: _ => do
      let (progress, previous, rest) ← readElement whole progress previous text
      readElements whole fuel progress previous rest

def parse (text : String) : Except ParseError Node := do
  let whole := text.toList
  let progress ← readElements whole whole.length .start none whole
  let (node, progress) ← ofWhole whole progress.endChoice
  match progress.outer with
  | [] => return node
  | _ :: _ => throw ⟨.missingParen, text⟩

end RefinementTypes.Regex
