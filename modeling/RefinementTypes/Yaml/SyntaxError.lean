/-! Why a text is no YAML document. -/

namespace RefinementTypes.Yaml

inductive SyntaxProblem
  | controlCharacter
  | noToken
  | keyWithoutValue
  | misplacedEntry
  | misplacedKey
  | misplacedValue
  | anchorName
  | documentIndicator
  | endOfStream
  | escape
  | escapeDigits
  | escapeCode
  | tabInPlain
  | zeroIndentation
  | blockHeader
  | tabInBlock
  | documentStart
  | nodeContent
  | sequenceEntry
  | mappingKey
  | flowSequence
  | flowMapping
  | depth (limit : Nat)
  | unknownAnchor (name : String)
deriving DecidableEq

namespace SyntaxProblem

def message : SyntaxProblem → String
  | controlCharacter => "control characters are not allowed"
  | noToken => "found character that cannot start any token"
  | keyWithoutValue => "could not find expected ':'"
  | misplacedEntry => "block sequence entries are not allowed in this context"
  | misplacedKey => "mapping keys are not allowed in this context"
  | misplacedValue => "mapping values are not allowed in this context"
  | anchorName => "did not find expected alphabetic or numeric character"
  | documentIndicator => "found unexpected document indicator"
  | endOfStream => "found unexpected end of stream"
  | escape => "found unknown escape character"
  | escapeDigits => "did not find expected hexdecimal number"
  | escapeCode => "found invalid Unicode character escape code"
  | tabInPlain => "found a tab character that violates indentation"
  | zeroIndentation => "found an indentation indicator equal to 0"
  | blockHeader => "did not find expected comment or line break"
  | tabInBlock => "found a tab character where an indentation space is expected"
  | documentStart => "did not find expected <document start>"
  | nodeContent => "did not find expected node content"
  | sequenceEntry => "did not find expected '-' indicator"
  | mappingKey => "did not find expected key"
  | flowSequence => "did not find expected ',' or ']'"
  | flowMapping => "did not find expected ',' or '\x7d'"
  | depth limit => "exceeded max depth of " ++ toString limit
  | unknownAnchor name => "unknown anchor '" ++ name ++ "' referenced"

end SyntaxProblem

/-- A problem with the line that is reported with it, or zero if none is. -/
structure SyntaxError where
  problem : SyntaxProblem
  line : Nat
deriving DecidableEq

namespace SyntaxError

/-- A problem within a token that begins on line `start` and is met on line `found`, both counted from
zero. On the first line no line is reported. -/
def inToken (problem : SyntaxProblem) (start found : Nat) : SyntaxError :=
  ⟨problem, if start ≠ 0 then start + 1 else if found ≠ 0 then found + 1 else 0⟩

/-- A problem with the order of tokens, in a collection that begins on line `start`. The line reported
is the one before. -/
def inStructure (problem : SyntaxProblem) (start found : Nat) : SyntaxError :=
  ⟨problem, if start ≠ 0 then start else found⟩

def message (error : SyntaxError) : String :=
  "yaml: " ++ (if error.line = 0 then "" else "line " ++ toString error.line ++ ": ") ++
    error.problem.message

end SyntaxError

end RefinementTypes.Yaml
