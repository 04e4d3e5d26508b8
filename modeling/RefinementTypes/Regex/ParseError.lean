/-! Why the text of a regular expression is refused, with the part of the text that shows it. -/

namespace RefinementTypes.Regex

inductive ErrorCode
  | charRange
  | escape
  | namedGroup
  | groupFlags
  | nestedRepetition
  | repeatCount
  | missingBracket
  | missingParen
  | missingArgument
  | trailingBackslash
  | unexpectedParen
  | nestingDepth
  | size
deriving DecidableEq

namespace ErrorCode

def render : ErrorCode → String
  | charRange => "invalid character class range"
  | escape => "invalid escape sequence"
  | namedGroup => "invalid named capture"
  | groupFlags => "invalid or unsupported Perl syntax"
  | nestedRepetition => "invalid nested repetition operator"
  | repeatCount => "invalid repeat count"
  | missingBracket => "missing closing ]"
  | missingParen => "missing closing )"
  | missingArgument => "missing argument to repetition operator"
  | trailingBackslash => "trailing backslash at end of expression"
  | unexpectedParen => "unexpected )"
  | nestingDepth => "expression nests too deeply"
  | size => "expression too large"

end ErrorCode

structure ParseError where
  code : ErrorCode
  fragment : String
deriving DecidableEq

namespace ParseError

def message (error : ParseError) : String :=
  "error parsing regexp: " ++ error.code.render ++ ": `" ++ error.fragment ++ "`"

end ParseError

end RefinementTypes.Regex
