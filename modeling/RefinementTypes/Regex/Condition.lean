/-! Conditions on a place in a text, which take up no characters. -/

namespace RefinementTypes.Regex

inductive Condition
  | textStart
  | textEnd
  | lineStart
  | lineEnd
  | wordBoundary
  | noWordBoundary
deriving DecidableEq

/-- A place in a text: the characters on either side of it. -/
structure Place where
  before : Option Char
  after : Option Char

def isWordChar (c : Char) : Bool := c.isAlphanum || c = '_'

namespace Condition

def holds (place : Place) : Condition → Bool
  | textStart => place.before.isNone
  | textEnd => place.after.isNone
  | lineStart => place.before.all (· = '\n')
  | lineEnd => place.after.all (· = '\n')
  | wordBoundary => place.before.any isWordChar != place.after.any isWordChar
  | noWordBoundary => place.before.any isWordChar == place.after.any isWordChar

end Condition

end RefinementTypes.Regex
