import RefinementTypes.Yaml.Reading

/-! Why a node is not the written form of a tree. -/

namespace RefinementTypes.Source

inductive Problem
  | singleKey
  | keys (names : List String)
  | unexpectedKey (key : String)
  | missingKey (key : String)
  | pair
  | emptyType
  | bounds
  | unknownType (key : String)
  | unknownExpr (key : String)
  | unknownPat (key : String)
  | unknownLiteral (key : String)
  | unknownOperator (label : String)
  | name
  | arguments
deriving DecidableEq

namespace Problem

def message : Problem → String
  | singleKey => "expected a mapping with a single key"
  | keys names => "expected a mapping with keys [" ++ " ".intercalate names ++ "]"
  | unexpectedKey key => "unexpected key " ++ Text.quote key
  | missingKey key => "missing key " ++ Text.quote key
  | pair => "expected a sequence of 2 elements"
  | emptyType => "empty type"
  | bounds => "range expects [lo, hi]"
  | unknownType key => "unknown type " ++ Text.quote key
  | unknownExpr key => "unknown expression " ++ Text.quote key
  | unknownPat key => "unknown pattern " ++ Text.quote key
  | unknownLiteral key => "unknown literal " ++ Text.quote key
  | unknownOperator label => "unknown operator " ++ Text.quote label
  | name => "expected a name"
  | arguments => "expected a sequence of arguments"

end Problem

inductive DecodeError
  | atLine (line : Nat) (problem : Problem)
  | missingExpr
  | mismatches (mismatches : List Yaml.Mismatch)

namespace DecodeError

def message : DecodeError → String
  | atLine line problem => "line " ++ toString line ++ ": " ++ problem.message
  | missingExpr => "missing expression"
  | mismatches all => Yaml.Mismatch.messageOfAll all

end DecodeError

end RefinementTypes.Source
