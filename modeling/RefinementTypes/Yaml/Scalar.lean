import RefinementTypes.Yaml.Binary64
import RefinementTypes.Yaml.Timestamp

/-! What unquoted text stands for: nothing, a truth value, a number, a point in time or itself. -/

namespace RefinementTypes.Yaml

inductive Scalar
  | null
  | bool (value : Bool)
  | int (value : Int)
  | float (value : Binary64)
  | timestamp
  | text
deriving DecidableEq

namespace Scalar

def tag : Scalar → String
  | null => "!!null"
  | bool _ => "!!bool"
  | int _ => "!!int"
  | float _ => "!!float"
  | timestamp => "!!timestamp"
  | text => "!!str"

def words : List (String × Scalar) :=
  [("true", bool true), ("True", bool true), ("TRUE", bool true),
    ("false", bool false), ("False", bool false), ("FALSE", bool false),
    ("", null), ("~", null), ("null", null), ("Null", null), ("NULL", null),
    (".nan", float .nan), (".NaN", float .nan), (".NAN", float .nan),
    (".inf", float (.infinite false)), (".Inf", float (.infinite false)),
    (".INF", float (.infinite false)), ("+.inf", float (.infinite false)),
    ("+.Inf", float (.infinite false)), ("+.INF", float (.infinite false)),
    ("-.inf", float (.infinite true)), ("-.Inf", float (.infinite true)),
    ("-.INF", float (.infinite true))]

def separatesDigits : List Char → Bool
  | [] => true
  | ['_'] => false
  | '_' :: _ :: _ => false
  | c :: '_' :: d :: rest => c.isDigit && d.isDigit && separatesDigits (d :: rest)
  | _ :: rest => separatesDigits rest

/-- The number that a text with a leading sign or digit stands for. Underscores do not count. -/
def ofNumeral (chars : List Char) : Scalar :=
  if Timestamp.matchesText chars then timestamp
  else
    let plain := chars.filter (· ≠ '_')
    match integer? plain with
    | some value => int value
    | none =>
      match (Decimal.ofText? plain).bind Binary64.ofDecimal? with
      | some value => float value
      | none =>
        match lateSigned? plain with
        | some value => int value
        | none => text

def ofPoint (chars : List Char) : Scalar :=
  if separatesDigits chars then
    match (Decimal.ofText? (chars.filter (· ≠ '_'))).bind Binary64.ofDecimal? with
    | some value => float value
    | none => text
  else text

def ofPlain (value : String) : Scalar :=
  match words.lookup value with
  | some scalar => scalar
  | none =>
    match value.toList with
    | [] => null
    | c :: rest =>
      if c = '.' then ofPoint (c :: rest)
      else if c.isDigit ∨ c = '+' ∨ c = '-' then ofNumeral (c :: rest)
      else text

/-- The further words for truth values that are taken where one is asked for. -/
def laxWords : List (String × Bool) :=
  [("y", true), ("Y", true), ("yes", true), ("Yes", true), ("YES", true), ("on", true), ("On", true),
    ("ON", true), ("n", false), ("N", false), ("no", false), ("No", false), ("NO", false),
    ("off", false), ("Off", false), ("OFF", false)]

end Scalar

end RefinementTypes.Yaml
