import RefinementTypes.Yaml.Integer

/-! Floating-point numbers of 64 bits, read from decimal texts with correct rounding: the nearest
number, and of two equally near ones the one with an even significand. -/

namespace RefinementTypes.Yaml

/-- A number `± significand * 2 ^ exponent`, an infinity, or no number. -/
inductive Binary64
  | finite (negative : Bool) (significand : Nat) (exponent : Int)
  | infinite (negative : Bool)
  | nan
deriving DecidableEq

/-- A decimal `± digits * 10 ^ exponent`. -/
structure Decimal where
  negative : Bool
  digits : Nat
  exponent : Int

namespace Decimal

def exponent? : List Char → Option Int
  | [] => some 0
  | mark :: rest =>
    if mark = 'e' ∨ mark = 'E' then
      match rest with
      | '-' :: digits => (natOf? 10 digits).map fun n => -(n : Int)
      | '+' :: digits => (natOf? 10 digits).map Int.ofNat
      | digits => (natOf? 10 digits).map Int.ofNat
    else none

/-- A decimal without a sign: digits, which a point may divide, and an exponent. -/
def unsigned? (negative : Bool) (text : List Char) : Option Decimal := do
  let whole := text.takeWhile Char.isDigit
  let rest := text.dropWhile Char.isDigit
  let (fraction, rest) := match rest with
    | '.' :: rest => (rest.takeWhile Char.isDigit, rest.dropWhile Char.isDigit)
    | rest => ([], rest)
  let digits ← natOf? 10 (whole ++ fraction)
  let exponent ← exponent? rest
  return ⟨negative, digits, exponent - fraction.length⟩

def ofText? : List Char → Option Decimal
  | '-' :: rest => unsigned? true rest
  | '+' :: rest => unsigned? false rest
  | text => unsigned? false text

end Decimal

namespace Binary64

def power (exponent : Nat) : Nat := Nat.pow 2 exponent

/-- The quotient rounded to the nearest integer, ties to even. -/
def roundDiv (numerator denominator : Nat) : Nat :=
  let quotient := numerator / denominator
  let twice := 2 * (numerator % denominator)
  if twice < denominator then quotient
  else if denominator < twice then quotient + 1
  else if quotient % 2 = 0 then quotient
  else quotient + 1

def roundScaled (numerator denominator : Nat) (exponent : Int) : Nat :=
  if 0 ≤ exponent then roundDiv numerator (denominator * power exponent.toNat)
  else roundDiv (numerator * power (-exponent).toNat) denominator

/-- The exponent at which a quotient has a significand of 53 bits, or the least exponent. -/
def exponentFor (numerator denominator : Nat) : Int :=
  let estimate : Int := (numerator.log2 : Int) - denominator.log2 - 52
  let floor := if 0 ≤ estimate then numerator / (denominator * power estimate.toNat)
    else numerator * power (-estimate).toNat / denominator
  max (-1074) (if floor < power 52 then estimate - 1 else estimate)

def ofQuotient? (negative : Bool) (numerator denominator : Nat) : Option Binary64 :=
  let exponent := exponentFor numerator denominator
  let significand := roundScaled numerator denominator exponent
  if 0 ≤ exponent ∧ power 1024 ≤ significand * power exponent.toNat then none
  else some (finite negative significand exponent)

/-- The number nearest to a decimal, unless it is too large. Exponents that are far out of range are
settled by the number of digits alone. -/
def ofDecimal? (decimal : Decimal) : Option Binary64 :=
  let magnitude : Int := decimal.exponent + (Nat.toDigits 10 decimal.digits).length
  if decimal.digits = 0 ∨ magnitude < -400 then some (finite decimal.negative 0 0)
  else if 400 < magnitude then none
  else if 0 ≤ decimal.exponent then
    ofQuotient? decimal.negative (decimal.digits * Nat.pow 10 decimal.exponent.toNat) 1
  else ofQuotient? decimal.negative decimal.digits (Nat.pow 10 (-decimal.exponent).toNat)

def truncate (significand : Nat) (exponent : Int) : Nat :=
  if 0 ≤ exponent then significand * power exponent.toNat else significand / power (-exponent).toNat

/-- The 64-bit integer that a number is cut to. Numbers above `2 ^ 63` have none; what else is out of
range has the least integer. -/
def toInt64? : Binary64 → Option Int
  | nan => none
  | infinite negative => if negative then some minInt64 else none
  | finite false significand exponent =>
    let value := truncate significand exponent
    if value < power 63 then some value
    else if significand * power exponent.toNat = power 63 then some minInt64
    else none
  | finite true significand exponent =>
    some (max minInt64 (-(truncate significand exponent)))

end Binary64

end RefinementTypes.Yaml
