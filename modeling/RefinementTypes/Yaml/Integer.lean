/-! Texts of integers, with the marks `0x`, `0o` and `0b` of other bases and a plain leading zero for
base eight. -/

namespace RefinementTypes.Yaml

def digitValue? (c : Char) : Option Nat :=
  if '0' ≤ c ∧ c ≤ '9' then some (c.toNat - '0'.toNat)
  else if 'a' ≤ c ∧ c ≤ 'z' then some (c.toNat - 'a'.toNat + 10)
  else if 'A' ≤ c ∧ c ≤ 'Z' then some (c.toNat - 'A'.toNat + 10)
  else none

def pushDigit (base : Nat) (value : Option Nat) (c : Char) : Option Nat := do
  let high ← value
  let low ← digitValue? c
  if low < base then some (base * high + low) else none

/-- The number that digits stand for; no digits stand for zero. -/
def ofDigits? (base : Nat) (digits : List Char) : Option Nat :=
  digits.foldl (pushDigit base) (some 0)

def natOf? (base : Nat) : List Char → Option Nat
  | [] => none
  | digits => ofDigits? base digits

/-- The number that a text without a sign stands for, in the base it is marked with. -/
def markedNat? : List Char → Option Nat
  | [] => none
  | '0' :: mark :: c :: rest =>
    if mark = 'x' ∨ mark = 'X' then ofDigits? 16 (c :: rest)
    else if mark = 'o' ∨ mark = 'O' then ofDigits? 8 (c :: rest)
    else if mark = 'b' ∨ mark = 'B' then ofDigits? 2 (c :: rest)
    else ofDigits? 8 (mark :: c :: rest)
  | '0' :: rest => ofDigits? 8 rest
  | digits => ofDigits? 10 digits

def minInt64 : Int := -9223372036854775808

def maxInt64 : Int := 9223372036854775807

def int64? (value : Int) : Option Int :=
  if minInt64 ≤ value ∧ value ≤ maxInt64 then some value else none

def signed? (read : List Char → Option Nat) : List Char → Option Int
  | '+' :: rest => (read rest).bind fun n => int64? n
  | '-' :: rest => (read rest).bind fun n => int64? (-n)
  | text => (read text).bind fun n => int64? n

def unsigned? (value : Option Nat) : Option Int :=
  value.bind fun n => if n ≤ 18446744073709551615 then some (n : Int) else none

/-- An integer in the base it is marked with: signed within 64 bits, or unsigned within 64 bits. -/
def integer? (text : List Char) : Option Int :=
  (signed? markedNat? text).orElse fun _ => unsigned? (markedNat? text)

def behindMark? (base : Nat) (digits : List Char) : Option Int :=
  (signed? (natOf? base) digits).orElse fun _ => unsigned? (natOf? base digits)

/-- An integer in base two or eight with the sign behind the mark, as in `0b-1`. -/
def lateSigned? : List Char → Option Int
  | '0' :: 'b' :: digits => behindMark? 2 digits
  | '0' :: 'o' :: digits => behindMark? 8 digits
  | '-' :: '0' :: 'b' :: digits => signed? (natOf? 2) ('-' :: digits)
  | '-' :: '0' :: 'o' :: digits => signed? (natOf? 8) ('-' :: digits)
  | _ => none

end RefinementTypes.Yaml
