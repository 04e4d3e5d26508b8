import RefinementTypes.Yaml.Integer

/-! Texts that are read as points in time: a date, or a date and a time of day with or without a zone. -/

namespace RefinementTypes.Yaml.Timestamp

/-- A step of reading: what is left of the text, or nothing if the text does not fit. -/
abbrev Reader := List Char → Option (List Char)

def char (c : Char) : Reader
  | d :: rest => if c = d then some rest else none
  | [] => none

def value (digits : List Char) : Nat := (ofDigits? 10 digits).getD 0

def short : List Char → Option (Nat × List Char)
  | a :: b :: rest =>
    if a.isDigit then
      if b.isDigit then some (value [a, b], rest) else some (value [a], b :: rest)
    else none
  | [a] => if a.isDigit then some (value [a], []) else none
  | [] => none

def double : List Char → Option (Nat × List Char)
  | a :: b :: rest => if a.isDigit ∧ b.isDigit then some (value [a, b], rest) else none
  | _ => none

def isLeap (year : Nat) : Bool := year % 4 = 0 ∧ (year % 100 ≠ 0 ∨ year % 400 = 0)

def daysIn (year month : Nat) : Nat :=
  if month = 2 then (if isLeap year then 29 else 28)
  else if [4, 6, 9, 11].contains month then 30
  else 31

/-- Reads the date that every point in time begins with: four digits of the year, the month and the
day. -/
def date : Reader
  | a :: b :: c :: d :: rest => do
    if !(a.isDigit && b.isDigit && c.isDigit && d.isDigit) then none
    let year := value [a, b, c, d]
    let rest ← char '-' rest
    let (month, rest) ← short rest
    if month < 1 ∨ 12 < month then none
    let rest ← char '-' rest
    let (day, rest) ← short rest
    if day < 1 ∨ daysIn year month < day then none
    return rest
  | _ => none

def fraction : List Char → List Char
  | point :: d :: rest =>
    if (point = '.' ∨ point = ',') ∧ d.isDigit then rest.dropWhile Char.isDigit
    else point :: d :: rest
  | rest => rest

def time : Reader := fun text => do
  let (hour, rest) ← short text
  if 24 ≤ hour then none
  let rest ← char ':' rest
  let (minute, rest) ← short rest
  if 60 ≤ minute then none
  let rest ← char ':' rest
  let (second, rest) ← short rest
  if 60 ≤ second then none
  return fraction rest

/-- Reads a zone: `Z`, or a sign with hours and minutes. -/
def zone : Reader
  | 'Z' :: rest => some rest
  | sign :: rest => do
    if !(sign = '+' || sign = '-') then none
    let (hours, rest) ← double rest
    if 24 < hours then none
    let rest ← char ':' rest
    let (minutes, rest) ← double rest
    if 60 < minutes then none
    return rest
  | [] => none

def matchesText (text : List Char) : Bool :=
  match date text with
  | none => false
  | some [] => true
  | some (c :: rest) =>
    if c = 'T' ∨ c = 't' then ((time rest).bind zone) = some []
    else if c = ' ' then time (rest.dropWhile (· = ' ')) = some []
    else false

end RefinementTypes.Yaml.Timestamp
