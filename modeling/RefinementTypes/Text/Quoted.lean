import RefinementTypes.Text.Printable

/-! Quoted text: a double quote on either side, a backslash before a quote or a backslash, and an
escape for every character that cannot be shown. -/

namespace RefinementTypes.Text

/-- The last `width` hexadecimal digits of a number, lower case. -/
def hexDigits (width value : Nat) : List Char :=
  match width with
  | 0 => []
  | width + 1 => hexDigits width (value / 16) ++ [Nat.digitChar (value % 16)]

def escapeChar (shown : Char → Bool) (c : Char) : List Char :=
  if c = '"' ∨ c = '\\' then ['\\', c]
  else if shown c then [c]
  else match c.toNat with
    | 0x07 => ['\\', 'a']
    | 0x08 => ['\\', 'b']
    | 0x0c => ['\\', 'f']
    | 0x0a => ['\\', 'n']
    | 0x0d => ['\\', 'r']
    | 0x09 => ['\\', 't']
    | 0x0b => ['\\', 'v']
    | code =>
      if code < 0x20 ∨ code = 0x7f then '\\' :: 'x' :: hexDigits 2 code
      else if code < 0x10000 then '\\' :: 'u' :: hexDigits 4 code
      else '\\' :: 'U' :: hexDigits 8 code

def quoteWith (shown : Char → Bool) (text : List Char) : List Char :=
  '"' :: text.flatMap (escapeChar shown) ++ ['"']

def quote (text : String) : String :=
  String.ofList (quoteWith isPrintable text.toList)

end RefinementTypes.Text
