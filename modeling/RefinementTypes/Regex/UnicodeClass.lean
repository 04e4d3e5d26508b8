import RefinementTypes.Text.GeneralCategory
import RefinementTypes.Text.Script
import RefinementTypes.Regex.CharSet

/-! Sets of characters that are named by a property: a general category, a group of categories or a
script. Case, blanks, hyphens and underscores do not count in a name. -/

namespace RefinementTypes.Regex

def propertySet (table : List (String × List String)) (named : String → Bool) : CharSet :=
  .ofRanges ((table.filter fun entry => named entry.1).flatMap fun entry =>
    (Text.CodeRanges.ofLines entry.2).toList)

def assigned : CharSet := propertySet Text.categoryLines fun _ => true

/-- The code points of the categories that begin with a letter. The unassigned ones are among those
of `C`. -/
def categoryGroup (letter : Char) : CharSet :=
  let listed := propertySet Text.categoryLines fun name => name.toList.head? = some letter
  if letter = 'C' then listed.union assigned.complement else listed

def category? (name : String) : Option CharSet :=
  if name = "Cn" then some assigned.complement
  else if name = "LC" then some (propertySet Text.categoryLines ["Lu", "Ll", "Lt"].contains)
  else if Text.categoryLines.any fun entry => entry.1 = name then
    some (propertySet Text.categoryLines (· = name))
  else
    match name.toList with
    | [letter] => if "CLMNPSZ".contains letter then some (categoryGroup letter) else none
    | _ => none

def categoryNames : List String :=
  ["C", "Cn", "L", "LC", "M", "N", "P", "S", "Z"] ++ Text.categoryLines.map Prod.fst

def longCategoryNames : List (String × String) :=
  [("Cased_Letter", "LC"), ("Close_Punctuation", "Pe"), ("Combining_Mark", "M"),
   ("Connector_Punctuation", "Pc"), ("Control", "Cc"), ("Currency_Symbol", "Sc"),
   ("Dash_Punctuation", "Pd"), ("Decimal_Number", "Nd"), ("Enclosing_Mark", "Me"),
   ("Final_Punctuation", "Pf"), ("Format", "Cf"), ("Initial_Punctuation", "Pi"), ("Letter", "L"),
   ("Letter_Number", "Nl"), ("Line_Separator", "Zl"), ("Lowercase_Letter", "Ll"), ("Mark", "M"),
   ("Math_Symbol", "Sm"), ("Modifier_Letter", "Lm"), ("Modifier_Symbol", "Sk"),
   ("Nonspacing_Mark", "Mn"), ("Number", "N"), ("Open_Punctuation", "Ps"), ("Other", "C"),
   ("Other_Letter", "Lo"), ("Other_Number", "No"), ("Other_Punctuation", "Po"),
   ("Other_Symbol", "So"), ("Paragraph_Separator", "Zp"), ("Private_Use", "Co"),
   ("Punctuation", "P"), ("Separator", "Z"), ("Space_Separator", "Zs"), ("Spacing_Mark", "Mc"),
   ("Surrogate", "Cs"), ("Symbol", "S"), ("Titlecase_Letter", "Lt"), ("Unassigned", "Cn"),
   ("Uppercase_Letter", "Lu"), ("cntrl", "Cc"), ("digit", "Nd"), ("punct", "P")]

def plainName (name : String) : String :=
  String.ofList ((name.toList.filter fun c => c ≠ '_' ∧ c ≠ '-' ∧ c ≠ ' ').map Char.toLower)

def findName? (name : String) (names : List String) : Option String :=
  names.find? fun candidate => plainName candidate = plainName name

def unicodeClass? (name : String) : Option CharSet :=
  if plainName name = "any" then some .full
  else if plainName name = "assigned" then some assigned
  else if plainName name = "ascii" then some (.range 0x00 0x7f)
  else
    match findName? name categoryNames with
    | some category => category? category
    | none =>
      match findName? name (Text.scriptLines.map Prod.fst) with
      | some script => some (propertySet Text.scriptLines (· = script))
      | none =>
        match findName? name (longCategoryNames.map Prod.fst) with
        | some long => (longCategoryNames.lookup long).bind category?
        | none => none

end RefinementTypes.Regex
