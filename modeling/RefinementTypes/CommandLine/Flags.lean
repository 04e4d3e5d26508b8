import RefinementTypes.Text.Quoted

/-! Flags of the command line. A flag begins with one or two minus signs; its value stands behind an
equals sign or, for flags other than switches, in the next argument. The first argument that is no flag
ends the flags. -/

namespace RefinementTypes.CommandLine

structure Options where
  trace : Bool
  types : Bool
  format : String
  sourceOrder : Bool
  color : String

namespace Options

def default : Options := ⟨false, false, "text", false, "auto"⟩

end Options

/-- The flags: switches, and flags with a text as value. -/
inductive Flag
  | trace
  | types
  | sourceOrder
  | format
  | color
deriving DecidableEq

namespace Flag

def all : List Flag := [color, format, sourceOrder, trace, types]

def name : Flag → String
  | trace => "trace"
  | types => "types"
  | sourceOrder => "source-order"
  | format => "format"
  | color => "color"

def isSwitch : Flag → Bool
  | trace | types | sourceOrder => true
  | format | color => false

def help : Flag → String
  | trace => "write each checking step to stderr"
  | types => "print the interned type table"
  | sourceOrder => "check declarations in source order rather than dependency order"
  | format => "output format: text or yaml (default \"text\")"
  | color => "color errors: auto, always, or never (default \"auto\")"

def ofName? (name : String) : Option Flag := all.find? fun flag => flag.name = name

/-- Sets a switch; flags of the other kind stay. -/
def setSwitch (flag : Flag) (value : Bool) (options : Options) : Options :=
  match flag with
  | trace => { options with trace := value }
  | types => { options with types := value }
  | sourceOrder => { options with sourceOrder := value }
  | format | color => options

/-- Sets a flag with a text; switches stay. -/
def setText (flag : Flag) (value : String) (options : Options) : Options :=
  match flag with
  | format => { options with format := value }
  | color => { options with color := value }
  | trace | types | sourceOrder => options

end Flag

def usage : String :=
  "Usage of refine:\n" ++ String.join (Flag.all.map fun flag =>
    "  -" ++ flag.name ++ (if flag.isSwitch then "" else " string") ++ "\n    \t" ++ flag.help ++ "\n")

inductive FlagError
  | help
  | badSyntax (argument : String)
  | undefined (name : String)
  | notBool (value name : String)
  | missingValue (name : String)
deriving DecidableEq

namespace FlagError

/-- What is written about an error: the error itself, if it is one, and the usage. -/
def report : FlagError → String
  | help => usage
  | badSyntax argument => "bad flag syntax: " ++ argument ++ "\n" ++ usage
  | undefined name => "flag provided but not defined: -" ++ name ++ "\n" ++ usage
  | notBool value name =>
    "invalid boolean value " ++ Text.quote value ++ " for -" ++ name ++ ": parse error\n" ++ usage
  | missingValue name => "flag needs an argument: -" ++ name ++ "\n" ++ usage

def exitCode : FlagError → Nat
  | help => 0
  | _ => 2

end FlagError

def boolOf? (text : String) : Option Bool :=
  if ["1", "t", "T", "TRUE", "true", "True"].contains text then some true
  else if ["0", "f", "F", "FALSE", "false", "False"].contains text then some false
  else none

inductive Argument
  | plain
  | endOfFlags
  | malformed
  | flag (name : String) (value : Option String)

namespace Argument

/-- Divides a flag at the first equals sign, which cannot be its first character. -/
def divide : List Char → List Char → Argument
  | name, [] => flag (String.ofList name) none
  | name, c :: rest =>
    if c = '=' ∧ !name.isEmpty then flag (String.ofList name) (some (String.ofList rest))
    else divide (name ++ [c]) rest

def ofName (text : List Char) : Argument :=
  match text with
  | [] => malformed
  | c :: rest => if c = '-' ∨ c = '=' then malformed else divide [] (c :: rest)

def ofText (text : String) : Argument :=
  match text.toList with
  | ['-', '-'] => endOfFlags
  | '-' :: '-' :: rest => ofName rest
  | '-' :: c :: rest => ofName (c :: rest)
  | _ => plain

end Argument

/-- Reads a flag with its value, which may be the next argument. -/
def applyFlag (flag : Flag) (value : Option String) (rest : List String) (options : Options) :
    Except FlagError (Options × List String) :=
  if flag.isSwitch then
    match value with
    | none => .ok (flag.setSwitch true options, rest)
    | some text =>
      match boolOf? text with
      | some value => .ok (flag.setSwitch value options, rest)
      | none => .error (.notBool text flag.name)
  else
    match value, rest with
    | some text, rest => .ok (flag.setText text options, rest)
    | none, text :: rest => .ok (flag.setText text options, rest)
    | none, [] => .error (.missingValue flag.name)

def parseFlagsN : Nat → List String → Options → Except FlagError (Options × List String)
  | 0, args, options => .ok (options, args)
  | _ + 1, [], options => .ok (options, [])
  | steps + 1, arg :: rest, options =>
    match Argument.ofText arg with
    | .plain => .ok (options, arg :: rest)
    | .endOfFlags => .ok (options, rest)
    | .malformed => .error (.badSyntax arg)
    | .flag name value =>
      match Flag.ofName? name with
      | none => .error (if name = "help" ∨ name = "h" then .help else .undefined name)
      | some flag => do
        let (options, rest) ← applyFlag flag value rest options
        parseFlagsN steps rest options

/-- The options that arguments ask for, and the arguments behind the flags. -/
def parseFlags (args : List String) : Except FlagError (Options × List String) :=
  parseFlagsN args.length args .default

end RefinementTypes.CommandLine
