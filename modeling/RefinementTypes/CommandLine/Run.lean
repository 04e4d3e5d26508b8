import RefinementTypes.Text.Canonical
import RefinementTypes.Checking.Checker
import RefinementTypes.Source.File
import RefinementTypes.Yaml.Writer
import RefinementTypes.CommandLine.Flags

/-! A run of the command line: files are checked one after the other, and each is reported on. -/

namespace RefinementTypes.CommandLine

open RefinementTypes.Checking (Checker Config Program TypeError)

/-- What identifies a session in reports: its whole name, and the short one that trace lines have. -/
structure SessionId where
  full : String
  short : String

structure Outcome where
  stdout : String
  stderr : String
  exitCode : Nat

namespace Outcome

def silent : Outcome := ⟨"", "", 0⟩

def write (outcome : Outcome) (text : String) : Outcome :=
  { outcome with stdout := outcome.stdout ++ text }

def report (outcome : Outcome) (text : String) : Outcome :=
  { outcome with stderr := outcome.stderr ++ text }

end Outcome

/-- Where a run takes place: whether errors go to a terminal, the texts of files, the standard input,
and the names of sessions. -/
structure Environment where
  terminal : Bool
  input : String
  file? : String → Option String
  session : Nat → SessionId

def useColor (options : Options) (terminal : Bool) : Bool :=
  if options.color = "always" then true
  else if options.color = "never" then false
  else terminal

def colored (color : Bool) (code word : String) : String :=
  if color then "\x1b[" ++ code ++ "m" ++ word ++ "\x1b[0m" else word

def errorLine (color : Bool) (kind message : String) : String :=
  colored color "31" kind ++ ": " ++ message ++ "\n"

def warningLine (color : Bool) (message : String) : String :=
  colored color "33" "warning" ++ ": " ++ message ++ "\n"

def checkerConfig (options : Options) : Config where
  normalize := Text.canonical
  matcher := .regular
  sourceOrder := options.sourceOrder
  tracing := options.trace
  roundLimit := 1000000

def expressionCount (decls : List Decl) : Nat :=
  (decls.flatMap fun decl => decl.body.forms.toOption.getD []).length

def checkedCount (program : Program) : Nat :=
  (program.decls.flatMap fun decl => decl.body.forms).length

def typeTable (program : Program) : String :=
  String.join (program.store.toList.map fun (id, entry) =>
    "#" ++ toString id ++ " " ++ entry.formName ++ " = " ++ program.showType id ++ "\n")

def summary (session : SessionId) (types : Bool) (program : Program) : String :=
  let decls := program.decls.map fun decl =>
    Yaml.Content.mapping ([("name", .text decl.name)] ++
      (if decl.params.isEmpty then [] else [("params", .sequence (decl.params.map .text))]) ++
      [("type", .text (program.showType decl.type)), ("value", .text (program.showBody decl))])
  let table := program.store.toList.map fun (id, entry) =>
    Yaml.Content.mapping [("id", .number id), ("kind", .text entry.formName),
      ("type", .text (program.showType id))]
  Yaml.writeDocument ([("session", .text session.full), ("decls", .sequence decls)] ++
    (if types && !table.isEmpty then [("types", .sequence table)] else []))

def programText (options : Options) (session : SessionId) (program : Program) : String :=
  if options.format = "yaml" then summary session options.types program
  else program.render ++ (if options.types then typeTable program else "")

def runDecls (options : Options) (color : Bool) (session : SessionId) (filename : String)
    (decls : List Decl) (outcome : Outcome) : Outcome :=
  let outcome := if options.trace then
      outcome.report (filename ++ ": decoded " ++ toString decls.length ++ " declarations, " ++
        toString (expressionCount decls) ++ " expressions\n")
    else outcome
  let (result, checker) := (Checker.new (checkerConfig options)).check (decls.map some)
  let outcome := checker.state.trace.foldl (fun outcome line =>
    outcome.report ("[" ++ session.short ++ "] " ++ line ++ "\n")) outcome
  match result with
  | .error (.refused error) =>
    { outcome.report (errorLine color error.kind.render (filename ++ ": " ++ error.text)) with
      exitCode := 1 }
  | .error (.fault cause) =>
    { outcome.report (errorLine color "error" (filename ++ ": " ++ cause.message)) with exitCode := 2 }
  | .ok program =>
    let outcome := program.warnings.foldl (fun outcome warning =>
      outcome.report (warningLine color (filename ++ ": " ++ warning.text))) outcome
    let outcome := if options.trace then
        outcome.report (filename ++ ": session " ++ session.full ++ " elaborated " ++
          toString (checkedCount program) ++ " expressions, " ++ toString program.store.size ++
          " types\n")
      else outcome
    outcome.write (programText options session program)

def runText (options : Options) (color : Bool) (session : SessionId) (filename text : String)
    (outcome : Outcome) : Outcome :=
  match Source.parseFile text with
  | .error error =>
    { outcome.report (errorLine color "error" (filename ++ ": " ++ error.message)) with exitCode := 1 }
  | .ok decls => runDecls options color session filename decls outcome

/-- Checks files one after the other, from a session on. A file that fails does not stop the run. -/
def runFiles (environment : Environment) (options : Options) (color : Bool) :
    Nat → List String → Outcome → Outcome
  | _, [], outcome => outcome
  | index, path :: rest, outcome =>
    let outcome := match environment.file? path with
      | none =>
        { outcome.report (errorLine color "error" ("open " ++ path ++ ": no such file or directory")) with
          exitCode := 1 }
      | some text => runText options color (environment.session index) path text outcome
    runFiles environment options color (index + 1) rest outcome

def paths (args : List String) : List String :=
  match parseFlags args with
  | .ok (_, paths) => paths
  | .error _ => []

/-- A whole run. Without files, the standard input is checked. -/
def run (environment : Environment) (args : List String) : Outcome :=
  match parseFlags args with
  | .error error => { Outcome.silent.report error.report with exitCode := error.exitCode }
  | .ok (options, paths) =>
    if options.format ≠ "text" ∧ options.format ≠ "yaml" then
      { Outcome.silent.report ("unknown format " ++ Text.quote options.format ++ "\n") with
        exitCode := 2 }
    else
      let color := useColor options environment.terminal
      match paths with
      | [] => runText options color (environment.session 0) "stdin" environment.input .silent
      | paths => runFiles environment options color 0 paths .silent

end RefinementTypes.CommandLine
