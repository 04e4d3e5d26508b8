import RefinementTypes.CommandLine.Run

/-! The command line: reads what a run needs, and writes what it gives. -/

namespace RefinementTypes.CommandLine

/-- The name of a session from sixteen random bytes, in the usual groups of digits. -/
def SessionId.ofBytes (bytes : List UInt8) : SessionId :=
  let marked := bytes.zipIdx.map fun (byte, index) =>
    if index = 6 then byte % 16 + 64 else if index = 8 then byte % 64 + 128 else byte
  let digits := marked.flatMap fun byte => Text.hexDigits 2 byte.toNat
  let group (start count : Nat) : String := String.ofList ((digits.drop start).take count)
  ⟨"-".intercalate [group 0 8, group 8 4, group 12 4, group 16 4, group 20 12], group 0 8⟩

def readFile? (path : String) : IO (Option String) := do
  try
    return some (← IO.FS.readFile path)
  catch _ => return none

end RefinementTypes.CommandLine

open RefinementTypes.CommandLine

def main (args : List String) : IO UInt32 := do
  let paths := paths args
  let files ← paths.mapM fun path => do return (path, ← readFile? path)
  let input ← if paths.isEmpty then (← IO.getStdin).readToEnd else pure ""
  let ids ← (List.range (paths.length + 1)).mapM fun _ => do
    return SessionId.ofBytes (← IO.getRandomBytes 16).toList
  let outcome := run {
    terminal := ← (← IO.getStderr).isTty
    input
    file? := fun path => (files.lookup path).bind id
    session := fun index => ids.getD index ⟨"", ""⟩ } args
  IO.eprint outcome.stderr
  IO.print outcome.stdout
  return outcome.exitCode.toUInt32
