import StructuralTyping.CommandLine

/-! # The program

Reads the files that the arguments name, runs the command line on them and prints what it says. -/

namespace StructuralTyping.CommandLine

/-- The reason that is given when a file cannot be read. -/
def reason : IO.Error → String
  | .noFileOrDirectory _ _ _ => "No such file or directory (os error 2)"
  | .permissionDenied _ _ _ => "Permission denied (os error 13)"
  | .inappropriateType _ _ _ => "Is a directory (os error 21)"
  | e => toString e

/-- A file, or the reason why it cannot be read. -/
def readPath (path : String) : IO (String × Except String String) := do
  try
    return (path, .ok (← IO.FS.readFile path))
  catch e => return (path, .error (reason e))

end StructuralTyping.CommandLine

open StructuralTyping.CommandLine in
/-- Reads the files that the arguments name and hands them to the pure program. -/
def main (args : List String) : IO UInt32 := do
  let contents ← (paths args).mapM readPath
  let files : Files := fun path =>
    (contents.lookup path).getD (.error "No such file or directory (os error 2)")
  let output := run files args
  IO.print output.stdout
  for line in output.stderr do IO.eprintln line
  return output.code
