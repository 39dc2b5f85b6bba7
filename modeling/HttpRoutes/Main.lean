import HttpRoutes.CommandLine

/-!
# The program

Reads the file that the arguments name, prints what there is to print, and ends with a code: 0 for
success, 1 for failure, 2 for arguments that make no sense.
-/

namespace HttpRoutes

/-- What is found at a path. What is there and cannot be read counts as a directory. -/
def readContent (path : String) : IO FileContent := do
  try
    return .bytes (← IO.FS.readBinFile path)
  catch
    | .noFileOrDirectory .. => return .missing
    | _ => return .directory

/-- The path that a command reads. -/
def Arguments.path? : Arguments → Option String
  | .run (.serve config _) => config
  | .run (.check config) => some config
  | _ => none

end HttpRoutes

open HttpRoutes

/-- Run the program on the arguments. -/
def main (args : List String) : IO UInt32 := do
  let found ← match (Arguments.read args).path? with
    | some path => readContent path
    | none => pure .missing
  match runProgram (fun _ => found) args with
  | .exit code output =>
    IO.print output
    return code.toUInt32
  | .serving _ =>
    IO.eprintln "cannot listen for connections"
    return 1
