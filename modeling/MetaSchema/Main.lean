import MetaSchema.Command.Run

/-!
# The program

Reads the files that a command asks for, runs it on them and prints what it gives. The command
itself is a function of the files that it sees: it is run again with more of them until it asks for
none that have not been read.

There is no network here, so every request for a URL fails.
-/

namespace MetaSchema

/-- What opening some paths gave. -/
abbrev Snapshot := List (String × Except OpenError Entry)

/-- The files of a snapshot; a path that is not in it is missing. -/
def Snapshot.files (s : Snapshot) : FileSystem := fun path =>
  (s.lookup path).getD (.error .missing)

/-- The number of the system's error for reading a directory. -/
def isDirectoryCode : UInt32 := 21

/-- What an error in reading a path says about it. -/
def entryOfError : IO.Error → Except OpenError Entry
  | .noFileOrDirectory _ _ _ => .error .missing
  | .inappropriateType _ code details =>
    if code = isDirectoryCode then .ok .directory
    else .error (.other s!"{details} (os error {code})")
  | .permissionDenied _ code details => .error (.other s!"{details} (os error {code})")
  | .invalidArgument _ code details => .error (.other s!"{details} (os error {code})")
  | .resourceExhausted _ code details => .error (.other s!"{details} (os error {code})")
  | .otherError code details => .error (.other s!"{details} (os error {code})")
  | e => .error (.other (toString e))

/-- Opens a path. -/
def openPath (path : String) : IO (Except OpenError Entry) := do
  try
    return .ok (.file (← IO.FS.readBinFile path).toList)
  catch e => return entryOfError e

/-- Runs a command until all that it asks for is in the snapshot. -/
partial def runOn (args : List String) (dir : String) (s : Snapshot) : IO Ending := do
  let ending := runProgram args ⟨s.files, .unreachable⟩
  let asked := ending.opened.map (FileSystem.pathOf dir)
  let new := asked.eraseDups.filter fun path => (s.lookup path).isNone
  if new.isEmpty then return ending
  let read ← new.mapM fun path => return (path, ← openPath path)
  runOn args dir (read ++ s)

end MetaSchema

open MetaSchema in
/-- Runs the program; the exit code is that of the command. -/
def main (args : List String) : IO UInt32 := do
  let request := Request.ofArguments? args
  let dir := (request.map Request.dir).getD "."
  let input ← (request.bind Request.input?).toList.mapM fun path => return (path, ← openPath path)
  let ending ← runOn args dir input
  IO.print ending.output
  IO.eprint ending.errorOutput
  return UInt32.ofNat ending.exitCode
