import Joinery.CommandLine.Run

/-!
# The program

Finds the files that the arguments name, runs the command on them, and writes what it reports. Log
lines carry the time since the program was started.
-/
namespace Joinery.CommandLine

/-- What is at a path: a folder, or a file with a text. -/
def look (path : String) : IO Found := do
  try
    return .text (← IO.FS.readFile path)
  catch
    | .inappropriateType .. => return .folder
    | _ => return .nothing

/-- A path and the paths of the folders on the way to it. -/
def stages (path : String) : List String :=
  let parts := Files.partsOf path
  (List.range (parts.length + 1)).map fun n =>
    Files.pathForm (Files.rootOf path ++ "/".intercalate (parts.take n))

/-- The files and folders on the way along paths. -/
def findFiles (paths : List String) : IO Files := do
  let found ← (paths.flatMap stages).mapM fun path => return (path, ← look path)
  let texts := found.filterMap fun
    | (path, .text content) => some (path, content)
    | _ => none
  let folders := found.filterMap fun
    | (path, .folder) => some (Files.placeOf path)
    | _ => none
  return (Files.ofList texts).withFolders folders

/-- The path of the log, if settings ask for a log file. -/
def logPath? (files : Files) (r : Request) : Option String :=
  match r.settingsPath.mapError .misuse >>= Settings.ofFile files >>= logPathOf with
  | .ok path => path
  | .error _ => none

/-- The files that a request needs. -/
def filesFor (r : Request) : IO Files := do
  let files ← findFiles r.paths
  findFiles (r.paths ++ (logPath? files r).toList)

/-- Two digits. -/
def twoDigits (n : Nat) : String := if n < 10 then s!"0{n}" else toString n

/-- A duration in seconds as hours, minutes and seconds. -/
def clockText (seconds : Nat) : String :=
  s!"{twoDigits (seconds / 3600)}:{twoDigits (seconds / 60 % 60)}:{twoDigits (seconds % 60)}"

/-- Writes the report of a run, and answers the status of the program. -/
def Run.write (r : Run) (time : String) : IO UInt32 := do
  if let some path := r.logPath then IO.FS.writeFile path (fileText time r.level r.report)
  IO.eprint (errText time r.level r.report)
  IO.print (outText r.report)
  match r.report.ending with
  | .status code => return code.toUInt32
  | .explained => return 0
  | .misused =>
    IO.eprintln "error: the arguments ask for nothing that there is"
    return 2
  | .failed failure =>
    IO.eprintln failure.message
    return 1

/-- Runs the program with arguments, and answers its status. -/
def program (args : List String) : IO UInt32 := do
  let start ← IO.monoMsNow
  let files ← match ask args with
    | .request r => filesFor r
    | _ => pure (Files.ofList [])
  let time := clockText (((← IO.monoMsNow) - start) / 1000)
  (run files args).write time

end Joinery.CommandLine

def main (args : List String) : IO UInt32 := Joinery.CommandLine.program args
