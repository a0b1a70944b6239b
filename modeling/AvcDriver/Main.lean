import AvcDriver.Tool.Run

/-!
# The command line

Reads the slice file, writes the output file, and prints the report of a run.
-/

namespace AvcDriver.Tool

/-- The system error behind a failed file operation, where it is a known one. -/
def systemError? : IO.Error → Option Memory.SystemError
  | .noFileOrDirectory .. => some .noSuchFile
  | .permissionDenied .. => some .permissionDenied
  | .inappropriateType _ number _ =>
    some (if number = 20 then .notDirectory else .isDirectory)
  | .invalidArgument _ number _ =>
    some (if number = 36 then .nameTooLong else .invalidArgument)
  | _ => none

/-- Do something with a file, telling known errors from others. -/
def onFile {α : Type} (operation : IO α) : IO (Except Memory.SystemError α) := do
  try
    pure (.ok (← operation))
  catch error =>
    match systemError? error with
    | some known => pure (.error known)
    | none => throw error

/-- Read a file whole. -/
def readFile (path : String) : IO (Except Memory.SystemError Bytes) :=
  onFile do
    let file ← IO.FS.Handle.mk path .read
    pure (Block.toBytes (← file.readBinToEnd))

/-- The contents of the slice file, if the user named one. -/
def readSlice (arguments : Arguments) : IO (Except Memory.SystemError Bytes) :=
  match arguments.slice with
  | none => pure (.ok [])
  | some path => readFile path

/-- Write a file whole. -/
def writeFile (path : String) (bytes : Array UInt8) : IO (Except Memory.SystemError Unit) :=
  onFile (IO.FS.writeBinFile path ⟨bytes⟩)

/-- Make the output file, if the user named one and the job can be done. -/
def createOut (arguments : Arguments) (files : Files) : IO (Except Memory.SystemError Unit) :=
  match arguments.out, Job.prepare arguments files with
  | some path, .ok _ => writeFile path #[]
  | _, _ => pure (.ok ())

/-- Print a report. -/
def Report.print (report : Report) : IO UInt32 := do
  for line in report.lines do
    IO.println line
  pure report.status

/-- Run as arguments say. What a finished run could not write is lost. -/
def runArguments (arguments : Arguments) : IO UInt32 := do
  let slice ← readSlice arguments
  let created ← createOut arguments { read := fun _ => slice }
  let outcome := arguments.run {
    read := fun _ => slice
    create := fun _ => created.map fun _ _ => .ok [] }
  if let (some path, some bytes) := (arguments.out, outcome.stream) then
    let _ ← writeFile path bytes
  (outcome.report arguments).print

end AvcDriver.Tool

open AvcDriver.Tool in
/-- The tool. -/
def main (options : List String) : IO UInt32 := do
  match Arguments.parse options with
  | .help => Report.print { lines := usage, status := 0, stream := none }
  | .run arguments => runArguments arguments
