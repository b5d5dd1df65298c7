import NativeStyle.CommandLine.Run

/-!
# The program

Reads what a command needs, runs it, and shows its report. All decisions are those of the command;
this module only talks to the system.
-/

namespace NativeStyle.CommandLine

/-! ## Reading -/

/-- The paths of the files that a command reads. -/
def Command.inputs : Command → List Text
  | .transform files _ _ => files.filter (· ≠ standardPath)
  | .version | .check _ _ => []

/-- Whether a command reads the standard input. -/
def Command.readsStandard : Command → Bool
  | .transform files _ _ => files.isEmpty || files.contains standardPath
  | .version | .check _ _ => false

/-- The content of a file, if it can be opened. -/
def openFile (path : Text) : IO (Except Obstacle ByteArray) := do
  if '\x00' ∈ path then return .error .noPath
  try
    return .ok (← IO.FS.readBinFile (String.ofList path))
  catch _ => return .error .missing

/-- All that is left of a stream, behind what has been read of it. -/
partial def readAll (stream : IO.FS.Stream) (before : ByteArray) : IO ByteArray := do
  let chunk ← stream.read 65536
  if chunk.isEmpty then return before else readAll stream (before ++ chunk)

/-- The environment as far as the program looks at it. -/
def readEnvironment : IO (List (Text × Text)) := do
  match ← IO.getEnv (String.ofList Options.debugVariable) with
  | some value => return [(Options.debugVariable, value.toList)]
  | none => return []

/-! ## Writing -/

/-- The reason that the system gives for a failure. -/
def reasonOf : IO.Error → Text
  | .noFileOrDirectory _ _ _ => Obstacle.missing.message
  | .inappropriateType _ _ reason => reason.toList
  | error => (toString error).toList

/-- The report after its file has been written. -/
def writeFile (report : Report) : IO Report := do
  match report.written with
  | none => return report
  | some (path, text) =>
    if '\x00' ∈ path then return report.brokenOff .noPath
    try
      IO.FS.writeBinFile (String.ofList path) (Text.toUtf8 text)
      return report
    catch error => return report.notWritten path (reasonOf error)

/-- What is said about a run that broke off. -/
def Crash.message : Crash → Text
  | undecodable => "An input is not UTF-8".toList
  | unreadableTime => "An animation holds a time without a value".toList
  | noPath => Obstacle.noPath.message

/-- Prints a report. -/
def printReport (report : Report) : IO UInt32 := do
  (← IO.getStdout).putStr (String.ofList report.output)
  let errors ← IO.getStderr
  errors.putStr (String.ofList (Text.lines report.errors))
  if let some crash := report.crash then
    errors.putStrLn (String.ofList crash.message)
  return report.exitCode.toUInt32

/-- Prints how the program is to be called. -/
def printUsage : IO UInt32 := do
  (← IO.getStderr).putStrLn
    "Usage: ns-tailwind --version | check PROP [VALUE] | transform [-o FILE] [--debug] [FILES]"
  return 2

end NativeStyle.CommandLine

open NativeStyle NativeStyle.CommandLine

/-- Runs the command that the arguments ask for. -/
def main (arguments : List String) : IO UInt32 := do
  match Command.ofArguments? (arguments.map String.toList) with
  | none => printUsage
  | some command =>
    let files ← command.inputs.mapM fun path => return (path, ← openFile path)
    let standardInput ←
      if command.readsStandard then readAll (← IO.getStdin) .empty else pure .empty
    let contents (path : Text) := (files.lookup path).getD (.error .missing)
    match command.run? (← readEnvironment) standardInput contents with
    | none => printUsage
    | some report => printReport (← writeFile report)
