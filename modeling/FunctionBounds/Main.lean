import FunctionBounds.Command.Run
import FunctionBounds.Terminal.CommandLine
import FunctionBounds.Terminal.Layout
import FunctionBounds.Text.Instant

/-!
# The program

Reads the files that the arguments name, carries out the call and writes what it gives.
-/

namespace FunctionBounds

open Command
open Terminal (commandLine helpText)

/-- What a path stands for now. -/
def FileState.read (path : String) : IO FileState := do
  try
    return .file (← IO.FS.readBinFile path).data
  catch
    | .inappropriateType .. => return .directory
    | _ => return .absent

/-- The files that a call of a program in a directory may look at. -/
def Files.read (root : String) (args : List String) : IO Files := do
  let paths := Settings.defaultPath root :: Terminal.General.paths args
  let states ← paths.mapM fun path => return (path, ← FileState.read path)
  return .ofStates (← IO.FS.realPath ".").toString states

/-- What a call finds. A run is a single step in time, so that the steps within it take none. -/
def Environment.read (time : String) (args : List String) : IO Environment := do
  let root := (← IO.appDir).toString
  return {
    renderer := Terminal.renderer
    parser := commandLine
    files := ← Files.read root args
    root
    printTime := time
    saveTime := time
    elapsed := "0.000" }

/-- Writes lines of text. -/
def printLines (out : IO.FS.Stream) (lines : List String) : IO Unit := lines.forM out.putStrLn

/-- Writes a file, and the directories that it lies in. -/
def writeReport (path text : String) : IO Unit := do
  IO.FS.createDirAll (parentPath path)
  IO.FS.writeFile path text

/-- Adds notes to a log file. -/
def appendNotes (path text : String) : IO Unit := do
  IO.FS.createDirAll (parentPath path)
  let file ← IO.FS.Handle.mk path .append
  file.putStr text

/-- Writes the notes of a command to the console for errors and to the log file. -/
def writeNotes (l : Logging) (time : String) (ns : List Note) : IO Unit := do
  (← IO.getStderr).putStr (l.logger.text (l.logger.textLine time) ns)
  if let some path := l.file then
    let line := if l.json then l.logger.jsonLine time else l.logger.textLine time
    appendNotes path (l.logger.text line ns)

/-- Writes what a command gives. -/
def writeAnswer (stream : Stream) (l : Logging) (time : String) (a : Answer) : IO Unit := do
  writeNotes l time a.notes
  (← IO.getStdout).putStr a.stdout
  if let some (path, text) := a.report then writeReport path text
  let console ← if stream = .stderr then IO.getStderr else IO.getStdout
  printLines console (a.console.flatMap (·.lines))
  if let some cause := a.failure then (← IO.getStderr).putStrLn cause.message

/-- Carries out the call that the arguments make, and gives the exit code. -/
def runProgram (args : List String) : IO UInt32 := do
  let time := Text.instant (← Std.Time.Timestamp.now)
  match Command.run (← Environment.read time args) args with
  | .usage => do
    (← IO.getStderr).putStr helpText
    return 2
  | .informed text => do
    (← IO.getStdout).putStr text
    return 0
  | .unsettled cause => do
    (← IO.getStderr).putStrLn cause.message
    return 1
  | .answered stream logging a => do
    writeAnswer stream logging time a
    return a.exitCode.toUInt32

end FunctionBounds

def main (args : List String) : IO UInt32 := FunctionBounds.runProgram args
