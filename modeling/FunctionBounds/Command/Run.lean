import FunctionBounds.Analysis.Run
import FunctionBounds.Command.Call
import FunctionBounds.Display.Views
import FunctionBounds.Logger
import FunctionBounds.Report
import FunctionBounds.Settings

/-!
# Running a command

* `Command.Environment`: what a call finds where it is made.
* `Command.Outcome`: what a call leaves behind.
* `Command.run`: carries out a call.
-/

namespace FunctionBounds.Command

open Console (Item)
open Text (hex)

/-- Where the console is: apart from the results if these are a document. -/
inductive Stream where
  | stdout
  | stderr
  deriving DecidableEq, Repr

/-- An error that no command reports itself. -/
inductive Failure where
  | settings (cause : SettingsError)
  | level (cause : LevelError)
  /-- A path holds the character that ends paths. -/
  | nulInPath
  /-- What was to be shown or printed cannot be. -/
  | output (cause : Console.Fault)
  deriving DecidableEq, Repr

/-- The sentence that reports an error. -/
def Failure.message : Failure → String
  | settings cause => cause.message
  | level cause => cause.message
  | nulInPath => "embedded null byte"
  | output cause => cause.message

/-- What a command gives: its results, what it shows, and how it ends. -/
structure Answer where
  exitCode : Nat := 0
  stdout : String := ""
  console : List Item := []
  failure : Option Failure := none
  /-- A path and the text that is written to it. -/
  report : Option (String × String) := none
  notes : List Note := []

/-- Where the notes of a command go beside the console for errors. -/
structure Logging where
  logger : Logger
  file : Option String
  /-- Whether the file holds JSON. -/
  json : Bool

/-- What a call leaves behind. -/
inductive Outcome where
  /-- The arguments are wrong. -/
  | usage
  /-- The version or help was asked for and is printed. -/
  | informed (stdout : String)
  /-- The settings or a path cannot be used, so that no command was carried out. -/
  | unsettled (cause : Failure)
  | answered (stream : Stream) (logging : Logging) (a : Answer)

/-- What a call finds where it is made. -/
structure Environment where
  renderer : Renderer
  parser : ArgumentParser
  files : Files
  /-- The directory of the program. -/
  root : String
  /-- The time at which a document is printed. -/
  printTime : String
  /-- The time at which a report is saved. -/
  saveTime : String
  /-- The time that an analysis took. -/
  elapsed : String

/-- What commands go by. -/
structure Context extends Environment where
  general : General
  settings : Settings

/-- An error that a command does not report itself. -/
def Answer.failed (a : Answer) (cause : Failure) : Answer :=
  { a with exitCode := 1, failure := some cause }

/-- Shows more, unless the command has failed. -/
def Answer.shows (a : Answer) (shown : Console.Output) : Answer :=
  match a.failure, shown.fault with
  | some _, _ => a
  | none, none => { a with console := a.console ++ shown.items }
  | none, some fault => { a with console := a.console ++ shown.items }.failed (.output fault)

/-- Prints a document and ends its last line. -/
def printed (j : Json) : Answer :=
  let w := j.pretty .standard
  match w.fault with
  | none => { stdout := w.text ++ "\n" }
  | some cause => Answer.failed {} (.output (.number cause))

/-- An error that ends a command. -/
def refused (c : Context) (message : String) : Answer :=
  { Answer.shows {} (Console.error c.renderer message) with exitCode := 1 }

/-- Opens the file and goes on with its session. -/
def withSession (c : Context) (f : Session → Answer) : Answer :=
  let path := c.general.path
  match c.files.contents path with
  | .ok d =>
    let opened := Session.ofBytes d (collapsePath path)
    match opened.result with
    | .ok s =>
      let a := f s
      { a with notes := opened.notes ++ a.notes }
    | .error e =>
      { refused c s!"Failed to open {path}: {e.message}" with notes := opened.notes }
  | .error e => refused c s!"Failed to open {path}: {e.message}"

/-- Shows the entry point. -/
def runEntry (c : Context) (s : Session) : Answer :=
  if c.general.json then
    printed (.object [
      ("path", .string s.path),
      ("entry_point", .integer s.entryPoint),
      ("entry_point_hex", .string (hex s.entryPoint))])
  else { stdout := s!"Entry point: {hex s.entryPoint}\n" }

/-- A region as a member of the list of regions. -/
def regionJson (r : RegionInfo) : Json := .object [
  ("name", .string r.name),
  ("virtual_address", .integer r.virtualAddress),
  ("size", .integer r.size),
  ("file_offset", .integer r.fileOffset),
  ("flags", .integer r.flags),
  ("kind", .string r.kind.name)]

/-- Lists the regions. -/
def runSections (c : Context) (s : Session) : Answer :=
  let regions := s.regions.map (·.toRegionInfo)
  if c.general.json then
    printed (.object [
      ("path", .string s.path),
      ("is_stripped", .boolean s.stripped),
      ("regions", .array (regions.map regionJson))])
  else Answer.shows {} (regionsView c.renderer regions s.stripped)

/-- A dump as a document, of which `contents` is the last member. -/
def dumpJson (r : Region) (contents : String × Json) : Json := .object [
  ("name", .string r.name),
  ("virtual_address", .integer r.virtualAddress),
  ("size", .integer r.raw.size),
  contents]

/-- Lists the strings of a region. -/
def runStrings (c : Context) (r : Region) : Answer :=
  if c.general.json then
    printed (dumpJson r ("strings", .array ((StringTable.entries r.raw).map
      fun (off, text) => .object [("offset", .integer off), ("value", .string text)])))
  else Answer.shows {} r.stringsView

/-- Dumps the octets of a region in lines of `width` octets. -/
def runHexdump (c : Context) (r : Region) (width : Int) : Answer :=
  if c.general.json then
    match Hexdump.lines r.raw r.virtualAddress width with
    | .ok lines => printed (dumpJson r ("hexdump", .array (lines.map .string)))
    | .error e => Answer.failed {} (.output (.hexdump e))
  else Answer.shows {} (r.dumpView width)

/-- Dumps a region. The width of lines matters only where octets are shown. -/
def runDump (c : Context) (name : String) (strings : Bool) (s : Session) : Answer :=
  match s.requireRegion name with
  | .error e => refused c e.message
  | .ok r =>
    if strings then runStrings c r
    else
      match c.settings.hexdumpWidth with
      | .ok width => runHexdump c r width
      | .error e =>
        (Answer.shows {} (if c.general.json then {} else r.dumpHeading)).failed (.settings e)

/-- Writes a report of an analysis, unless the command has failed. A report that breaks off at a
number that is too long is kept up to there. -/
def saveReport (c : Context) (document : Json) (path : String) (a : Answer) : Answer :=
  match a.failure with
  | some _ => a
  | none =>
    let w := document.pretty .standard
    let a := { a with report := some (path, w.text) }
    match w.fault with
    | none => a.shows (Console.success c.renderer s!"JSON report saved: {c.files.resolve path}")
    | some cause => a.failed (.output (.number cause))

/-- Shows an analysis, and writes a report of it if a path for one is given. -/
def showAnalysis (c : Context) (a : Analysis) : Answer :=
  let answer := if c.general.json then printed (a.report c.printTime)
    else Answer.shows {} (a.view c.renderer)
  match c.general.output with
  | some path => if path.isEmpty then answer else saveReport c (a.report c.saveTime) path answer
  | none => answer

/-- The kinds of regions to mine: those asked for, or else those of the settings. -/
def kindsToMine (c : Context) (asked : Option (List Evidence)) :
    Except SettingsError (List Evidence) :=
  match asked with
  | some kinds => .ok kinds
  | none => c.settings.evidence

/-- Why there is no analysis to show. -/
inductive FunctionsError where
  | analysis (cause : AnalysisError)
  | settings (cause : SettingsError)
  deriving DecidableEq, Repr

/-- Analyses the file. The size limit of the settings is looked at once there is a file to compare
with it, and the kinds of regions once the file is known to be small enough. -/
def analyse (c : Context) (asked : Option (List Evidence)) : Noted FunctionsError Analysis := do
  let path := c.general.path
  let d ← Noted.of ((Analysis.contents c.files path).mapError .analysis)
  let maximum ← Noted.of (c.settings.sizeLimit.mapError .settings)
  (Analysis.start path d maximum).mapError .analysis
  let kinds ← Noted.of ((kindsToMine c asked).mapError .settings)
  (Analysis.ofBytes d (c.files.resolve path) kinds c.elapsed).mapError .analysis

/-- Analyses the file and shows what was found. -/
def runFunctions (c : Context) (asked : Option (List Evidence)) : Answer :=
  let made := analyse c asked
  let answer := match made.result with
    | .ok a => showAnalysis c a
    | .error (.analysis e) => refused c s!"Analysis failed: {e.message}"
    | .error (.settings (.unknownEvidence e)) => refused c s!"Analysis failed: {e.message}"
    | .error (.settings e) => Answer.failed {} (.settings e)
  { answer with notes := made.notes }

/-- Carries out a request. -/
def Request.run (c : Context) : Request → Answer
  | entry => withSession c (runEntry c)
  | functions kinds => runFunctions c kinds
  | sections => withSession c (runSections c)
  | dump region strings => withSession c (runDump c region strings)

/-- What a refused call leaves behind. -/
def Refusal.outcome : Refusal → Outcome
  | usage => .usage
  | informed text => .informed text
  | nulInPath => .unsettled .nulInPath

/-- How many levels there are for nested values in the settings of a call: reading the arguments
takes seven. -/
def settingsRoom : Nat := Toml.maxDepth - 7

/-- The least weight of the notes that are written. The level of the settings is not looked at
where everything is to be logged. -/
def thresholdOf (g : General) (s : Settings) : Except Failure Nat := do
  let level ← if g.verbose || Settings.isSet s.debug then pure "DEBUG"
    else s.levelName.mapError .settings
  (threshold level).mapError .level

/-- Where notes go. -/
def loggingOf (g : General) (s : Settings) : Except Failure Logging := do
  let threshold ← thresholdOf g s
  let file ← s.logPath.mapError .settings
  if file.any hasNul then throw .nulInPath
  return ⟨⟨"cli", threshold⟩, file, Settings.isSet s.logJson⟩

/-- What commands go by, and where their notes go. -/
def prepare (env : Environment) (general : General) : Except Failure (Context × Logging) := do
  let settings ← (Settings.find env.files env.root general.config settingsRoom).mapError .settings
  let logging ← loggingOf general settings
  return ({ env with general, settings }, logging)

/-- Carries out a call. Settings are read before the arguments of the command are looked at. -/
def run (env : Environment) (args : List String) : Outcome :=
  match env.parser.read env.files args with
  | .error r => r.outcome
  | .ok (general, invocation) =>
    match prepare env general with
    | .error cause => .unsettled cause
    | .ok (context, logging) =>
      match invocation.bind (·.request) with
      | .error r => r.outcome
      | .ok request =>
        .answered (if general.json then .stderr else .stdout) logging (request.run context)

end FunctionBounds.Command
