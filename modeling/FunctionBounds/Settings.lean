import FunctionBounds.Analysis.SizeLimit
import FunctionBounds.Files
import FunctionBounds.Source
import FunctionBounds.Text.Utf8
import FunctionBounds.Toml.Document

/-!
# Settings

Settings come from two tables of a TOML document. Keys that are not known are ignored, and what is
not given has a default. A value is only looked at when it is used.

* `Settings.load`, `Settings.loadFile`: the settings of a document.
* `Settings.find`: the settings of a program, from a file that is named or the default one.
* `Settings.tables`: the settings as a document.
* `Settings.sizeLimit`, …: a setting as a value of its type.
-/

namespace FunctionBounds

open Toml (Value)

/-- The regions that are mined unless others are asked for. Unwind data comes first, so that its
sizes win over those of the search table. -/
def defaultSources : List Evidence := [.ehFrame, .ehFrameHdr, .dynsym, .symtab]

/-- The settings as they were given. -/
structure Settings where
  logLevel : Value := .string "INFO"
  logFile : Value := .string ""
  logJson : Value := .boolean false
  debug : Value := .boolean false
  maxFileSizeValue : Value := .integer 104857600
  sourcesValue : Value := .array (defaultSources.map fun k => .string k.regionName)
  hexdumpWidthValue : Value := .integer 16
  deriving Repr

/-- Why settings cannot be used. -/
inductive SettingsError where
  | notFound (path : String)
  | unreadable (cause : FileError)
  /-- The octets of the file are no text. -/
  | notText (cause : Text.Utf8.Fault)
  | document (cause : Toml.Error)
  /-- What should be a table is something else. -/
  | notTable (name : String)
  /-- What should be a text is something else. -/
  | notString (setting : String)
  /-- A setting has a value of another type. -/
  | illTyped (setting : String)
  /-- A kind of region is not known. -/
  | unknownEvidence (cause : Evidence.Unknown)
  deriving DecidableEq, Repr

/-- The sentence that reports an error. -/
def SettingsError.message : SettingsError → String
  | notFound path => "Configuration file not found: " ++ path
  | unreadable cause => cause.message
  | notText cause => cause.message
  | document cause => cause.message
  | notTable name => s!"Not a table: {name}"
  | notString setting => s!"Not a text: {setting}"
  | illTyped setting => s!"Invalid value for {setting}"
  | unknownEvidence cause => cause.message

namespace Settings

/-- The table of a name, which is empty if it is not given. -/
def tableOf (t : Toml.Table) (name : String) : Except SettingsError Toml.Table :=
  match t.get? name with
  | none => .ok []
  | some (.table inner) => .ok inner
  | some _ => .error (.notTable name)

/-- The settings of a document, read with `room` levels for nested values. -/
def load (text : String) (room : Nat := Toml.maxDepth) : Except SettingsError Settings := do
  let root ← (Toml.parse text room).mapError .document
  let general ← tableOf root "global"
  let analysis ← tableOf root "analysis"
  let defaults : Settings := {}
  return {
    logLevel := (general.get? "log_level").getD defaults.logLevel
    logFile := (general.get? "log_file").getD defaults.logFile
    logJson := (general.get? "log_json").getD defaults.logJson
    debug := (general.get? "debug").getD defaults.debug
    maxFileSizeValue := (analysis.get? "max_file_size").getD defaults.maxFileSizeValue
    sourcesValue := (analysis.get? "sources").getD defaults.sourcesValue
    hexdumpWidthValue := (analysis.get? "hexdump_width").getD defaults.hexdumpWidthValue }

/-- The settings of a file, read with `room` levels for nested values. -/
def loadFile (files : Files) (path : String) (room : Nat := Toml.maxDepth) :
    Except SettingsError Settings :=
  match files.contents path with
  | .ok d => do load (← (Text.Utf8.read d).mapError .notText) room
  | .error (.absent path) => .error (.notFound path)
  | .error cause => .error (.unreadable cause)

/-- Where the settings of a program in a directory are unless a file is named. -/
def defaultPath (root : String) : String := root ++ "/config.toml"

/-- The settings of a program in the directory `root`: those of the file that is named, or else of
the default one if there is any. They are read with `room` levels for nested values. -/
def find (files : Files) (root : String) (named : Option String) (room : Nat := Toml.maxDepth) :
    Except SettingsError Settings :=
  match named with
  | some path => loadFile files path room
  | none =>
    match files.look (defaultPath root) with
    | .absent => .ok {}
    | _ => loadFile files (defaultPath root) room

/-- How many levels a value may take where settings are listed. -/
def listingLevels : Nat := 992

/-- The two tables of a document that gives all settings. -/
def tables (s : Settings) : Except SettingsError (Toml.Table × Toml.Table) :=
  let general : Toml.Table := [("log_level", s.logLevel), ("log_file", s.logFile),
    ("log_json", s.logJson), ("debug", s.debug)]
  let analysis : Toml.Table := [("max_file_size", s.maxFileSizeValue),
    ("sources", s.sourcesValue), ("hexdump_width", s.hexdumpWidthValue)]
  if (general ++ analysis).all fun (_, v) => v.levels ≤ listingLevels then .ok (general, analysis)
  else .error (.document .tooDeep)

/-- Whether a value counts as set: it is not zero, not false and not empty. -/
def isSet : Value → Bool
  | .string s => !s.isEmpty
  | .integer n => n != 0
  | .float x => !x.isZero
  | .boolean b => b
  | .date _ => true
  | .array items => !items.isEmpty
  | .table entries => !entries.isEmpty

/-- The name of the level, which is a text. -/
def levelName (s : Settings) : Except SettingsError String :=
  match s.logLevel with
  | .string name => .ok name
  | _ => .error (.notString "log_level")

/-- The path of the log file, if there is to be one. -/
def logPath (s : Settings) : Except SettingsError (Option String) :=
  match isSet s.logFile, s.logFile with
  | false, _ => .ok none
  | true, .string path => .ok (some path)
  | true, _ => .error (.illTyped "log_file")

/-- The size of the largest file that is read; a boolean counts as zero or one. -/
def sizeLimit (s : Settings) : Except SettingsError SizeLimit :=
  match s.maxFileSizeValue with
  | .integer n => .ok (.integer n)
  | .boolean b => .ok (.integer (if b then 1 else 0))
  | .float x => .ok (.real x)
  | _ => .error (.illTyped "max_file_size")

/-- The number of octets in a line of a hex dump; a boolean counts as zero or one. -/
def hexdumpWidth (s : Settings) : Except SettingsError Int :=
  match s.hexdumpWidthValue with
  | .integer n => .ok n
  | .boolean b => .ok (if b then 1 else 0)
  | _ => .error (.illTyped "hexdump_width")

/-- The kind of region that an item of a list names. -/
def evidenceOf : Value → Except SettingsError Evidence
  | .string text => (Evidence.parse text).mapError .unknownEvidence
  | _ => .error (.notString "sources")

/-- The kinds of regions to mine: the items of a list, the characters of a text, or the keys of a
table. The first one that names no kind is the error. -/
def evidence (s : Settings) : Except SettingsError (List Evidence) :=
  match s.sourcesValue with
  | .array items => items.mapM evidenceOf
  | .string text => text.toList.mapM fun c => evidenceOf (.string c.toString)
  | .table entries => entries.mapM fun (key, _) => evidenceOf (.string key)
  | _ => .error (.illTyped "sources")

end Settings

end FunctionBounds
