import FunctionBounds.Command.Call
import FunctionBounds.Report
import FunctionBounds.Terminal.Alphanumeric
import FunctionBounds.Terminal.Arguments

/-!
# The command line

The arguments of a call as a shell hands them over.

* `General.parse`: the options before the command, and the arguments from the command on.
* `General.paths`: the paths that a call may look at.
* `Verb.parse`, `Verb.invocation`: the command and its own arguments.
* `commandLine`: what reads all of them.

The program runs with this parser. What is said of calls elsewhere holds of any parser.
-/

namespace FunctionBounds.Terminal

open Command

/-- The line that gives the version. -/
def versionText : String := s!"carve, version {version}\n"

/-- How the program is called. -/
def helpText : String :=
  "Usage: carve [OPTIONS] PATH COMMAND [ARGS]...\n\n" ++
  "Options:\n  -c, --config FILE\n  --json\n  -o, --output FILE\n  -v, --verbose\n" ++
  "  --version\n  --help\n\n" ++
  "Commands:\n  entry\n  functions [-s, --source KIND]...\n  sections\n" ++
  "  dump [--strings] REGION\n"

/-- The options for all commands. -/
inductive GeneralOption where
  | config
  | json
  | output
  | verbose
  | version
  | help
  deriving DecidableEq, Repr

/-- How the options for all commands are written. -/
def generalOptions : List (OptionSpec GeneralOption) := [
  { id := .config, long := "config", short := some 'c', takesValue := true },
  { id := .json, long := "json" },
  { id := .output, long := "output", short := some 'o', takesValue := true },
  { id := .verbose, long := "verbose", short := some 'v' },
  { id := .version, long := "version" },
  { id := .help, long := "help" }]

namespace General

/-- The first option that asks for the version or for help. -/
def informing? (a : Arguments GeneralOption) : Option Refusal :=
  a.options.findSome? fun
    | (.version, _) => some (.informed versionText)
    | (.help, _) => some (.informed helpText)
    | _ => none

/-- Whether a path stands for something that can be read. -/
def isFile (files : Files) (path : String) : Bool := (files.contents path).toOption.isSome

/-- Whether a path can be written to. -/
def isWritable (files : Files) (path : String) : Bool := files.look path != .directory

/-- No refusal for a path that serves its purpose. -/
def checkPath (serves : String → Bool) (path : String) : Except Refusal Unit :=
  if hasNul path then .error .nulInPath else if serves path then .ok () else .error .usage

/-- No refusal for an option whose last path serves its purpose. -/
def checkOption (files : Files) (a : Arguments GeneralOption) (id : GeneralOption) :
    Except Refusal Unit :=
  match id with
  | .config => (a.value? .config).toList.forM (checkPath (isFile files))
  | .output => (a.value? .output).toList.forM (checkPath (isWritable files))
  | _ => .ok ()

/-- The options before the command, and the arguments from the command on. Paths are looked at in
the order in which their options were first given, the file last. Files that are read have to
exist. -/
def parse (files : Files) (args : List String) : Except Refusal (General × List String) := do
  if args.isEmpty then throw .usage
  match Arguments.parse generalOptions false args with
  | none => throw .usage
  | some a =>
    if let some r := informing? a then throw r
    (a.options.map (·.1)).eraseDups.forM (checkOption files a)
    match a.operands with
    | [] => throw .usage
    | path :: rest =>
      checkPath (isFile files) path
      return (⟨path, a.value? .config, a.has .json, a.value? .output, a.has .verbose⟩, rest)

/-- Every path that `parse` or a command may look at. -/
def paths (args : List String) : List String :=
  match Arguments.parse generalOptions false args with
  | none => []
  | some a => a.operands.take 1 ++ a.values .config ++ a.values .output

end General

/-- The commands of the program. -/
inductive Verb where
  | entry
  | functions
  | sections
  | dump
  deriving DecidableEq, Repr

namespace Verb

/-- The command of a name. -/
def ofName? : String → Option Verb
  | "entry" => some entry
  | "functions" => some functions
  | "sections" => some sections
  | "dump" => some dump
  | _ => none

/-- Whether a name that is not known is read as options for all commands once more: it starts with
neither a letter nor a digit of any script. -/
def isOptionLike (name : String) : Bool := name.toList.head?.any (!Text.isAlphanumeric ·)

/-- The command that arguments start with. A name that is not known may still ask for the version
or for help, or give a path that cannot be looked at. -/
def parse (files : Files) (args : List String) : Except Refusal (Verb × List String) := do
  match args with
  | [] => throw .usage
  | name :: rest =>
    match ofName? name with
    | some verb => return (verb, rest)
    | none =>
      if isOptionLike name then let _ ← General.parse files args
      throw .usage

end Verb

/-- The options of single commands. -/
inductive VerbOption where
  | source
  | strings
  | help
  deriving DecidableEq, Repr

/-- How the options of a command are written. -/
def Verb.options : Verb → List (OptionSpec VerbOption)
  | functions => [
    { id := .source, long := "source", short := some 's', takesValue := true },
    { id := .help, long := "help" }]
  | dump => [{ id := .strings, long := "strings" }, { id := .help, long := "help" }]
  | _ => [{ id := .help, long := "help" }]

/-- What the arguments of a command say. -/
def Verb.invocation (verb : Verb) (args : List String) : Except Refusal Invocation :=
  match Arguments.parse verb.options true args with
  | none => .error .usage
  | some a =>
    if a.has .help then .error (.informed helpText)
    else
      match verb, a.operands with
      | .entry, [] => .ok .entry
      | .sections, [] => .ok .sections
      | .functions, [] => .ok (.functions (a.values .source))
      | .dump, [region] => .ok (.dump region (a.has .strings))
      | _, _ => .error .usage

/-- What reads the arguments that a shell hands over. -/
def commandLine : ArgumentParser where
  read := fun files args => do
    let (general, rest) ← General.parse files args
    let (verb, rest) ← Verb.parse files rest
    return (general, verb.invocation rest)

end FunctionBounds.Terminal
