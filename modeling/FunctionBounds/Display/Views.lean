import FunctionBounds.Analysis.Basic
import FunctionBounds.Display.Console
import FunctionBounds.Display.Hexdump
import FunctionBounds.StringTable

/-!
# Views

What the console shows of results.

* `BinaryInfo.view`, `Analysis.view`: a file, and a whole analysis.
* `functionsView`, `regionsView`: tables.
* `Region.dumpView`: the octets of a region, or its strings.
-/

namespace FunctionBounds

open Console (Fault Item Output)
open Text (hex)

/-- Yes or no. -/
def yesNo (b : Bool) : String := if b then "yes" else "no"

/-- The lines about a file, which hold markup. The path is taken as it comes. -/
def BinaryInfo.lines (i : BinaryInfo) : Except Fault (List String) := do
  let size ← Console.grouped i.size
  let kibi ← (Text.kibi? i.size).elim (.error .hugeQuotient) .ok
  let bits ← Console.decimal i.bits
  return [
    s!"[bold]File:[/bold]        {i.path}",
    s!"[bold]Size:[/bold]        {size} bytes ({kibi} KiB)",
    s!"[bold]Format:[/bold]      {i.format.name.map Char.toUpper}",
    s!"[bold]Arch:[/bold]        {i.arch} ({bits}-bit)",
    s!"[bold]Entry Point:[/bold] {hex i.entryPoint}",
    s!"[bold]Executable:[/bold]  {yesNo i.isExecutable}",
    s!"[bold]Stripped:[/bold]    {yesNo i.isStripped}"] ++
    if i.sha256.isEmpty then [] else [s!"[bold]SHA-256:[/bold]     {i.sha256}"]

/-- The lines of a text. -/
def linesOf (text : String) : List String := (text.toList.splitOn '\n').map String.ofList

section Rendered

variable (render : Renderer)

/-- The panel about a file. -/
def BinaryInfo.view (i : BinaryInfo) : Output :=
  .ofExcept (do
    let text ← Console.plain render ("\n".intercalate (← i.lines))
    return [Item.panel "Binary Information" (linesOf text)]) ++
  Console.blank

/-- The entry point: the function there, or the bare address if none of any size is known. -/
def entryView (f : Option Candidate) (entryPoint : Int) : Output :=
  let address := fun (a : Int) => s!"Entry point: [carve.address]{hex a}[/carve.address]"
  match f with
  | some c =>
    if c.size = 0 then Console.markup render (address entryPoint)
    else Console.markup render s!"{address c.start} (size {hex c.size})"
  | none => Console.markup render (address entryPoint)

/-- The number of functions, and how many candidates each region gave. -/
def totalView (count : Nat) (counts : SourceCounts) : Output :=
  .ofExcept do
    let parts ← counts.mapM fun (name, n) => return s!"{name}: {← Console.decimal n}"
    let text ← Console.plain render (s!"[bold]Total:[/bold] {count}" ++
      if counts.isEmpty then "" else "  [dim](" ++ ", ".intercalate parts ++ ")[/dim]")
    return [.text text]

/-- The cells of a function. -/
def Candidate.cells (c : Candidate) : Except Console.Fault (List String) :=
  return [c.name, hex c.start, hex c.stop, ← Console.grouped c.size]

/-- The table of functions. -/
def functionsView (functions : List Candidate) (counts : SourceCounts) : Output :=
  Console.heading "Functions" ++
    if functions.isEmpty then
      Console.warning render "No functions found (unwind tables missing or stripped binary)."
    else
      .ofExcept (do
        let rows ← functions.mapM Candidate.cells
        return [Item.table none ["Function", "Start", "End", "Size"] rows]) ++
      totalView render functions.length counts ++ Console.blank

/-- The table of regions. -/
def regionsView (regions : List RegionInfo) (stripped : Bool) : Output :=
  Console.heading (if stripped then "Segments" else "Sections") ++
    if regions.isEmpty then Console.warning render "No regions found."
    else
      .one (.table none ["#", "Name", "VAddr", "Size", "Offset", "Flags"]
        (regions.zipIdx.map fun (r, i) =>
          [toString i, if r.name.isEmpty then "<unnamed>" else r.name, hex r.virtualAddress,
            hex r.size, hex r.fileOffset, r.flagsText])) ++
      Console.blank

/-- The warnings of an analysis. -/
def warningsView (warnings : List String) : Output := .join (warnings.map (Console.warning render))

/-- A whole analysis. -/
def Analysis.view (a : Analysis) : Output :=
  Console.heading "CARVE -- Function Boundary Recovery" ++ a.info.view render ++
    functionsView render a.functions a.sourceCounts ++ warningsView render a.warnings ++
    Console.divider

end Rendered

namespace Region

/-- The title of a dump. -/
def dumpHeading (r : Region) : Output :=
  Console.heading s!"{r.name} ({Text.grouped r.raw.size} bytes)"

/-- The strings of a region. -/
def stringsView (r : Region) : Output :=
  r.dumpHeading ++ .one (.table (some r.name) ["Offset", "String"]
    ((StringTable.entries r.raw).map fun (off, text) => [hex off, text]))

/-- The octets of a region in lines of `width` octets. The title is shown also where there is no
dump of that width. -/
def dumpView (r : Region) (width : Int) : Output :=
  r.dumpHeading ++ .ofExcept (do
    let lines ← (Hexdump.lines r.raw r.virtualAddress width).mapError .hexdump
    return lines.map .text)

end Region

end FunctionBounds
