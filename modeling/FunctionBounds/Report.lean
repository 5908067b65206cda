import FunctionBounds.Analysis.Basic
import FunctionBounds.Json
import FunctionBounds.Text.Number

/-!
# Reports

* `Analysis.report`: an analysis as a JSON document, with addresses as numbers and as text.
-/

namespace FunctionBounds

open Text (hex)

/-- The version of the program. -/
def version : String := "0.1.0"

/-- A region as a member of a report. -/
def RegionInfo.report (r : RegionInfo) : Json := .object [
  ("name", .string r.name),
  ("kind", .string r.kind.name),
  ("virtual_address", .integer r.virtualAddress),
  ("virtual_address_hex", .string (hex r.virtualAddress)),
  ("size", .integer r.size),
  ("file_offset", .integer r.fileOffset),
  ("flags", .integer r.flags)]

/-- A function as a member of a report. -/
def Candidate.report (c : Candidate) : Json := .object [
  ("identifier", .string c.name),
  ("start", .integer c.start),
  ("start_hex", .string (hex c.start)),
  ("end", .integer c.stop),
  ("end_hex", .string (hex c.stop)),
  ("size", .integer c.size)]

/-- The file as a member of a report. -/
def BinaryInfo.report (i : BinaryInfo) : Json := .object [
  ("path", .string i.path),
  ("size", .integer i.size),
  ("format", .string i.format.name),
  ("arch", .string i.arch),
  ("machine", .integer i.machine),
  ("bits", .integer i.bits),
  ("entry_point", .integer i.entryPoint),
  ("entry_point_hex", .string (hex i.entryPoint)),
  ("is_executable", .boolean i.isExecutable),
  ("is_stripped", .boolean i.isStripped),
  ("sha256", .string i.sha256)]

/-- An analysis as a document; `time` says when it was made. -/
def Analysis.report (a : Analysis) (time : String) : Json := .object [
  ("report_type", .string "carve_function_recovery"),
  ("version", .string version),
  ("generated_at", .string time),
  ("binary_info", a.info.report),
  ("regions", .array (a.regions.map (·.report))),
  ("functions", .object [
    ("total_count", .integer a.functions.length),
    ("by_source_region", .object (a.sourceCounts.map fun (name, n) => (name, .integer n))),
    ("items", .array (a.functions.map (·.report)))]),
  ("warnings", .array (a.warnings.map .string))]

end FunctionBounds
